import Rollout.Proofs.Progress.Effort
import Rollout.Proofs.Progress.Permits
import Rollout.Proofs.Progress.Requests
import Rollout.Proofs.Progress.Termination

/-!
# Every pass ends

A pass may begin in any state whose plan is what is left of one that was built: nothing is assumed
of the statuses, nor of the bodies that have been started.  As long as callbacks return, such a pass
comes to its end in whatever order its moves are made, and it makes no more evaluations than there
are leaves and edges in the live graph at its beginning (`every_pass_ends`).
-/

namespace Rollout.Engine

open Rollout.Plan

variable {ω : Type} {d : Deployment} {p : Plan} {s : State ω} {q q' : Pass ω} {n : NodeId}
  {k : Task} {t : TaskId} {pause : Pause} {ask : Condition → ω → Readiness × ω}
  {concurrency : Option ℕ} {m : Move ω} {ms : List (Move ω)} {l : Ledger}
  {segment : StateM (State ω) Progress}

/-- The pass that begins in a state: the leaves are queued, and the deadline is still to pass. -/
def Pass.opening (s : State ω) (concurrency : Option ℕ) : Pass ω :=
  .ofState { s with queue := s.plan.leaves, stopped := false } concurrency

/-! ## What every move keeps -/

/-- Whoever is to be evaluated can be, and whoever has paused can go on. -/
structure Tended (p : Plan) (concurrency : Option ℕ) (q : Pass ω) : Prop
    extends q.Arranged concurrency where
  left : p.Remainder q.shared.plan
  evaluable : ∀ {n}, n ∈ q.nodes ++ q.shared.queue → Evaluable n q.shared
  paused : ∀ {t n pause}, q.pausedAt? t = some (n, pause) → Unblocked p n q.shared

/-- At the beginning only leaves are to be evaluated, which are in the live graph. -/
theorem tended_opening (hs : p.Remainder s.plan) (concurrency : Option ℕ) :
    Tended p concurrency (.opening s concurrency) where
  toArranged := .ofState _ concurrency
  left := hs
  evaluable {n} hn := by
    have hleaf : n ∈ s.plan.leaves := hn
    exact fun _ => .inl (Digraph.mem_leaves.1 hleaf).1
  paused h := by cases h

namespace Tended

section Segments

variable (hp : p.Runnable) (h : Tended p concurrency q)

include hp h

/-! The three segments of an evaluation. -/

theorem begin (hk : q.task? t = some k) (ask : Condition → ω → Readiness × ω) :
    Served l p k.node q.shared ((Engine.begin ask k.node).run q.shared).1
      ((Engine.begin ask k.node).run q.shared).2 :=
  served_begin hp h.left (h.evaluable (List.mem_append_left _ (Pass.mem_nodes hk))) ask

theorem resumeBody (ht : q.pausedAt? t = some (n, pause)) (answer : Answer Unit) :
    Served l p n q.shared ((Engine.resumeBody n answer).run q.shared).1
      ((Engine.resumeBody n answer).run q.shared).2 :=
  served_resume hp h.left (h.paused ht) (fun _ r hnode => manages_bodyEnded hp hnode r) answer

theorem resumeCheck (ht : q.pausedAt? t = some (n, pause)) (answer : Answer Readiness) :
    Served l p n q.shared ((Engine.resumeCheck n answer).run q.shared).1
      ((Engine.resumeCheck n answer).run q.shared).2 :=
  served_resume hp h.left (h.paused ht) (fun _ r hnode => manages_checkAnswered hp hnode r) answer

end Segments

/-- A move evaluates nothing, or it runs one segment of an evaluation. -/
theorem cases_after (hp : p.Runnable) (h : Tended p concurrency q) (hm : q.allows m = true)
    (ask : Condition → ω → Readiness × ω) (l : Ledger) :
    (Quiet q.shared (q.after ask concurrency m).shared ∧
        (q.after ask concurrency m).pausedAt? = q.pausedAt? ∧
        (m.stops = false → (q.after ask concurrency m).shared.stopped = q.shared.stopped)) ∨
      m.stops = false ∧ ∃ k segment, Evaluates q k segment (q.after ask concurrency m) ∧
        Served l p k.node q.shared (segment.run q.shared).1 (segment.run q.shared).2 := by
  have hstep : Stepped ask q m (q.after ask concurrency m) := stepped h.locks hm
  generalize q.after ask concurrency m = q' at hstep
  cases hstep with
  | quiet hshared hpaused _ _ _ hgoes => exact .inl ⟨hshared, hpaused, hgoes⟩
  | began hq _ => exact .inr ⟨rfl, _, _, hq, h.begin hp hq.task ask⟩
  | ended answer hq hwaits => exact .inr ⟨rfl, _, _, hq, h.resumeBody hp hwaits answer⟩
  | checked answer hq hwaits => exact .inr ⟨rfl, _, _, hq, h.resumeCheck hp hwaits answer⟩

section Kept

variable (h : Tended p concurrency q) (harranged : q'.Arranged concurrency)
  (hnodes : q'.nodes ⊆ q.nodes ++ q.shared.queue)

include h hnodes

/-- Whoever is to be evaluated after a move could be before it. -/
theorem evaluable_before
    (hqueued : ∀ {a}, a ∈ q'.shared.queue → a ∈ q.shared.queue ∨ q.shared.plan.isLive a = true)
    (hn : n ∈ q'.nodes ++ q'.shared.queue) : Evaluable n q.shared := by
  rcases List.mem_append.1 hn with hn | hn
  · exact h.evaluable (hnodes hn)
  · rcases hqueued hn with hn | hlive
    · exact h.evaluable (List.mem_append_right _ hn)
    · exact fun _ => .inl hlive

include harranged

/-- A move that evaluates nothing keeps what is to be evaluated as it is. -/
theorem of_quiet (hquiet : Quiet q.shared q'.shared) (hpaused : q'.pausedAt? = q.pausedAt?) :
    Tended p concurrency q' := by
  refine ⟨harranged, by rw [hquiet.plan]; exact h.left, fun {n} hn => ?_, fun ht => ?_⟩
  · have hbefore : Evaluable n q.shared := h.evaluable_before hnodes hquiet.queued hn
    unfold Evaluable at hbefore ⊢
    rwa [hquiet.plan, hquiet.tracker]
  · rw [hpaused] at ht
    obtain ⟨hactive, hleader⟩ := h.paused ht
    unfold Active AtWork at hactive
    rw [← hquiet.plan, ← hquiet.tracker] at hactive hleader
    exact ⟨hactive, hleader⟩

/-- A segment of one evaluation does no harm to the others. -/
theorem of_evaluates (hp : p.Runnable) (hq : Evaluates q k segment q')
    (hserved : Served l p k.node q.shared (segment.run q.shared).1 (segment.run q.shared).2) :
    Tended p concurrency q' := by
  have hshared := hq.shared
  refine ⟨harranged, ?_, fun {n} hn => ?_, fun {u n pause} hu => ?_⟩ <;> rw [hshared]
  · exact h.left.trans hserved.left
  · refine hserved.evaluable_of_evaluable (h.evaluable_before hnodes (fun ha => ?_) hn)
    rw [hshared] at ha
    exact hserved.queued ha
  · rw [hq.pausedAt?] at hu
    -- Either the task itself has paused again, or another one had before, at another node.
    by_cases huk : u = k.id
    · rw [if_pos huk] at hu
      cases hprogress : (segment.run q.shared).1 with
      | finished r =>
        rw [hprogress] at hu
        cases hu
      | paused pause' =>
        rw [hprogress] at hu
        obtain ⟨rfl, -⟩ := Prod.mk.inj (Option.some.inj hu)
        exact hserved.paused pause' hprogress
    · rw [if_neg huk] at hu
      have hne : n ≠ k.node := fun heq => huk (hq.alone (heq ▸ hu))
      exact hserved.unblocked_of_unblocked hp h.left hne (h.paused hu)

end Kept

/-- Every move that is allowed keeps the pass tended. -/
theorem after (hp : p.Runnable) (h : Tended p concurrency q) (hm : q.allows m = true) :
    Tended p concurrency (q.after ask concurrency m) := by
  have harranged : (q.after ask concurrency m).Arranged concurrency := h.toArranged.after hm
  have hnodes := Pass.nodes_after ask concurrency q m
  rcases h.cases_after hp hm ask .full with
    ⟨hquiet, hpaused, -⟩ | ⟨-, k, segment, hq, hserved⟩
  · exact h.of_quiet harranged hnodes hquiet hpaused
  · exact h.of_evaluates harranged hnodes hp hq hserved

/-- Only the deadline stops a pass. -/
theorem stopped_after (hp : p.Runnable) (h : Tended p concurrency q) (hm : q.allows m = true)
    (hgoes : m.stops = false) :
    (q.after ask concurrency m).shared.stopped = q.shared.stopped := by
  rcases h.cases_after hp hm ask .full with
    ⟨-, -, hstopped⟩ | ⟨-, k, segment, hq, hserved⟩
  · exact hstopped hgoes
  · rw [hq.shared]
    exact hserved.stopped

/-- No move takes a final status back. -/
theorem final_after (hp : p.Runnable) (h : Tended p concurrency q) (hm : q.allows m = true)
    (hn : q.shared.tracker.isFinal n = true) :
    (q.after ask concurrency m).shared.tracker.isFinal n = true := by
  rcases h.cases_after hp hm ask .full with
    ⟨hquiet, -, -⟩ | ⟨-, k, segment, hq, hserved⟩
  · rwa [hquiet.tracker]
  · rw [hq.shared]
    exact hserved.final hn

/-! ## Requests -/

/-- The requests that are met are gone. -/
theorem demand_spawn (h : Tended p concurrency q) (l : Ledger) :
    l.demand q.spawn.shared + q.shared.queue.countP l.who = l.demand q.shared := by
  have hspawn : q.spawn.shared = q.unqueued.shared := (rearranged_spawn h.locks).1.shared
  rw [hspawn]
  show [].countP l.who + q.shared.plan.graph.edges.countP (l.pending q.shared) + _ = _
  unfold Ledger.demand
  rw [List.countP_nil]
  omega

/-- No other move within a pass asks for more evaluations than may come. -/
theorem demand_after (hp : p.Runnable) (h : Tended p concurrency q) (hspawn : m ≠ .spawn)
    (hnext : m ≠ .next)
    (hdue : ∀ i, (q.after ask concurrency m).shared.tracker.isFinal i = true →
      q.shared.tracker.isFinal i = true ∨ l.due i = true) :
    l.demand (q.after ask concurrency m).shared ≤ l.demand q.shared := by
  cases m with
  | spawn => exact absurd rfl hspawn
  | next => exact absurd rfl hnext
  | resume t =>
    have hresumed := Pass.resumed ask q t
    have hafter : q.after ask concurrency (.resume t) = q.resume ask t := rfl
    rw [hafter] at hdue ⊢
    generalize q.resume ask t = q' at hresumed hdue
    cases hresumed with
    | idle | linedForPermit | linedForLock => exact Nat.le_refl _
    | ran hk henters =>
      rw [Pass.runSegment_shared] at hdue ⊢
      exact (h.begin hp hk ask).demand hdue
  | answerBody t answer =>
    have hafter : q.after ask concurrency (.answerBody t answer) = q.answerBody t answer := rfl
    rw [hafter] at hdue ⊢
    cases hbody : q.bodyOf? t with
    | none => rw [Pass.answerBody_of_none hbody]
    | some n =>
      obtain ⟨c, hpaused⟩ := Pass.bodyOf?_eq_some.1 hbody
      obtain ⟨k, -, -, -, -, hanswer⟩ := h.locks.answerBody_eq hbody
      rw [hanswer, Pass.runSegment_shared] at hdue ⊢
      exact (h.resumeBody hp hpaused answer).demand hdue
  | answerCheck t answer =>
    have hafter : q.after ask concurrency (.answerCheck t answer) = q.answerCheck t answer := rfl
    rw [hafter] at hdue ⊢
    cases hcheck : q.checkOf? t with
    | none => rw [Pass.answerCheck_of_none hcheck]
    | some n =>
      obtain ⟨c, hpaused⟩ := Pass.checkOf?_eq_some.1 hcheck
      obtain ⟨k, -, -, -, -, hanswer⟩ := h.locks.answerCheck_eq hcheck
      rw [hanswer, Pass.runSegment_shared] at hdue ⊢
      exact (h.resumeCheck hp hpaused answer).demand hdue
  | collect | disturb | stop => exact Nat.le_refl _

end Tended

/-! ## Steps -/

/-- The moves that come to something.  Answers are given to those who wait for one, and the deadline
may pass. -/
inductive Pass.Proceeds (q : Pass ω) : Move ω → Prop where
  | spawn (hgoes : q.shared.stopped = false) (hqueue : q.shared.queue ≠ []) : q.Proceeds .spawn
  | resume {t : TaskId} (ht : t ∈ q.runnable) : q.Proceeds (.resume t)
  | ended {t : TaskId} {n : NodeId} (ht : q.bodyOf? t = some n) (answer : Answer Unit) :
      q.Proceeds (.answerBody t answer)
  | answered {t : TaskId} {n : NodeId} (ht : q.checkOf? t = some n) (answer : Answer Readiness) :
      q.Proceeds (.answerCheck t answer)
  | collect {r : Except Fault Unit} (hr : q.results.head? = some r)
      (hpassed : q.shared.stopped = true ∨ r.isOk = true) : q.Proceeds .collect
  | stop (hgoes : q.shared.stopped = false) : q.Proceeds .stop

/-- One step of a pass: the environment changes in whatever way, and then comes a move. -/
inductive Pass.Step (ask : Condition → ω → Readiness × ω) (concurrency : Option ℕ) (q : Pass ω) :
    Pass ω → Prop where
  | move (world : ω) (log : Array Log.Event) {m : Move ω}
      (h : (q.after ask concurrency (.disturb world log)).Proceeds m) :
      Step ask concurrency q
        ((q.after ask concurrency (.disturb world log)).after ask concurrency m)

/-- The pass is over. -/
inductive Pass.Over (q : Pass ω) : Prop where
  /-- No task is left and no result, and nothing is queued unless the deadline has passed. -/
  | ended (htasks : q.tasks = []) (hresults : q.results = [])
      (hqueue : q.shared.stopped = false → q.shared.queue = [])
  /-- A defect has come up before the deadline: the pass breaks off. -/
  | broken {f : Fault} (hgoes : q.shared.stopped = false)
      (hr : q.results.head? = some (.error f))

namespace Pass.Proceeds

/-- What comes to something is allowed. -/
theorem allowed (h : q.Proceeds m) : q.allows m = true := by
  cases h with
  | spawn hgoes => simp [allows, hgoes]
  | resume ht => simpa [allows] using ht
  | ended | answered | stop => rfl
  | collect hr hpassed =>
    rcases hpassed with hstop | hok
    · simp [allows, hstop]
    · simp [allows, hr, hok]

theorem ne_next (h : q.Proceeds m) : m ≠ .next := by
  cases h <;> exact nofun

/-- Any other move within a pass changes nothing but the environment. -/
theorem after_of_not (h : ¬q.Proceeds m) (hm : q.allows m = true) (hnext : m ≠ .next) :
    (∃ world log, m = .disturb world log) ∨ q.after ask concurrency m = q := by
  cases m with
  | spawn =>
    have hgoes : q.shared.stopped = false := by simpa [allows] using hm
    have hqueue : q.shared.queue = [] := by
      by_contra hqueue
      exact h (.spawn hgoes hqueue)
    refine .inr ?_
    show q.shared.queue.foldl spawnOne q.unqueued = q
    rw [hqueue, List.foldl_nil]
    unfold unqueued
    rw [← hqueue]
  | resume t => exact absurd (.resume (by simpa [allows] using hm)) h
  | answerBody t answer =>
    refine .inr (answerBody_of_none (Option.eq_none_iff_forall_ne_some.2 fun n ht => ?_) answer)
    exact h (.ended ht answer)
  | answerCheck t answer =>
    refine .inr (answerCheck_of_none (Option.eq_none_iff_forall_ne_some.2 fun n ht => ?_) answer)
    exact h (.answered ht answer)
  | collect =>
    refine .inr ?_
    cases hresults : q.results with
    | nil =>
      show { q with results := q.results.tail } = q
      rw [hresults, List.tail_nil, ← hresults]
    | cons r rest =>
      have hr : q.results.head? = some r := by rw [hresults]; rfl
      refine absurd (.collect hr ?_) h
      simpa [allows, hr] using hm
  | disturb world log => exact .inl ⟨world, log, rfl⟩
  | stop =>
    have hstop : q.shared.stopped = true := by
      by_contra hgoes
      exact h (.stop (by simpa using hgoes))
    refine .inr ?_
    show { q with shared := { q.shared with stopped := true } } = q
    rw [← hstop]
  | next => exact absurd rfl hnext

end Pass.Proceeds

/-! ## How far a pass is from its end -/

/-- How much there may still be to do in a pass. -/
def Pass.remaining (q : Pass ω) : ℕ :=
  14 * Ledger.full.demand q.shared + q.effort + (!q.shared.stopped).toNat

namespace Tended

/-- With every node counted, nothing is left out of the account. -/
theorem demand_full_after (hp : p.Runnable) (h : Tended p concurrency q) (hspawn : m ≠ .spawn)
    (hnext : m ≠ .next) :
    Ledger.full.demand (q.after ask concurrency m).shared ≤ Ledger.full.demand q.shared :=
  h.demand_after hp hspawn hnext fun _ _ => .inr rfl

/-- A move that comes to something takes some of it away. -/
theorem remaining_lt (hp : p.Runnable) (h : Tended p concurrency q) (hm : q.Proceeds m) :
    (q.after ask concurrency m).remaining < q.remaining := by
  have hless : m ≠ .spawn → m.stops = false →
      (q.after ask concurrency m).effort < q.effort →
      (q.after ask concurrency m).remaining < q.remaining := by
    intro hspawn hgoes heffort
    have hdemand : Ledger.full.demand (q.after ask concurrency m).shared ≤
        Ledger.full.demand q.shared := h.demand_full_after hp hspawn hm.ne_next
    have hstopped : (q.after ask concurrency m).shared.stopped = q.shared.stopped :=
      h.stopped_after hp hm.allowed hgoes
    unfold Pass.remaining
    rw [hstopped]
    omega
  cases hm with
  -- To spawn adds to the effort, and the requests that are met make up for it.
  | spawn hgoes hqueue =>
    have hdemand := h.demand_spawn .full
    have heffort := Pass.effort_spawn q
    have hpos := List.length_pos_of_ne_nil hqueue
    rw [countP_full_who] at hdemand
    have hstopped : (q.after ask concurrency .spawn).shared.stopped = q.shared.stopped :=
      h.stopped_after hp (by simp [Pass.allows, hgoes]) rfl
    have hsame : q.after ask concurrency .spawn = q.spawn := rfl
    rw [hsame] at hstopped ⊢
    unfold Pass.remaining
    rw [hstopped]
    omega
  | resume ht => exact hless (by simp) rfl (Pass.effort_resume ask h.locks h.ids ht)
  | ended ht answer => exact hless (by simp) rfl (h.locks.effort_answerBody h.ids ht answer)
  | answered ht answer =>
    exact hless (by simp) rfl (h.locks.effort_answerCheck h.ids ht
      (resumeCheck_ends answer q.shared))
  | collect hr => exact hless (by simp) rfl (Pass.effort_collect hr)
  | stop hgoes =>
    show 14 * Ledger.full.demand q.shared + q.effort + 0 < q.remaining
    unfold Pass.remaining
    rw [hgoes]
    exact Nat.lt_succ_self _

/-- A pass that is not over goes on. -/
theorem goes_on (h : Tended p concurrency q) : q.Over ∨ ∃ m, q.Proceeds m := by
  -- With tasks about, one can be resumed or awaits an answer, be it only a panic.
  by_cases htasks : q.tasks = []
  swap
  · rcases h.orderly.stirs htasks with ⟨t, ht⟩ | ⟨t, n, c | c, ht⟩
    · exact .inr ⟨_, .resume ht⟩
    · exact .inr ⟨_, .ended (Pass.bodyOf?_eq_some.2 ⟨c, ht⟩) .panic⟩
    · exact .inr ⟨_, .answered (Pass.checkOf?_eq_some.2 ⟨c, ht⟩) .panic⟩
  cases hresults : q.results with
  | cons r rest =>
    have hr : q.results.head? = some r := by rw [hresults]; rfl
    cases hstop : q.shared.stopped with
    | true => exact .inr ⟨_, .collect hr (.inl hstop)⟩
    | false =>
      cases r with
      | ok u => exact .inr ⟨_, .collect hr (.inr rfl)⟩
      | error f => exact .inl (.broken hstop hr)
  | nil =>
    by_cases hover : q.shared.stopped = false → q.shared.queue = []
    · exact .inl (.ended htasks hresults hover)
    · rw [Classical.not_imp] at hover
      exact .inr ⟨_, .spawn hover.1 hover.2⟩

/-- Each step takes some of what remains away, so that the pass must come to its end. -/
theorem inevitably_over (hp : p.Runnable) (h : Tended p concurrency q) :
    Inevitably (Pass.Step ask concurrency) Pass.Over q := by
  have hdisturb : ∀ {q : Pass ω} (world : ω) (log : Array Log.Event), Tended p concurrency q →
      Tended p concurrency (q.after ask concurrency (.disturb world log)) :=
    fun world log h => h.after hp rfl
  refine .of_measure (Tended p concurrency) Pass.remaining (fun q h => ?_)
    (fun q q' h hstep => ?_) h
  · exact h.goes_on.imp_right fun ⟨m, hm⟩ => ⟨_, .move q.shared.world q.shared.log hm⟩
  · obtain ⟨world, log, hm⟩ := hstep
    have hnow := hdisturb world log h
    exact ⟨hnow.after hp hm.allowed, hnow.remaining_lt hp hm⟩

/-! ## How many evaluations there are -/

/-- Every evaluation has been asked for. -/
theorem spawned_add_demand_after (hp : p.Runnable) (h : Tended p concurrency q)
    (hnext : m ≠ .next) :
    (q.after ask concurrency m).spawned + Ledger.full.demand (q.after ask concurrency m).shared ≤
      q.spawned + Ledger.full.demand q.shared := by
  by_cases hspawn : m = .spawn
  · subst hspawn
    have hdemand := h.demand_spawn .full
    have hspawned := Pass.spawned_spawn q
    rw [countP_full_who] at hdemand
    show q.spawn.spawned + Ledger.full.demand q.spawn.shared ≤ _
    omega
  · rw [Pass.spawned_after ask concurrency q hspawn hnext]
    exact Nat.add_le_add_left (h.demand_full_after hp hspawn hnext) _

/-- Evaluations made and requests still to come do not grow in number over the moves of a pass. -/
theorem spawned_add_demand_play (hp : p.Runnable) (h : Tended p concurrency q)
    (hms : ∀ m ∈ ms, m ≠ .next) (hplay : play ask concurrency ms q = some q') :
    q'.spawned + Ledger.full.demand q'.shared ≤ q.spawned + Ledger.full.demand q.shared := by
  induction ms generalizing q with
  | nil => exact Option.some.inj hplay ▸ Nat.le_refl _
  | cons m ms ih =>
    obtain ⟨hm, hplay⟩ := play_cons_eq_some.1 hplay
    obtain ⟨hhere, hrest⟩ := List.forall_mem_cons.1 hms
    exact Nat.le_trans (ih (h.after hp hm) hrest hplay) (h.spawned_add_demand_after hp hhere)

end Tended

/-- A pass that begins in a state may come to as many evaluations as there are leaves and edges. -/
theorem demand_opening_le (s : State ω) (concurrency : Option ℕ) (l : Ledger) :
    l.demand (Pass.opening s concurrency).shared ≤
      s.plan.leaves.length + s.plan.graph.edgeCount := by
  rw [← Digraph.length_edges]
  exact Nat.add_le_add List.countP_le_length List.countP_le_length

/-- A pass comes to its end, whatever the state in which it begins, the order of its moves and the
answers of its callbacks, if only they answer.  It makes at most as many evaluations as there are
leaves and edges in the live graph at its beginning. -/
theorem every_pass_ends (hplan : d.plan = .ok p) (hs : p.attach.Remainder s.plan)
    (ask : Condition → ω → Readiness × ω) (concurrency : Option ℕ) :
    Inevitably (Pass.Step ask concurrency) Pass.Over (.opening s concurrency) ∧
      ∀ ms q, (∀ m ∈ ms, m ≠ .next) → play ask concurrency ms (.opening s concurrency) = some q →
        q.spawned ≤ s.plan.leaves.length + s.plan.graph.edgeCount := by
  have hp : p.attach.Runnable := runnable_attach (built_of_plan hplan)
  have hopening : Tended p.attach concurrency (.opening s concurrency) :=
    tended_opening hs concurrency
  refine ⟨hopening.inevitably_over hp, fun ms q hms hplay => ?_⟩
  have hspawned := hopening.spawned_add_demand_play hp hms hplay
  have hdemand := demand_opening_le s concurrency .full
  have hnone : (Pass.opening s concurrency).spawned = 0 := rfl
  omega

/-- The action is evaluated twice, because of both of its dependencies: with the two bases and the
element these are five evaluations, as many as two leaves and three edges allow. -/
theorem joined_takes_five_evaluations :
    let s := (Pass.first (planned joined) (some 2) false true #[]).shared
    Inevitably (Pass.Step gate (some 2)) Pass.Over (.opening s (some 2)) ∧
      (∀ ms q, (∀ m ∈ ms, m ≠ .next) → play gate (some 2) ms (.opening s (some 2)) = some q →
        q.spawned ≤ 5) ∧
      ∃ q, play gate (some 2) [.spawn, .resume 0, .resume 1, .collect, .spawn, .resume 2, .resume 3,
          .answerBody 2 (.reply (.ok ())), .resume 3, .spawn, .resume 4] (.opening s (some 2)) =
        some q ∧ q.tasks = [] ∧ q.spawned = 5 := by
  intro s
  obtain ⟨hends, hbound⟩ :=
    every_pass_ends (d := joined) (s := s) rfl .whole gate (some 2)
  have hfive : s.plan.leaves.length + s.plan.graph.edgeCount = 5 := by decide
  rw [hfive] at hbound
  refine ⟨hends, hbound, ?_⟩
  have hplay : (play gate (some 2) [.spawn, .resume 0, .resume 1, .collect, .spawn, .resume 2,
      .resume 3, .answerBody 2 (.reply (.ok ())), .resume 3, .spawn, .resume 4]
      (.opening s (some 2))).any (fun q => q.tasks = [] ∧ q.spawned = 5) = true := by
    decide +kernel
  obtain ⟨q, hq, hend⟩ := (Option.any_eq_true _ _).1 hplay
  exact ⟨q, hq, of_decide_eq_true hend⟩

end Rollout.Engine
