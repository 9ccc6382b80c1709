import Rollout.Proofs.Progress.Ending
import Rollout.Proofs.Progress.Wakeups

/-!
# How often completion checks are asked

A node whose completion check waits is asked again by a later pass.  But within a pass a node may be
queued by each of its dependencies, and each of these requests gets an evaluation of its own, which
asks the check if the node has not come to its goal.  So a pass asks a check once, or as often as
there are dependencies of the node that turn final in this very pass (`polls_of_pass_le`).
-/

namespace Rollout.Engine

open Rollout.Plan

namespace Pass

variable {ω : Type}

/-- The move hands a task the answer of its completion check. -/
def endsCheck : Move ω → TaskId → Bool
  | .answerCheck t _, u => t == u
  | _, _ => false

/-- The nodes whose completion checks a move has asked: those that are asked after it, and were not
before it or have answered with it. -/
def polls (q : Pass ω) (m : Move ω) (q' : Pass ω) : List NodeId :=
  (List.range q'.spawned).filterMap fun t =>
    if (q.checkOf? t).isNone || endsCheck m t then q'.checkOf? t else none

end Pass

/-- The nodes whose completion checks some moves have asked, in order. -/
def polled {ω : Type} (ask : Condition → ω → Readiness × ω) (concurrency : Option ℕ) :
    List (Move ω) → Pass ω → List NodeId
  | [], _ => []
  | m :: ms, q =>
    let q' := q.after ask concurrency m
    q.polls m q' ++ polled ask concurrency ms q'

variable {ω : Type} {d : Deployment} {p : Plan} {q q' q₁ : Pass ω} {n : NodeId} {k : Task}
  {t : TaskId} {ask : Condition → ω → Readiness × ω} {concurrency : Option ℕ} {m : Move ω}
  {ms : List (Move ω)} {segment : StateM (State ω) Progress} {dryRun : Bool} {world : ω}
  {log : Array Log.Event}

/-! ## Checks that one move asks -/

/-- The node whose completion check a segment has asked, if it has. -/
def polledBy (n : NodeId) : Progress → List NodeId
  | .paused (.check _) => [n]
  | _ => []

theorem checkOf?_congr (h : q'.pausedAt? t = q.pausedAt? t) : q'.checkOf? t = q.checkOf? t := by
  unfold Pass.checkOf?
  rw [h]

/-- Nobody is polled by a move that leaves all pauses as they are. -/
theorem polls_of_same (hpaused : q'.pausedAt? = q.pausedAt?)
    (hends : ∀ t n, q.checkOf? t = some n → Pass.endsCheck m t = false) : q.polls m q' = [] := by
  unfold Pass.polls
  rw [List.filterMap_eq_nil_iff]
  intro t _
  rw [checkOf?_congr (congrFun hpaused t)]
  cases hcheck : q.checkOf? t with
  | none => split <;> rfl
  | some n =>
    rw [hends t n hcheck]
    rfl

/-- A task that runs a segment asks at most its own check. -/
theorem Evaluates.polls_sublist (h : Evaluates q k segment q')
    (hothers : ∀ u, u ≠ k.id → Pass.endsCheck m u = false) :
    (q.polls m q').Sublist (polledBy k.node (segment.run q.shared).1) := by
  have hrest : ∀ u, u ≠ k.id → (if (q.checkOf? u).isNone || Pass.endsCheck m u then
      q'.checkOf? u else none) = none := by
    intro u hu
    have hsame : q'.pausedAt? u = q.pausedAt? u := by rw [h.pausedAt?, if_neg hu]
    rw [checkOf?_congr hsame, hothers u hu]
    cases q.checkOf? u <;> rfl
  have hown : (q'.checkOf? k.id).toList = polledBy k.node (segment.run q.shared).1 := by
    unfold Pass.checkOf?
    rw [h.pausedAt?, if_pos rfl]
    rcases (segment.run q.shared).1 with (c | c) | result <;> rfl
  unfold Pass.polls
  -- Only the task at work can have been polled.
  by_cases hlt : k.id < q'.spawned
  · rw [filterMap_range_eq hlt hrest, ← hown]
    split
    · exact List.Sublist.refl _
    · exact List.nil_sublist _
  · have hnone : (List.range q'.spawned).filterMap (fun t =>
        if (q.checkOf? t).isNone || Pass.endsCheck m t then q'.checkOf? t else none) = [] := by
      rw [List.filterMap_eq_nil_iff]
      intro u hu
      exact hrest u fun heq => hlt (heq ▸ List.mem_range.1 hu)
    rw [hnone]
    exact List.nil_sublist _

/-! ## Evaluations that have yet to ask -/

/-- The task waits for the answer of its completion check. -/
def Phase.isPolling : Phase → Bool
  | .paused (.check _) => true
  | _ => false

/-- What a task of `i` counts for if those are counted that have yet to ask the completion check of
`n`. -/
def yetToPoll (n i : NodeId) (s : Phase) : ℕ := if s.isPolling then 0 else [i].count n

/-- How many evaluations of the node have yet to ask its completion check. -/
def Pass.fresh (n : NodeId) (q : Pass ω) : ℕ := q.load (yetToPoll n)

theorem yetToPoll_of_not {s : Phase} (h : s.isPolling = false) (n i : NodeId) :
    yetToPoll n i s = [i].count n := by
  unfold yetToPoll
  rw [h]
  rfl

theorem fresh_setPhase (hids : q.ids.Nodup) (hk : q.task? t = some k) {s : Phase}
    (hbefore : k.phase.isPolling = false) (hafter : s.isPolling = false) :
    (q.setPhase t s).fresh n = q.fresh n := by
  have hset := Pass.load_setPhase (w := yetToPoll n) hids hk s
  rw [yetToPoll_of_not hbefore, yetToPoll_of_not hafter] at hset
  exact Nat.add_right_cancel hset

/-- A move by which nobody pauses and nobody goes on. -/
theorem polls_idle_le (hpaused : q'.pausedAt? = q.pausedAt?) (hfresh : q'.fresh n = q.fresh n)
    (hends : ∀ t n, q.checkOf? t = some n → Pass.endsCheck m t = false) :
    (q.polls m q').count n + q'.fresh n ≤ q.fresh n := by
  rw [polls_of_same hpaused hends, hfresh]
  exact Nat.le_of_eq (Nat.zero_add _)

/-- A segment that asks a check leaves one evaluation less that has yet to ask it. -/
theorem polls_runSegment_le (hlocks : q₁.Locks) (hids : q₁.ids.Nodup) (hk : q₁.Holder k)
    (htasks : q₁.tasks = q.tasks) (hshared : q₁.shared = q.shared)
    (hresults : q₁.results = q.results)
    (hothers : ∀ u, u ≠ k.id → Pass.endsCheck m u = false)
    (hphase : ∀ pause, (segment.run q.shared).1 = .paused pause → k.phase.isPolling = false)
    (n : NodeId) :
    (q.polls m (q₁.runSegment k segment)).count n + (q₁.runSegment k segment).fresh n ≤
      q.fresh n := by
  have hpaused : q₁.pausedAt? = q.pausedAt? := by
    funext u
    unfold Pass.pausedAt? Pass.task?
    rw [htasks]
  have heval : Evaluates q k segment (q₁.runSegment k segment) :=
    evaluates_runSegment hlocks hk htasks hshared hpaused hresults segment
  have hcount := (heval.polls_sublist hothers).count_le n
  have hload := Pass.load_runSegment (w := yetToPoll n) (fun _ => rfl) (fun _ => rfl) hlocks hids hk
    segment
  have hsame : q₁.load (yetToPoll n) = q.load (yetToPoll n) := by
    unfold Pass.load
    rw [htasks]
  rw [hshared, hsame] at hload
  -- Whatever it asks and whatever it is still going to ask, the task counted for before.
  have hpaid : (polledBy k.node (segment.run q.shared).1).count n +
      Pass.loadAfter (yetToPoll n) k.node (segment.run q.shared).1 ≤
        yetToPoll n k.node k.phase := by
    cases hprogress : (segment.run q.shared).1 with
    | finished r => exact Nat.zero_le _
    | paused pause =>
      rw [yetToPoll_of_not (hphase pause hprogress)]
      cases pause with
      | body c => exact Nat.le_of_eq (Nat.zero_add _)
      | check c => exact Nat.le_refl _
  unfold Pass.fresh
  omega

/-! ## Moves -/

/-- What a task polls when it is resumed is taken from what was yet to be polled. -/
theorem polls_resume_le (ask : Condition → ω → Readiness × ω) (hlocks : q.Locks)
    (hids : q.ids.Nodup) (t : TaskId) (n : NodeId) :
    (q.polls (.resume t) (q.resume ask t)).count n + (q.resume ask t).fresh n ≤ q.fresh n := by
  have hpermits : ∀ {k free}, q.Permits k free →
      k.phase.isPolling = false ∧ ∀ pause, k.phase ≠ .paused pause := by
    rintro k free (⟨hphase, -⟩ | ⟨hphase, -⟩) <;> rw [hphase] <;> exact ⟨rfl, nofun⟩
  have hresumed := Pass.resumed ask q t
  generalize q.resume ask t = q' at hresumed
  cases hresumed with
  | idle => exact polls_idle_le rfl rfl fun _ _ _ => rfl
  | @linedForPermit k hk hphase hfree =>
    let q₁ : Pass ω :=
      { q with runnable := q.runnable.erase t, permitLine := q.permitLine ++ [t] }
    have hview := Pass.pausedAt?_setPhase (s := .awaitingPermit) (q := q₁) hk
      (by rw [hphase]; exact nofun) nofun
    exact polls_idle_le hview (fresh_setPhase (q := q₁) hids hk (by rw [hphase]; rfl) rfl)
      fun _ _ _ => rfl
  | @linedForLock k free hk hpermit hheld =>
    let q₁ : Pass ω :=
      { q with runnable := q.runnable.erase t, free, lockLine := q.lockLine ++ [(k.node, t)] }
    have hview :=
      Pass.pausedAt?_setPhase (s := .awaitingLock) (q := q₁) hk (hpermits hpermit).2 nofun
    exact polls_idle_le hview (fresh_setPhase (q := q₁) hids hk (hpermits hpermit).1 rfl)
      fun _ _ _ => rfl
  | @ran k free held hk henters =>
    obtain rfl := Pass.id_of_task? hk
    obtain ⟨hlocks₁, hholder⟩ := hlocks.enters hk henters (q.runnable.erase k.id)
    have hphase : k.phase.isPolling = false := by
      rcases henters with ⟨hpermit, -⟩ | ⟨hphase, -⟩
      · exact (hpermits hpermit).1
      · rw [hphase]
        rfl
    exact polls_runSegment_le (q := q) hlocks₁ hids hholder rfl rfl rfl (fun _ _ => rfl)
      (fun _ _ => hphase) n

/-- No move within a pass asks a check but for an evaluation that had yet to ask it, and none but
`spawn` makes such evaluations. -/
theorem polls_after_le (hlocks : q.Locks) (hids : q.ids.Nodup) (hspawn : m ≠ .spawn)
    (hnext : m ≠ .next) (n : NodeId) :
    (q.polls m (q.after ask concurrency m)).count n + (q.after ask concurrency m).fresh n ≤
      q.fresh n := by
  cases m with
  | spawn => exact absurd rfl hspawn
  | next => exact absurd rfl hnext
  | resume t => exact polls_resume_le ask hlocks hids t n
  | answerBody t answer =>
    show (q.polls (.answerBody t answer) (q.answerBody t answer)).count n +
      (q.answerBody t answer).fresh n ≤ q.fresh n
    cases hbody : q.bodyOf? t with
    | none =>
      rw [Pass.answerBody_of_none hbody]
      exact polls_idle_le rfl rfl fun _ _ _ => rfl
    | some i =>
      obtain ⟨k, hk, rfl, rfl, -, hanswer⟩ := hlocks.answerBody_eq hbody
      obtain ⟨c, hpaused⟩ := Pass.bodyOf?_eq_some.1 hbody
      obtain ⟨j, hj, -, hphase⟩ := Pass.pausedAt?_eq_some.1 hpaused
      obtain rfl := Option.some.inj (hk.task.symm.trans hj)
      rw [hanswer]
      exact polls_runSegment_le hlocks hids hk rfl rfl rfl (fun _ _ => rfl)
        (fun _ _ => by rw [hphase]; rfl) n
  | answerCheck t answer =>
    show (q.polls (.answerCheck t answer) (q.answerCheck t answer)).count n +
      (q.answerCheck t answer).fresh n ≤ q.fresh n
    cases hcheck : q.checkOf? t with
    | none =>
      rw [Pass.answerCheck_of_none hcheck]
      refine polls_idle_le rfl rfl fun u i hu => beq_eq_false_iff_ne.2 ?_
      rintro rfl
      rw [hcheck] at hu
      cases hu
    | some i =>
      obtain ⟨k, hk, rfl, rfl, -, hanswer⟩ := hlocks.answerCheck_eq hcheck
      have hothers : ∀ u, u ≠ k.id → Pass.endsCheck (.answerCheck k.id answer : Move ω) u = false :=
        fun u hu => beq_eq_false_iff_ne.2 hu.symm
      rw [hanswer]
      exact polls_runSegment_le hlocks hids hk rfl rfl rfl hothers
        (fun pause hpause => absurd hpause (resumeCheck_ends answer q.shared pause)) n
  | collect | disturb | stop => exact polls_idle_le rfl rfl fun _ _ _ => rfl

/-- The nodes that are queued get evaluations that have yet to ask. -/
theorem fresh_spawn (q : Pass ω) (n : NodeId) :
    q.spawn.fresh n = q.fresh n + q.shared.queue.countP (· == n) := by
  have hload := Pass.load_spawn (w := yetToPoll n) q
  have hsum : ∀ ns : List NodeId,
      (ns.map (yetToPoll n · .arriving)).sum = ns.countP (· == n) := by
    intro ns
    induction ns with
    | nil => rfl
    | cons i ns ih =>
      rw [List.map_cons, List.sum_cons, ih, List.countP_cons, yetToPoll_of_not rfl,
        List.count_singleton]
      exact Nat.add_comm _ _
  rwa [hsum] at hload

theorem polls_spawn (ask : Condition → ω → Readiness × ω) (h : q.Locks) :
    q.polls .spawn q.spawn = [] := by
  have hstep : Stepped ask q .spawn q.spawn := stepped_spawn h
  generalize q.spawn = q' at hstep
  cases hstep with
  | quiet _ hpaused => exact polls_of_same hpaused fun _ _ _ => rfl

/-! ## Whole passes -/

namespace Tended

theorem final_play (hp : p.Runnable) (h : Tended p concurrency q)
    (hplay : play ask concurrency ms q = some q') (hn : q.shared.tracker.isFinal n = true) :
    q'.shared.tracker.isFinal n = true := by
  induction ms generalizing q with
  | nil => exact Option.some.inj hplay ▸ hn
  | cons m ms ih =>
    obtain ⟨hm, hplay⟩ := play_cons_eq_some.1 hplay
    exact ih (h.after hp hm) hplay (h.final_after hp hm hn)

/-- Every poll has been asked for: it is that of an evaluation that had yet to ask, or of one that
was requested. -/
theorem polled_le (hp : p.Runnable) (h : Tended p concurrency q) (hms : ∀ m ∈ ms, m ≠ .next)
    (hplay : play ask concurrency ms q = some q') (n : NodeId) :
    (polled ask concurrency ms q).count n ≤
      q.fresh n + Ledger.demand ⟨(· == n), q'.shared.tracker.isFinal⟩ q.shared := by
  induction ms generalizing q with
  | nil => exact Nat.zero_le _
  | cons m ms ih =>
    obtain ⟨hm, hplay⟩ := play_cons_eq_some.1 hplay
    obtain ⟨hhere, hrest⟩ := List.forall_mem_cons.1 hms
    have hafter : Tended p concurrency (q.after ask concurrency m) := h.after hp hm
    have hmore := ih hafter hrest hplay
    rw [polled, List.count_append]
    by_cases hspawn : m = .spawn
    · subst hspawn
      let l : Ledger := ⟨(· == n), q'.shared.tracker.isFinal⟩
      have hfresh := fresh_spawn q n
      have hdemand : l.demand q.spawn.shared + q.shared.queue.countP (· == n) = l.demand q.shared :=
        h.demand_spawn l
      have hmore : (polled ask concurrency ms q.spawn).count n ≤
          q.spawn.fresh n + l.demand q.spawn.shared := hmore
      show (q.polls .spawn q.spawn).count n + (polled ask concurrency ms q.spawn).count n ≤
        q.fresh n + l.demand q.shared
      rw [polls_spawn ask h.locks, List.count_nil]
      omega
    · have hasked : (q.polls m (q.after ask concurrency m)).count n +
          (q.after ask concurrency m).fresh n ≤ q.fresh n :=
        polls_after_le h.locks h.ids hspawn hhere n
      have hdemand : Ledger.demand ⟨(· == n), q'.shared.tracker.isFinal⟩
          (q.after ask concurrency m).shared ≤
            Ledger.demand ⟨(· == n), q'.shared.tracker.isFinal⟩ q.shared :=
        h.demand_after hp hspawn hhere fun i hi => .inr (hafter.final_play hp hplay hi)
      omega

end Tended

theorem Reachable.tended (hplan : d.plan = .ok p)
    (h : Reachable ask concurrency (.first p concurrency dryRun world log) q) :
    Tended p.attach concurrency q := by
  have hp : p.attach.Runnable := runnable_attach (built_of_plan hplan)
  induction h with
  | start => exact tended_opening (s := (Pass.first p concurrency dryRun world log).shared) .whole _
  | move m _ hm ih => exact ih.after hp hm

theorem Opens.tasks (h : Opens ask concurrency (.first p concurrency dryRun world log) q) :
    q.tasks = [] := by
  cases h <;> rfl

/-- A pass that begins may ask the check of a node once if the node is a leaf, and else as often as
nodes that it depends on turn final. -/
theorem demand_of_one_le (s : State ω) (hs : s.plan.graph.Tidy) (hqueue : s.queue = s.plan.leaves)
    (n : NodeId) (due : NodeId → Bool) :
    Ledger.demand ⟨(· == n), due⟩ s ≤
      max 1 ((s.plan.graph.successors n).countP fun b => due b && !s.tracker.isFinal b) := by
  have hedges := hs.countP_edges_from n fun b => due b && !s.tracker.isFinal b
  have hdemand : Ledger.demand ⟨(· == n), due⟩ s = s.plan.leaves.countP (· == n) +
      (s.plan.graph.successors n).countP fun b => due b && !s.tracker.isFinal b := by
    rw [← hedges, ← hqueue]
    rfl
  rw [hdemand]
  by_cases hleaf : n ∈ s.plan.leaves
  · have hnone : s.plan.graph.successors n = [] := by
      refine List.eq_nil_iff_forall_not_mem.2 fun b hb => ?_
      obtain ⟨k, hk⟩ := Digraph.mem_successors_iff_edge.1 hb
      rw [(Digraph.mem_leaves.1 hleaf).2 b] at hk
      cases hk
    have honce : s.plan.leaves.countP (· == n) ≤ 1 :=
      List.nodup_iff_count_le_one.1 (hs.nodes_nodup.filter _) n
    rw [hnone, List.countP_nil]
    omega
  · have hnever : s.plan.leaves.countP (· == n) = 0 := List.count_eq_zero.2 hleaf
    omega

/-- In whatever order evaluations go on and callbacks answer, a pass asks the completion check of a
node at most once, unless several of the nodes that it depends on turn final in this very pass: then
at most as often as there are such nodes. -/
theorem polls_of_pass_le (hplan : d.plan = .ok p)
    (hopens : Opens ask concurrency (.first p concurrency dryRun world log) q)
    (hms : ∀ m ∈ ms, m ≠ .next) (hplay : play ask concurrency ms q = some q') (n : NodeId) :
    (polled ask concurrency ms q).count n ≤
      max 1 ((q.shared.plan.graph.successors n).countP fun b =>
        q'.shared.tracker.isFinal b && !q.shared.tracker.isFinal b) := by
  have hp : p.attach.Runnable := runnable_attach (built_of_plan hplan)
  have htended : Tended p.attach concurrency q := hopens.reachable.tended hplan
  have hfresh : q.fresh n = 0 := by
    unfold Pass.fresh Pass.load
    rw [hopens.tasks]
    rfl
  have hpolled := htended.polled_le hp hms hplay n
  have hdemand := demand_of_one_le q.shared (htended.left.coherent hp.coherent).toTidy
    hopens.shared.1 n q'.shared.tracker.isFinal
  omega

/-- An element that depends on two others and has a completion check. -/
def awaited : Deployment where
  added := [
    { id := "a", component := "a" },
    { id := "b", component := "b" },
    { id := "c", component := "c", relation := fun _ => some (.dependsOn "c" ["a", "b"]),
      check := some 0 }]

/-- In the first pass over `awaited` the two others are brought about, and the check waits. -/
def awaitedPass : List (Move Bool) :=
  [.spawn, .resume 0, .resume 1, .collect, .collect, .spawn, .resume 2,
    .answerCheck 2 (.reply (.ok (.waitingFor "later"))), .resume 3,
    .answerCheck 3 (.reply (.ok (.waitingFor "later"))), .collect, .collect]

/-- Both of the others turn final in the first pass, and the check is asked twice in it.  In the
second pass the element is a leaf, and its check is asked once. -/
theorem awaited_is_polled :
    let start := Pass.first (planned awaited) none false true #[]
    (polled gate none awaitedPass start).count 2 ≤ 2 ∧
      ∃ q q', Opens gate none start q ∧ play gate none [.spawn, .resume 0] q = some q' ∧
        q'.checkOf? 0 = some 2 ∧ (polled gate none [.spawn, .resume 0] q).count 2 ≤ 1 := by
  intro start
  have hplan : awaited.plan = .ok (planned awaited) := rfl
  have hfirst : (play gate none awaitedPass start).any (fun q =>
      q.allows .next = true ∧
      (start.shared.plan.graph.successors 2).countP (fun b =>
        q.shared.tracker.isFinal b && !start.shared.tracker.isFinal b) = 2 ∧
      q.shared.plan.graph.successors 2 = [] ∧
      (play gate none [.spawn, .resume 0] (q.after gate none .next)).any (fun q' =>
        q'.checkOf? 0 = some 2) = true) = true := by decide +kernel
  obtain ⟨q, hq, hfacts⟩ := (Option.any_eq_true _ _).1 hfirst
  obtain ⟨hnext, htwo, hnone, hsecond⟩ := of_decide_eq_true hfacts
  obtain ⟨q', hq', hcheck⟩ := (Option.any_eq_true _ _).1 hsecond
  have hopens : Opens gate none start (q.after gate none .next) :=
    .next (reachable_of_play .start hq) hnext
  have hpolled := polls_of_pass_le hplan .first (by simp [awaitedPass]) hq 2
  have hpolled' := polls_of_pass_le hplan hopens (by simp) hq' 2
  have hnone' : (q.after gate none .next).shared.plan.graph.successors 2 = [] := hnone
  rw [htwo] at hpolled
  rw [hnone'] at hpolled'
  exact ⟨hpolled, _, q', hopens, hq', of_decide_eq_true hcheck, hpolled'⟩

/-- The element is queued by both of the others, and each of the two requests gets an evaluation.
The second one asks the check again, after it has answered that it waits and in the same pass. -/
theorem awaited_is_polled_twice : ∃ p q, awaited.plan = .ok p ∧ p.check = .ok () ∧
    play gate none awaitedPass (.first p none false true #[]) = some q ∧
    (∀ m ∈ awaitedPass, m ≠ .next) ∧
    ¬(polled gate none awaitedPass (.first p none false true #[])).count 2 ≤ 1 := by
  have hplay : (play gate none awaitedPass
      (.first (planned awaited) none false true #[])).isSome = true := by decide +kernel
  obtain ⟨q, hq⟩ := Option.isSome_iff_exists.1 hplay
  exact ⟨planned awaited, q, rfl, rfl, hq, by simp [awaitedPass], by decide +kernel⟩

end Rollout.Engine
