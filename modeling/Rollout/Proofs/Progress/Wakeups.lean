import Rollout.Proofs.Order.Bodies
import Rollout.Proofs.Progress.Attention

/-!
# Wake-ups

A node that turns final queues the nodes that depend on it, from inside an evaluation, while the
pass goes back and forth between the queue and the tasks there are.  No such request is dropped:
whatever is queued, and whatever has a task that has not begun, is evaluated before the pass is
over, in whatever order the tasks go on (`no_wakeup_is_lost`).
-/

namespace Rollout.Engine

open Rollout.Plan

variable {ω : Type} {d : Deployment} {p : Plan} {ask : Condition → ω → Readiness × ω}
  {concurrency : Option ℕ} {dryRun : Bool} {world : ω} {log : Array Log.Event} {q q' q₁ : Pass ω}
  {m : Move ω} {ms : List (Move ω)} {k : Task} {t : TaskId} {n : NodeId}
  {segment : StateM (State ω) Progress}

/-! ## Evaluations that begin -/

/-- The move begins an evaluation of the node, before the deadline. -/
def Pass.Visits (ask : Condition → ω → Readiness × ω) (concurrency : Option ℕ) (q : Pass ω)
    (m : Move ω) (n : NodeId) : Prop :=
  q.shared.stopped = false ∧ ∃ k : Task, m = .resume k.id ∧ k.node = n ∧
    Evaluates q k (begin ask n) (q.after ask concurrency m)

/-- One of the moves begins an evaluation of the node. -/
def Visited (ask : Condition → ω → Readiness × ω) (concurrency : Option ℕ) (q : Pass ω)
    (ms : List (Move ω)) (n : NodeId) : Prop :=
  ∃ pre m post r, ms = pre ++ m :: post ∧ play ask concurrency pre q = some r ∧
    r.Visits ask concurrency m n

theorem visited_head (h : q.Visits ask concurrency m n) : Visited ask concurrency q (m :: ms) n :=
  ⟨[], m, ms, q, rfl, rfl, h⟩

theorem Visited.cons (hm : q.allows m = true)
    (h : Visited ask concurrency (q.after ask concurrency m) ms n) :
    Visited ask concurrency q (m :: ms) n := by
  obtain ⟨pre, m', post, r, rfl, hplay, hvisits⟩ := h
  exact ⟨m :: pre, m', post, r, rfl, by rw [play_cons, if_pos hm, hplay], hvisits⟩

/-! ## Evaluations to come -/

/-- The node is queued, or it has a task that has not begun its evaluation. -/
def Pass.Expects (q : Pass ω) (n : NodeId) : Prop :=
  n ∈ q.shared.queue ∨ ∃ t k, q.task? t = some k ∧ k.node = n ∧ q.pausedAt? t = none

namespace Pass.Expects

theorem rearranged (h : q.Expects n) (hq : Rearranged q q') : q'.Expects n := by
  rcases h with hqueue | ⟨t, k, hk, hnode, hpaused⟩
  · rw [← hq.shared] at hqueue
    exact .inl hqueue
  · obtain ⟨i, hi, hsame⟩ := hq.kept hk
    refine .inr ⟨t, i, hi, hsame.trans hnode, ?_⟩
    -- A task that has paused now had paused before.
    rw [Option.eq_none_iff_forall_ne_some]
    rintro ⟨n', pause⟩ hpaused'
    obtain ⟨j, hj, hnode', hphase⟩ := pausedAt?_eq_some.1 hpaused'
    have hbefore := pausedAt?_eq_some.2 ⟨j, hq.paused hj hphase, hnode', hphase⟩
    rw [hpaused] at hbefore
    cases hbefore

/-- Queued nodes get tasks that have not begun. -/
theorem spawn (h : q.Expects n) (hlocks : q.Locks) : q.spawn.Expects n := by
  have hunqueued : q.unqueued.Locks := hlocks.of_same rfl rfl rfl rfl rfl
  have harriving : ∀ (ns : List NodeId) (q : Pass ω), q.Locks → n ∈ ns →
      ∃ t, (ns.foldl spawnOne q).task? t = some ⟨t, n, .arriving⟩ := by
    intro ns
    induction ns with
    | nil => exact fun _ _ hn => nomatch hn
    | cons m ns ih =>
      intro q hlocks hn
      have hone := (rearranged_spawnOne hlocks m).locks
      rcases List.mem_cons.1 hn with rfl | hn
      · have hnew : (q.spawnOne n).task? q.spawned = some ⟨q.spawned, n, .arriving⟩ := by
          rw [task?_spawnOne hlocks, if_pos rfl]
        exact ⟨q.spawned, task?_foldl_spawnOne hone hnew ns⟩
      · exact ih _ hone hn
  rcases h with hqueue | ⟨t, k, hk, hnode, hpaused⟩
  · obtain ⟨t, ht⟩ := harriving q.shared.queue q.unqueued hunqueued hqueue
    refine .inr ⟨t, _, ht, rfl, ?_⟩
    have htask : q.spawn.task? t = some ⟨t, n, .arriving⟩ := ht
    unfold pausedAt?
    rw [htask]
  · have htask : q.spawn.task? t = some k := task?_foldl_spawnOne hunqueued hk q.shared.queue
    refine .inr ⟨t, k, htask, hnode, ?_⟩
    unfold pausedAt? at hpaused ⊢
    rw [hk] at hpaused
    rw [htask]
    exact hpaused

/-- A task that runs a segment takes none of the others away. -/
theorem runSegment (h : q.Expects n) (hlocks : q.Locks) (hk : q.Holder k)
    (hqueue : q.shared.queue ⊆ (segment.run q.shared).2.queue) :
    (q.runSegment k segment).Expects n ∨ k.node = n ∧ q.pausedAt? k.id = none := by
  rcases h with hn | ⟨t, j, hj, hnode, hpaused⟩
  · refine .inl (.inl ?_)
    rw [runSegment_shared]
    exact hqueue hn
  · by_cases ht : t = k.id
    · subst ht
      exact .inr ⟨Option.some.inj (hj.symm.trans hk.task) ▸ hnode, hpaused⟩
    · obtain ⟨i, hi, hsame⟩ := runSegment_others ht hj segment
      refine .inl (.inr ⟨t, i, hi, hsame.trans hnode, ?_⟩)
      rw [pausedAt?_runSegment hlocks hk, if_neg ht, hpaused]

section Moves

variable (hp : p.Runnable) (hsteady : Steady p q) (h : q.Expects n)

include hp hsteady h

theorem resume (hstop : q.shared.stopped = false) (t : TaskId) :
    (q.resume ask t).Expects n ∨ q.Visits ask concurrency (.resume t) n := by
  rcases resume_cases ask hsteady t with hq | ⟨q₁, k, hq, -, hk, hrun, htasks, rfl⟩
  · exact .inl (h.rearranged hq)
  · have hqueue : q₁.shared.queue ⊆ ((begin ask k.node).run q₁.shared).2.queue := by
      rw [hq.shared]
      exact (begin_advance ask hp hsteady.consistent k.node).moved.queue
    rw [hrun]
    refine ((h.rearranged hq).runSegment hq.locks hk hqueue).imp_right fun ⟨hnode, _⟩ => ?_
    subst hnode
    have hpaused : q₁.pausedAt? = q.pausedAt? := by
      funext u
      unfold pausedAt? task?
      rw [htasks]
    refine ⟨hstop, k, rfl, rfl, ?_⟩
    show Evaluates q k (begin ask k.node) (q.resume ask k.id)
    rw [hrun]
    exact evaluates_runSegment hq.locks hk htasks hq.shared hpaused hq.results _

omit hp in
/-- A task that goes on with its evaluation had begun it before. -/
theorem answered (hk : q.task? t = some k) {pause : Pause} (hphase : k.phase = .paused pause)
    (hadvance : Advance p k.node q.shared (segment.run q.shared).1 (segment.run q.shared).2) :
    (q.runSegment k segment).Expects n := by
  obtain rfl := id_of_task? hk
  have hpaused := pausedAt?_eq_some.2 ⟨k, hk, rfl, hphase⟩
  refine (h.runSegment hsteady.locks (hsteady.locks.holder hk (by rw [hphase]; rfl))
    hadvance.moved.queue).resolve_right fun ⟨_, hnone⟩ => ?_
  rw [hpaused] at hnone
  cases hnone

theorem answerBody (t : TaskId) (answer : Answer Unit) : (q.answerBody t answer).Expects n := by
  unfold Pass.answerBody
  split
  next k hk =>
    split
    next c hphase =>
      exact h.answered hsteady hk hphase
        (resumeBody_advance hp hsteady.consistent (hsteady.paused hk hphase).1 answer)
    next => exact h
  next => exact h

theorem answerCheck (t : TaskId) (answer : Answer Readiness) :
    (q.answerCheck t answer).Expects n := by
  unfold Pass.answerCheck
  split
  next k hk =>
    split
    next c hphase =>
      obtain ⟨hprogress, hcheck⟩ := hsteady.paused hk hphase
      exact h.answered hsteady hk hphase
        (resumeCheck_advance hp hsteady.consistent hprogress (hcheck c rfl) answer)
    next => exact h
  next => exact h

/-- An evaluation that is to come is still to come after a move of the pass, or it begins with it.
-/
theorem after (hstop : q.shared.stopped = false) (hnext : m ≠ .next) :
    (q.after ask concurrency m).Expects n ∨ q.Visits ask concurrency m n := by
  cases m with
  | spawn => exact .inl (h.spawn hsteady.locks)
  | resume t => exact h.resume hp hsteady hstop t
  | answerBody t answer => exact .inl (h.answerBody hp hsteady t answer)
  | answerCheck t answer => exact .inl (h.answerCheck hp hsteady t answer)
  | collect | disturb | stop => exact .inl h
  | next => exact absurd rfl hnext

end Moves

/-- What is expected is evaluated before it is expected no more. -/
theorem visited (hp : p.Runnable) (hsteady : Steady p q) (h : q.Expects n)
    (hstop : q.shared.stopped = false) (hms : ∀ m ∈ ms, m.stops = false ∧ m ≠ .next)
    (hplay : play ask concurrency ms q = some q') (hover : ¬q'.Expects n) :
    Visited ask concurrency q ms n := by
  induction ms generalizing q with
  | nil => exact absurd h (Option.some.inj hplay ▸ hover)
  | cons m ms ih =>
    rw [play_cons] at hplay
    by_cases hm : q.allows m = true
    · rw [if_pos hm] at hplay
      obtain ⟨hstops, hnext⟩ := hms m List.mem_cons_self
      have hafter : (q.after ask concurrency m).Expects n ∨ q.Visits ask concurrency m n :=
        h.after hp hsteady hstop hnext
      rcases hafter with hexpects | hvisits
      · have hstep : Stepped ask q m (q.after ask concurrency m) := stepped hsteady.locks hm
        have hstop' : (q.after ask concurrency m).shared.stopped = false :=
          (hstep.stopped (hsteady.consistent.numbered hp.toSound) hstops).trans hstop
        exact (ih (hsteady.after hp m) hexpects hstop'
          (fun m' hm' => hms m' (List.mem_cons_of_mem m hm')) hplay).cons hm
      · exact visited_head hvisits
    · rw [if_neg hm] at hplay
      cases hplay

end Pass.Expects

/-! ## Nodes that turn final -/

/-- Whoever depends on a node that turns final with a move of a task is queued. -/
theorem TaskMoved.queued (hq : TaskMoved p q q') {s a : NodeId} {e : EdgeKind}
    (hbefore : (statusAfter q.shared.trace s).isFinal = false)
    (hafter : (statusAfter q'.shared.trace s).isFinal = true)
    (he : q.shared.plan.graph.edge? a s = some e) : a ∈ q'.shared.queue := by
  cases hq with
  | lined hq =>
    rw [hq.shared, hbefore] at hafter
    cases hafter
  | @ran q₁ k segment hq hk hadvance =>
    rw [Pass.runSegment_shared, hq.shared] at hafter ⊢
    by_cases hs : s = k.node
    · subst hs
      exact hadvance.signalled hbefore hafter he
    · exact hadvance.moved.woken hs hbefore hafter he

/-- Whoever depends on a node that turns final is queued, whatever the move. -/
theorem Steady.queued (hp : p.Runnable) (h : Steady p q) {s a : NodeId} {e : EdgeKind}
    (hbefore : (q.shared.tracker.status s).isFinal = false)
    (hafter : ((q.after ask concurrency m).shared.tracker.status s).isFinal = true)
    (he : q.shared.plan.graph.edge? a s = some e) :
    a ∈ (q.after ask concurrency m).shared.queue := by
  have hs : s < p.nodes.length := hp.toSound.target_lt (h.consistent.edge?_iff.1 he).1
  have h' : Steady p (q.after ask concurrency m) := h.after hp m
  have htask : TaskMoved p q (q.after ask concurrency m) →
      a ∈ (q.after ask concurrency m).shared.queue := fun hq =>
    hq.queued (h.consistent.status_eq hs ▸ hbefore) (h'.consistent.status_eq hs ▸ hafter) he
  -- No other move records a transition.
  have hsame : (q.after ask concurrency m).shared.tracker = q.shared.tracker →
      a ∈ (q.after ask concurrency m).shared.queue := by
    intro htracker
    rw [htracker, hbefore] at hafter
    cases hafter
  cases m with
  | spawn =>
    have hspawn : q.spawn.shared = q.unqueued.shared := (rearranged_spawn h.locks).1.shared
    exact hsame (congrArg State.tracker hspawn :)
  | resume t => exact htask (taskMoved_resume ask hp h t)
  | answerBody t answer => exact htask (taskMoved_answerBody hp h t answer)
  | answerCheck t answer => exact htask (taskMoved_answerCheck hp h t answer)
  | collect | disturb | stop | next => exact hsame rfl

/-! ## Whole passes -/

/-- A pass at its beginning: the first one of a run, or one that follows a pass that has settled. -/
inductive Opens (ask : Condition → ω → Readiness × ω) (concurrency : Option ℕ) (start : Pass ω) :
    Pass ω → Prop where
  | first : Opens ask concurrency start start
  | next {q : Pass ω} (h : Reachable ask concurrency start q) (hm : q.allows .next = true) :
      Opens ask concurrency start (q.after ask concurrency .next)

/-- A pass of a run from its beginning to its end, which no timeout and no defect has cut short: the
queue has just been emptied, and there is no task. -/
structure WholePass (ask : Condition → ω → Readiness × ω) (concurrency : Option ℕ)
    (start q : Pass ω) (ms : List (Move ω)) (q' : Pass ω) : Prop where
  opens : Opens ask concurrency start q
  plays : play ask concurrency ms q = some q'
  moves : ∀ m ∈ ms, m.stops = false ∧ m ≠ .next
  emptied : ms.getLast? = some .spawn
  tasks : q'.tasks = []

theorem Opens.reachable {start : Pass ω} (h : Opens ask concurrency start q) :
    Reachable ask concurrency start q := by
  cases h with
  | first => exact .start
  | next hreach hm => exact .move .next hreach hm

theorem Opens.shared (h : Opens ask concurrency (.first p concurrency dryRun world log) q) :
    q.shared.queue = q.shared.plan.leaves ∧ q.shared.stopped = false := by
  cases h with
  | first => exact ⟨rfl, rfl⟩
  | @next q hreach hm =>
    have hallowed : (q.settled && !q.shared.stopped) = true := hm
    rw [Bool.and_eq_true, Bool.not_eq_true'] at hallowed
    exact ⟨rfl, hallowed.2⟩

namespace WholePass

variable {start : Pass ω}

theorem reachable (h : WholePass ask concurrency start q ms q') :
    Reachable ask concurrency start q :=
  h.opens.reachable

section Runs

variable (hplan : d.plan = .ok p)
  (h : WholePass ask concurrency (.first p concurrency dryRun world log) q ms q')

include hplan h

/-- When a pass is over, nothing is expected any more. -/
theorem not_expects (n : NodeId) : ¬q'.Expects n := by
  obtain ⟨pre, hms⟩ := List.getLast?_eq_some_iff.1 h.emptied
  have hplay := h.plays
  rw [hms, play_snoc, Option.bind_eq_some_iff] at hplay
  obtain ⟨r, hr, hlast⟩ := hplay
  have hsteady := ((reachable_of_play h.reachable hr).steady_of_plan hplan).2
  obtain rfl : r.spawn = q' := by
    by_cases hm : r.allows .spawn = true
    · rw [if_pos hm] at hlast
      exact Option.some.inj hlast
    · rw [if_neg hm] at hlast
      cases hlast
  rintro (hqueue | ⟨t, k, hk, -⟩)
  · rw [(rearranged_spawn hsteady.locks).1.shared] at hqueue
    cases hqueue
  · unfold Pass.task? at hk
    rw [h.tasks] at hk
    cases hk

/-- The deadline does not pass before the pass is over. -/
theorem running {pre post : List (Move ω)} {r : Pass ω} (hms : ms = pre ++ post)
    (hplay : play ask concurrency pre q = some r) : r.shared.stopped = false := by
  have hp : p.Placed := (built_of_plan hplan).sound.placed
  obtain ⟨before, hbefore⟩ := reachable_iff_play.1 h.reachable
  have hbased : Based p dryRun q :=
    (based_first hp concurrency dryRun world log).played hp hbefore
  refine (hbased.stopped_of_play hp (fun m hm => ?_) hplay).trans h.opens.shared.2
  exact (h.moves m (hms ▸ List.mem_append_left _ hm)).1

/-- What is expected at some moment of the pass is evaluated after it. -/
theorem visited {pre post : List (Move ω)} {r : Pass ω} (hms : ms = pre ++ post)
    (hplay : play ask concurrency pre q = some r) (hexpects : r.Expects n) :
    Visited ask concurrency r post n := by
  have hp := runnable_attach (built_of_plan hplan)
  have hsteady := (reachable_of_play h.reachable hplay).steady hp
  have hrest : play ask concurrency post r = some q' := by
    have hall := h.plays
    rw [hms, play_append, hplay] at hall
    exact hall
  exact hexpects.visited hp hsteady (h.running hplan hms hplay)
    (fun m hm => h.moves m (hms ▸ List.mem_append_right _ hm)) hrest (h.not_expects hplan n)

end Runs

end WholePass

/-- In every pass of a run that ends without a timeout or a defect, in whatever order evaluations go
on and callbacks answer: every leaf that there is at the beginning is evaluated, and so is, after a
node has turned final, every node that had an edge to it in the live graph. -/
theorem no_wakeup_is_lost (hplan : d.plan = .ok p)
    (h : WholePass ask concurrency (.first p concurrency dryRun world log) q ms q') :
    (∀ n ∈ q.shared.plan.leaves, Visited ask concurrency q ms n) ∧
    ∀ pre m post r, ms = pre ++ m :: post → play ask concurrency pre q = some r →
      ∀ s, (r.shared.tracker.status s).isFinal = false →
        ((r.after ask concurrency m).shared.tracker.status s).isFinal = true →
        ∀ a e, r.shared.plan.graph.edge? a s = some e →
          Visited ask concurrency (r.after ask concurrency m) post a := by
  constructor
  · intro n hn
    have hnone : play ask concurrency [] q = some q := rfl
    refine h.visited hplan rfl hnone (.inl ?_)
    rw [h.opens.shared.1]
    exact hn
  · intro pre m post r hms hplay s hbefore hafter a e he
    have hp := runnable_attach (built_of_plan hplan)
    have hsteady := (reachable_of_play h.reachable hplay).steady hp
    have hnext : play ask concurrency (pre ++ [m]) q = some (r.after ask concurrency m) := by
      have hall := h.plays
      rw [hms, play_append, hplay, Option.bind_some, play_cons] at hall
      rw [play_snoc, hplay, Option.bind_some]
      by_cases hm : r.allows m = true
      · exact if_pos hm
      · rw [if_neg hm] at hall
        cases hall
    exact h.visited hplan (by rw [hms, List.append_assoc]; rfl) hnext
      (.inl (hsteady.queued hp hbefore hafter he))

/-- The action is queued twice, once by each of its two dependencies, and the second evaluation
waits for the lock of the first.  When the body has ended, the element that the action acts for is
queued, and it is evaluated. -/
theorem joined_wakes_element :
    let start := Pass.first (planned joined) none false true #[]
    let pre : List (Move Bool) :=
      [.spawn, .resume 0, .resume 1, .collect, .spawn, .resume 2, .resume 3]
    let ends : Move Bool := .answerBody 2 (.reply (.ok ()))
    let post : List (Move Bool) := [.resume 3, .spawn, .resume 4, .spawn]
    ∃ r q', WholePass gate none start start (pre ++ ends :: post) q' ∧
      play gate none pre start = some r ∧
      r.tasks = [⟨2, 3, .paused (.body 0)⟩, ⟨3, 3, .awaitingLock⟩] ∧
      (r.shared.tracker.status 3).isFinal = false ∧
      ((r.after gate none ends).shared.tracker.status 3).isFinal = true ∧
      r.shared.plan.graph.edge? 2 3 = some .hard ∧
      Visited gate none (r.after gate none ends) post 2 ∧
      Visited gate none start (pre ++ ends :: post) 0 := by
  intro start pre ends post
  have hmoment : (play gate none pre start).any (fun r =>
      r.tasks = [⟨2, 3, .paused (.body 0)⟩, ⟨3, 3, .awaitingLock⟩] ∧
      (r.shared.tracker.status 3).isFinal = false ∧
      ((r.after gate none ends).shared.tracker.status 3).isFinal = true ∧
      r.shared.plan.graph.edge? 2 3 = some .hard) = true := by decide +kernel
  have hend : (play gate none (pre ++ ends :: post) start).any (fun q => q.tasks = []) = true := by
    decide +kernel
  obtain ⟨r, hr, hmoment⟩ := (Option.any_eq_true _ _).1 hmoment
  obtain ⟨q', hplays, hend⟩ := (Option.any_eq_true _ _).1 hend
  obtain ⟨htasks, hbefore, hafter, he⟩ := of_decide_eq_true hmoment
  have hwhole : WholePass gate none start start (pre ++ ends :: post) q' :=
    ⟨.first, hplays, by simp [pre, ends, post, Move.stops], rfl, of_decide_eq_true hend⟩
  have hwoken := no_wakeup_is_lost (d := joined) rfl hwhole
  exact ⟨r, q', hwhole, hr, htasks, hbefore, hafter, he,
    hwoken.2 pre ends post r rfl hr 3 hbefore hafter 2 .hard he, hwoken.1 0 (by decide)⟩

end Rollout.Engine
