import Rollout.Proofs.Engine.State

/-!
# Updates

An update records where a node has got to and tells whoever is affected.  `Moved` says what the
evaluation of one node may do to all others: nodes that have been started, and nodes that are
final, stay as they are, and whoever depends on a node that turns final is queued.  `Turn` says all
that an update comes to, for the node, the elements it acts for, and those that depend on it.
-/

namespace Rollout.Engine

open Rollout.Plan

variable {ω : Type} {p : Plan} {s s' s'' : State ω} {n : NodeId}

/-- What the evaluation of `n` may do to the shared state. -/
structure Moved (p : Plan) (n : NodeId) (s s' : State ω) : Prop where
  consistent : Consistent p s'
  stopped : s'.stopped = s.stopped
  queue : s.queue ⊆ s'.queue
  queued : ∀ {a}, a ∈ s'.queue → a ∈ s.queue ∨ a < p.nodes.length
  final : ∀ {m}, (statusAfter s.trace m).isFinal = true →
    statusAfter s'.trace m = statusAfter s.trace m
  started : ∀ {m}, m ≠ n → Started p (statusAfter s.trace) m →
    statusAfter s'.trace m = statusAfter s.trace m
  woken : ∀ {m a k}, m ≠ n → (statusAfter s.trace m).isFinal = false →
    (statusAfter s'.trace m).isFinal = true → s.plan.graph.edge? a m = some k → a ∈ s'.queue

/-- If `n` itself has turned final then whoever depends on it is queued. -/
def Signalled (n : NodeId) (s s' : State ω) : Prop :=
  (statusAfter s.trace n).isFinal = false → (statusAfter s'.trace n).isFinal = true →
    ∀ {a k}, s.plan.graph.edge? a n = some k → a ∈ s'.queue

/-- If the node has taken another status then the elements it acts for reflect that, unless they are
final. -/
def Told (p : Plan) (n : NodeId) (status : NodeStatus) (s s' : State ω) : Prop :=
  statusAfter s.trace n ≠ status → ∀ {node a f status'}, p.nodes[n]? = some node →
    a ∈ node.actsFor → p.nodeOf? a.element = some f → reflected? status = some status' →
    (statusAfter s.trace f).isFinal = false → statusAfter s'.trace f = status'

namespace Moved

/-- A change that no node sees. -/
theorem of_quiet (h : Consistent p s') (hstopped : s'.stopped = s.stopped)
    (hqueue : s'.queue = s.queue) (htrace : s'.trace = s.trace) : Moved p n s s' where
  consistent := h
  stopped := hstopped
  queue := by rw [hqueue]; exact fun _ => id
  queued ha := .inl (hqueue ▸ ha)
  final _ := by rw [htrace]
  started _ _ := by rw [htrace]
  woken _ h h' _ := by rw [htrace, h] at h'; cases h'

/-- What stays as it is counts as moved. -/
theorem refl (h : Consistent p s) : Moved p n s s := of_quiet h rfl rfl rfl

/-- A move after a move, with the same plan, is a move. -/
theorem trans (h : Moved p n s s') (hplan : s'.plan = s.plan) (h' : Moved p n s' s'') :
    Moved p n s s'' where
  consistent := h'.consistent
  stopped := h'.stopped.trans h.stopped
  queue := List.Subset.trans h.queue h'.queue
  queued ha := (h'.queued ha).elim h.queued .inr
  final hm := by
    have hstep := h.final hm
    rw [h'.final (hstep ▸ hm), hstep]
  started {m} hne hm := by
    have hstep := h.started hne hm
    have hm' : Started p (statusAfter s'.trace) m := by
      obtain ⟨node, hnode, hstatus⟩ := hm
      exact ⟨node, hnode, by rw [hstep]; exact hstatus⟩
    rw [h'.started hne hm', hstep]
  woken {m a k} hne hm hm' ha := by
    cases hmid : (statusAfter s'.trace m).isFinal with
    | true => exact h'.queue (h.woken hne hm hmid ha)
    | false => exact h'.woken hne hmid hm' (by rw [hplan]; exact ha)

end Moved

/-- What of the state the reflection of `status` in the followers of `n` has touched. -/
structure Reflects (p : Plan) (n : NodeId) (status : NodeStatus) (s s' : State ω) : Prop where
  others : ∀ m, statusAfter s'.trace m = statusAfter s.trace m ∨
    m ∈ p.followersOf n ∧ (statusAfter s.trace m).isFinal = false ∧
      statusAfter s'.trace m = status
  unqueued : status.isFinal = false → s'.queue = s.queue
  claimed : s'.started = s.started
  dryRun : s'.dryRun = s.dryRun

namespace Reflects

variable {status : NodeStatus}

theorem refl (s : State ω) : Reflects p n status s s :=
  ⟨fun _ => .inl rfl, fun _ => rfl, rfl, rfl⟩

/-- Reflections add up. -/
theorem trans (h : Reflects p n status s s') (h' : Reflects p n status s' s'') :
    Reflects p n status s s'' where
  others m := by
    rcases h.others m with hm | ⟨hf, hfinal, hm⟩ <;>
      rcases h'.others m with hm' | ⟨hf', hfinal', hm'⟩
    · exact .inl (hm'.trans hm)
    · exact .inr ⟨hf', hm ▸ hfinal', hm'⟩
    · exact .inr ⟨hf, hfinal, hm'.trans hm⟩
    · exact .inr ⟨hf, hfinal, hm'⟩
  unqueued hs := (h'.unqueued hs).trans (h.unqueued hs)
  claimed := h'.claimed.trans h.claimed
  dryRun := h'.dryRun.trans h.dryRun

/-- Whoever has taken the status keeps it. -/
theorem stays (h : Reflects p n status s s') {m : NodeId} (hm : statusAfter s.trace m = status) :
    statusAfter s'.trace m = status := by
  rcases h.others m with hsame | ⟨-, -, hthere⟩
  · rw [hsame, hm]
  · exact hthere

/-- The node at work is no follower of its own, and so it stands where it stood. -/
theorem own (hp : p.Sound) (h : Reflects p n status s s') :
    statusAfter s'.trace n = statusAfter s.trace n :=
  (h.others n).resolve_right fun hf => hp.follower_ne hf.1 rfl

end Reflects

/-- The node has taken a status, which the nodes it leads may reflect. -/
structure Recorded (p : Plan) (n : NodeId) (status : NodeStatus) (s s' : State ω) : Prop
    extends Moved p n s s' where
  own : statusAfter s'.trace n = status
  others : ∀ {m}, m ≠ n → statusAfter s'.trace m = statusAfter s.trace m ∨
    m ∈ p.followersOf n ∧ (statusAfter s.trace m).isFinal = false ∧
      reflected? status = some (statusAfter s'.trace m)
  unqueued : status.isFinal = false → s'.queue = s.queue
  claimed : s'.started = s.started
  dryRun : s'.dryRun = s.dryRun

/-- The node has taken a status, and whoever is affected has been told. -/
structure Turn (p : Plan) (n : NodeId) (status : NodeStatus) (s s' : State ω) : Prop
    extends Recorded p n status s s' where
  signalled : Signalled n s s'
  told : Told p n status s s'

/-! ## Telling the dependents -/

/-- The state after the dependents of a node have been queued, if it has become final. -/
def State.signalled (s : State ω) (n : NodeId) (status : NodeStatus) : State ω :=
  if status.isFinal then { s with queue := s.queue ++ s.plan.graph.predecessors n } else s

/-- The predecessors of a live node are queued if its status is final. -/
theorem run_signalDependents (hn : s.plan.isLive n = true) (status : NodeStatus) :
    (signalDependents n status).run.run s = (.ok (), s.signalled n status) := by
  unfold signalDependents State.signalled
  cases hf : status.isFinal with
  | false => rfl
  | true =>
    simp only [if_true]
    rw [run_get_bind]
    unfold Plan.predecessors Plan.ensureLive
    rw [hn]
    rfl

section Signalled

variable (s) (n) (status : NodeStatus)

@[simp]
theorem signalled_trace : (s.signalled n status).trace = s.trace := by
  unfold State.signalled; split <;> rfl

@[simp]
theorem signalled_plan : (s.signalled n status).plan = s.plan := by
  unfold State.signalled; split <;> rfl

@[simp]
theorem signalled_tracker : (s.signalled n status).tracker = s.tracker := by
  unfold State.signalled; split <;> rfl

@[simp]
theorem signalled_stopped : (s.signalled n status).stopped = s.stopped := by
  unfold State.signalled; split <;> rfl

/-- The queue grows only. -/
theorem signalled_queue : s.queue ⊆ (s.signalled n status).queue := by
  unfold State.signalled
  split
  · exact List.subset_append_left _ _
  · exact fun _ => id

/-- A status that is not final wakes nobody. -/
theorem signalled_queue_of_not_final (h : status.isFinal = false) :
    (s.signalled n status).queue = s.queue := by
  unfold State.signalled
  rw [h]
  rfl

@[simp]
theorem signalled_started : (s.signalled n status).started = s.started := by
  unfold State.signalled; split <;> rfl

@[simp]
theorem signalled_dryRun : (s.signalled n status).dryRun = s.dryRun := by
  unfold State.signalled; split <;> rfl

/-- The queue does not bear on consistency. -/
theorem Consistent.signalled {s : State ω} (h : Consistent p s) :
    Consistent p (s.signalled n status) := by
  unfold State.signalled
  split
  · exact h.withQueue _
  · exact h

/-- Whoever depends on the node is queued. -/
theorem mem_queue_signalled {s : State ω} (h : s.plan.graph.Coherent) {status : NodeStatus}
    (hs : status.isFinal = true) {a : NodeId} {k : EdgeKind}
    (ha : s.plan.graph.edge? a n = some k) : a ∈ (s.signalled n status).queue := by
  unfold State.signalled
  rw [if_pos hs]
  exact List.mem_append_right _
    (h.mem_predecessors.2 (Digraph.mem_successors_of_edge ha))

end Signalled

/-- Only nodes of the plan are queued. -/
theorem queued_signalled (hp : p.Sound) (h : Consistent p s) (hplan : s'.plan = s.plan)
    (status : NodeStatus) {a : NodeId} (ha : a ∈ (s'.signalled n status).queue) :
    a ∈ s'.queue ∨ a < p.nodes.length := by
  unfold State.signalled at ha
  split at ha
  · refine (List.mem_append.1 ha).imp_right fun ha => ?_
    have ha : a ∈ s'.plan.graph.predecessors n := ha
    rw [hplan, h.coherent.mem_predecessors] at ha
    obtain ⟨k, hk⟩ := Digraph.mem_successors_iff_edge.1 ha
    exact hp.source_lt (h.edge?_iff.1 hk).1
  · exact .inl ha

/-- Queueing the dependents of a node changes no status. -/
theorem moved_signalled (hp : p.Sound) (h : Consistent p s) (m n : NodeId) (status : NodeStatus) :
    Moved p m s (s.signalled n status) where
  consistent := h.signalled n status
  stopped := signalled_stopped ..
  queue := signalled_queue ..
  queued := queued_signalled hp h rfl status
  final _ := by rw [signalled_trace]
  started _ _ := by rw [signalled_trace]
  woken _ hm hm' _ := by
    rw [signalled_trace, hm] at hm'
    cases hm'

/-- A transition of one node, with its dependents queued if it has become final, moves the state
as the evaluation of any other node may. -/
theorem moved_turned_signalled (hp : p.Sound) (h : Consistent p s) {f : NodeId}
    (hf : f < p.nodes.length) {status : NodeStatus}
    (hs : Permitted p (statusAfter s.trace) f status)
    (hgoal : status.isGoal = false) (hfree : ¬Started p (statusAfter s.trace) f)
    (error : Option Fault) (description : Option String) :
    Moved p n s ((s.turned f status error description).signalled f status) where
  consistent := (h.turned hf hs hgoal).signalled f status
  stopped := signalled_stopped ..
  queue := signalled_queue (s.turned f status error description) f status
  queued ha := by
    have hplan : (s.turned f status error description).plan = s.plan := rfl
    exact queued_signalled hp h hplan status ha
  final {m} hm := by
    have hne : m ≠ f := by
      rintro rfl
      rw [hs.not_final] at hm
      cases hm
    rw [signalled_trace, statusAfter_turned h hf, if_neg hne]
  started {m} _ hm := by
    have hne : m ≠ f := fun hmf => hfree (hmf ▸ hm)
    rw [signalled_trace, statusAfter_turned h hf, if_neg hne]
  -- only `f` can have become final just now, and its predecessors are queued
  woken {m a k} _ hm hm' ha := by
    rw [signalled_trace, statusAfter_turned h hf] at hm'
    by_cases hmf : m = f
    · subst hmf
      rw [if_pos rfl] at hm'
      exact mem_queue_signalled (s := s.turned m status error description) m h.coherent hm' ha
    · rw [if_neg hmf, hm] at hm'
      cases hm'

/-! ## Reflecting work in the elements it acts for -/

/-- A goal is not reflected: followers come to their own goals. -/
theorem reflected?_status (g : Goal) : reflected? g.status = none := by cases g <;> rfl

/-- What is reflected is a failure, or that the leader is in progress; it is never a goal. -/
theorem reflected?_eq_some {status status' : NodeStatus} (h : reflected? status = some status') :
    (status' = .failed ∨ status'.isProxy = true ∧ status.isInProgress = true) ∧
      status'.isGoal = false := by
  cases status <;> simp [reflected?] at h <;> subst h <;> decide

/-- A node that changes to progress of its own has been started. -/
theorem started_of_permitted {status : NodeId → NodeStatus} {s : NodeStatus}
    (hs : Permitted p status n s) (hprogress : s.isInProgress = true) :
    ∃ node, p.nodes[n]? = some node ∧ (s = node.goal.inProgress ∨ s = node.goal.status) := by
  obtain ⟨node, hnode, hcause⟩ := hs.cause
  rcases hcause with rfl | ⟨hproxy, -⟩ | ⟨hgoal, -⟩
  · cases hprogress
  · cases s <;> cases hproxy <;> cases hprogress
  · exact ⟨node, hnode, hgoal⟩

/-- While the leader is not at its goal, none of its followers has been started. -/
theorem not_started_follower (hp : p.Sound) (h : Consistent p s) {f : NodeId}
    (hf : f ∈ p.followersOf n) (hn : ¬p.AtGoal (statusAfter s.trace) n) :
    ¬Started p (statusAfter s.trace) f := fun hstarted =>
  hn ((h.lawful.met_of_started hp hstarted).hard n (hp.edge_leader (hp.mem_followersOf.1 hf)))

/-- The state after an element has taken a reflected status. -/
def State.reflected (s : State ω) (f : NodeId) (status : NodeStatus) (error : Option Fault)
    (detail : String) : State ω :=
  let s' := s.turned f status error (some detail)
  if (s.tracker.set f status error (some detail)).1 then s'.signalled f status else s'

section Reflected

variable {f : NodeId} {status : NodeStatus} {error : Option Fault} {a : ActingFor}

/-- A reflection leaves the plan as it is. -/
theorem reflected_plan (s : State ω) (detail : String) :
    (s.reflected f status error detail).plan = s.plan := by
  unfold State.reflected
  split
  · exact signalled_plan (s.turned f status error (some detail)) f status
  · rfl

/-- A reflection changes the status of the one follower that it is about. -/
theorem reflects_reflected (hp : p.Sound) (h : Consistent p s) (hf : f ∈ p.followersOf n)
    (hfinal : (statusAfter s.trace f).isFinal = false)
    (detail : String) : Reflects p n status s (s.reflected f status error detail) := by
  have hlt := hp.follower_lt hf
  have hturned : Reflects p n status s (s.turned f status error (some detail)) := by
    refine ⟨fun m => ?_, fun _ => rfl, rfl, rfl⟩
    rw [statusAfter_turned h hlt]
    by_cases hm : m = f
    · subst hm
      rw [if_pos rfl]
      exact .inr ⟨hf, hfinal, rfl⟩
    · rw [if_neg hm]
      exact .inl rfl
  unfold State.reflected
  split
  · refine hturned.trans ⟨fun m => .inl ?_, ?_, ?_, ?_⟩
    · rw [signalled_trace]
    · exact signalled_queue_of_not_final (s.turned f status error (some detail)) f status
    · exact signalled_started ..
    · exact signalled_dryRun ..
  · exact hturned

/-- A reflection that is permitted to a follower that has not been started is a move. -/
theorem moved_reflected (hp : p.Sound) (h : Consistent p s) (hf : f < p.nodes.length)
    (hs : Permitted p (statusAfter s.trace) f status) (hgoal : status.isGoal = false)
    (hfree : ¬Started p (statusAfter s.trace) f) (detail : String) :
    Moved p n s (s.reflected f status error detail) := by
  unfold State.reflected
  by_cases hchanged : (s.tracker.set f status error (some detail)).1 = true
  · rw [if_pos hchanged]
    exact moved_turned_signalled hp h hf hs hgoal hfree error _
  · -- The status has not changed, so it is not final and there is nobody to tell.
    rw [if_neg hchanged]
    rw [Bool.not_eq_true] at hchanged
    exact .of_quiet (h.turned hf hs hgoal) rfl rfl (trace_turned_of_unchanged hchanged)

/-- A follower that is final is passed over. -/
theorem run_reflect_of_final (hnode : s.plan.nodeOf? a.element = some f)
    (hfinal : s.tracker.isFinal f = true) (as : List ActingFor) :
    (reflect status error (a :: as)).run.run s = (reflect status error as).run.run s := by
  rw [reflect, run_get_bind, hnode]
  simp only
  rw [run_get_bind, hfinal]
  rfl

/-- A follower that is not final gets the status, and wakes whoever waits for it. -/
theorem run_reflect_of_not_final (hnode : s.plan.nodeOf? a.element = some f)
    (hfinal : s.tracker.isFinal f = false) (hlive : s.plan.isLive f = true)
    (hstop : s.stopped = false) (as : List ActingFor) :
    (reflect status error (a :: as)).run.run s =
      (reflect status error as).run.run (s.reflected f status error a.detail) := by
  have htransition := run_transition f status error (some a.detail) s
  rw [hstop] at htransition
  simp only [Bool.false_eq_true, if_false] at htransition
  rw [reflect, run_get_bind, hnode]
  simp only
  rw [run_get_bind, hfinal]
  simp only [Bool.false_eq_true, if_false]
  rw [run_bind_ok htransition]
  unfold State.reflected
  -- predecessors are woken if the status is a new one
  cases hchanged : (s.tracker.set f status error (some a.detail)).1 with
  | true =>
    have hsignal := run_signalDependents (s := s.turned f status error (some a.detail)) hlive status
    simp only [if_true]
    rw [run_bind_ok hsignal]
  | false => rfl

end Reflected

/-- The follower has the reflected status. -/
theorem statusAfter_reflected (h : Consistent p s) {f : NodeId} (hf : f < p.nodes.length)
    {status : NodeStatus} {error : Option Fault} (detail : String) :
    statusAfter (s.reflected f status error detail).trace f = status := by
  have hturned : statusAfter (s.turned f status error (some detail)).trace f = status := by
    rw [statusAfter_turned h hf, if_pos rfl]
  unfold State.reflected
  split
  · rw [signalled_trace, hturned]
  · exact hturned

/-- Reflecting reaches everyone that is not final, and touches none but the followers of the node at
work. -/
theorem run_reflect (hp : p.Sound) {status : NodeStatus}
    (hgoal : status.isGoal = false) (error : Option Fault) (as : List ActingFor)
    (has : ∀ a ∈ as, ∃ f ∈ p.followersOf n, p.nodeOf? a.element = some f) (s : State ω)
    (h : Consistent p s) (hstop : s.stopped = false)
    (hn : ¬p.AtGoal (statusAfter s.trace) n)
    (hstatus : status = .failed ∨ status.isProxy = true ∧ Started p (statusAfter s.trace) n) :
    ∃ s', (reflect status error as).run.run s = (.ok (), s') ∧ Moved p n s s' ∧
      s'.plan = s.plan ∧ Reflects p n status s s' ∧
      ∀ a ∈ as, ∀ f, p.nodeOf? a.element = some f → (statusAfter s.trace f).isFinal = false →
        statusAfter s'.trace f = status := by
  induction as generalizing s with
  | nil => exact ⟨s, rfl, .refl h, rfl, .refl s, nofun⟩
  | cons a as ih =>
    obtain ⟨f, hfollower, hnode⟩ := has a List.mem_cons_self
    have hf := hp.follower_lt hfollower
    have hrest := fun b hb => has b (List.mem_cons_of_mem a hb)
    have hthere : ∀ f', p.nodeOf? a.element = some f' → f' = f := fun f' hf' =>
      Option.some.inj (hf'.symm.trans hnode)
    rw [← h.nodeOf?_eq] at hnode
    -- a follower that is final is passed over, and nothing is claimed of it
    cases hfinal : (statusAfter s.trace f).isFinal with
    | true =>
      rw [run_reflect_of_final hnode ((h.isFinal_eq hf).trans hfinal)]
      obtain ⟨s', hrun, hmoved, hplan, hreflects, hreached⟩ := ih hrest s h hstop hn hstatus
      refine ⟨s', hrun, hmoved, hplan, hreflects, fun b hb f' hf' hnot => ?_⟩
      rcases List.mem_cons.1 hb with rfl | hb
      · rw [hthere f' hf', hfinal] at hnot
        cases hnot
      · exact hreached b hb f' hf' hnot
    | false =>
      have hlive := h.isLive_of_not_final hf hfinal
      rw [run_reflect_of_not_final hnode ((h.isFinal_eq hf).trans hfinal) hlive hstop]
      have hperm : Permitted p (statusAfter s.trace) f status := by
        obtain ⟨node, hfnode⟩ := node_of_lt hf
        exact ⟨hfinal, node, hfnode, hstatus.imp_right fun hproxy =>
          .inl ⟨hproxy.1, n, hp.mem_followersOf.1 hfollower, hproxy.2⟩⟩
      have hmoved : Moved p n s (s.reflected f status error a.detail) :=
        moved_reflected hp h hf hperm hgoal (not_started_follower hp h hfollower hn) a.detail
      have hplan : (s.reflected f status error a.detail).plan = s.plan :=
        reflected_plan s a.detail
      have hreflects : Reflects p n status s (s.reflected f status error a.detail) :=
        reflects_reflected hp h hfollower hfinal a.detail
      -- a node does not follow itself, so the leader's status is what it was before this reflection
      have hself := hreflects.own hp
      obtain ⟨s', hrun, hmoved', hplan', hreflects', hreached⟩ :=
        ih hrest (s.reflected f status error a.detail) hmoved.consistent
          (hmoved.stopped.trans hstop) (by unfold AtGoal; rwa [hself])
          (by unfold Started; rwa [hself])
      refine ⟨s', hrun, hmoved.trans hplan hmoved', hplan'.trans hplan,
        hreflects.trans hreflects', fun b hb f' hf' hnot => ?_⟩
      rcases List.mem_cons.1 hb with rfl | hb
      · rw [hthere f' hf']
        exact hreflects'.stays (statusAfter_reflected h hf b.detail)
      · rcases hreflects.others f' with hsame | ⟨-, -, hdone⟩
        · exact hreached b hb f' hf' (hsame ▸ hnot)
        · exact hreflects'.stays hdone

/-! ## Updating the node under evaluation -/

/-- A permitted status that is no goal is recorded. -/
theorem recorded_turned (h : Consistent p s) (hn : n < p.nodes.length) {status : NodeStatus}
    (hs : Permitted p (statusAfter s.trace) n status) (hgoal : status.isGoal = false)
    (error : Option Fault) (description : Option String) :
    Recorded p n status s (s.turned n status error description) where
  consistent := h.turned hn hs hgoal
  stopped := rfl
  queue := fun _ => id
  queued := .inl
  -- `n` was not final before, so that every final status is another node's
  final {m} hm := by
    have hne : m ≠ n := by
      rintro rfl
      rw [hs.not_final] at hm
      cases hm
    rw [statusAfter_turned h hn, if_neg hne]
  started hne _ := by rw [statusAfter_turned h hn, if_neg hne]
  woken hne hm hm' _ := by
    rw [statusAfter_turned h hn, if_neg hne, hm] at hm'
    cases hm'
  own := by rw [statusAfter_turned h hn, if_pos rfl]
  others hne := .inl (by rw [statusAfter_turned h hn, if_neg hne])
  unqueued _ := rfl
  claimed := rfl
  dryRun := rfl

/-- What is recorded stays recorded while followers reflect it. -/
theorem Recorded.reflects (hp : p.Sound) {status status' : NodeStatus}
    (h : Recorded p n status s s') (hplan : s'.plan = s.plan)
    (hreflected : reflected? status = some status') (hmoved : Moved p n s' s'')
    (hreflects : Reflects p n status' s' s'') : Recorded p n status s s'' where
  toMoved := h.toMoved.trans hplan hmoved
  own := (hreflects.own hp).trans h.own
  others {m} hne := by
    -- a follower may be told twice, if the node acts for its element twice
    rcases hreflects.others m with hm | ⟨hf, hfinal, hm⟩
    · rw [hm]
      exact h.others hne
    · rcases h.others hne with hm' | ⟨-, hfinal', -⟩
      · exact .inr ⟨hf, hm' ▸ hfinal, by rw [hm, hreflected]⟩
      · exact .inr ⟨hf, hfinal', by rw [hm, hreflected]⟩
  unqueued hs := by
    have hs' : status'.isFinal = false := by
      cases status <;> cases hs <;> cases hreflected <;> rfl
    exact (hreflects.unqueued hs').trans (h.unqueued hs)
  claimed := hreflects.claimed.trans h.claimed
  dryRun := hreflects.dryRun.trans h.dryRun

/-- After the stop nothing is updated. -/
theorem run_update_of_stopped (hstop : s.stopped = true) (status : NodeStatus)
    (error : Option Fault) : (update n status error).run.run s = (.ok (), s) := by
  have htransition := run_transition n status error none s
  rw [hstop] at htransition
  unfold update
  rw [run_bind_ok htransition]
  rfl

/-- The last thing an update does: whoever depends on the node is queued if the node is final. -/
theorem run_signal (hp : p.Sound) {status : NodeStatus} (h : Recorded p n status s s')
    (htold : Told p n status s s') (hplan : s'.plan = s.plan) (hlive : s.plan.isLive n = true) :
    ∃ s'', (signalDependents n status).run.run s' = (.ok (), s'') ∧ Turn p n status s s'' ∧
      s''.plan = s.plan := by
  have hlive' : s'.plan.isLive n = true := by rw [hplan]; exact hlive
  refine ⟨_, run_signalDependents hlive' status, ?_, by rw [signalled_plan, hplan]⟩
  -- the statuses are those that were recorded, and the queue has grown by whoever waits for the
  -- node
  refine ⟨⟨h.toMoved.trans hplan (moved_signalled hp h.consistent n n status), ?_, fun hne => ?_,
    fun hs => ?_, ?_, ?_⟩, fun _ hfinal a k ha => ?_, ?_⟩
  · rw [signalled_trace, h.own]
  · rw [signalled_trace]
    exact h.others hne
  · rw [signalled_queue_of_not_final s' n status hs, h.unqueued hs]
  · rw [signalled_started, h.claimed]
  · rw [signalled_dryRun, h.dryRun]
  · rw [signalled_trace, h.own] at hfinal
    exact mem_queue_signalled n h.consistent.coherent hfinal (by rw [hplan]; exact ha)
  · unfold Told
    rw [signalled_trace]
    exact htold

/-- An update that leads to no goal. -/
theorem run_update (hp : p.Runnable) (h : Consistent p s) (hstop : s.stopped = false)
    {status : NodeStatus} (hs : Permitted p (statusAfter s.trace) n status)
    (hgoal : status.isGoal = false) (error : Option Fault) :
    ∃ s', (update n status error).run.run s = (.ok (), s') ∧ Turn p n status s s' ∧
      s'.plan = s.plan := by
  obtain ⟨node, hnode, -⟩ := hs.cause
  have hn := lt_of_node hnode
  have hrecorded := recorded_turned h hn hs hgoal error none
  have htransition := run_transition n status error none s
  rw [hstop] at htransition
  simp only [Bool.false_eq_true, if_false] at htransition
  unfold update
  rw [run_bind_ok htransition]
  cases hchanged : (s.tracker.set n status error none).1 with
  | false =>
    -- Recording the same status once more tells nobody.
    simp only [Bool.false_eq_true, if_false]
    refine ⟨_, rfl, ⟨hrecorded, fun hm hm' => ?_, fun hne => ?_⟩, rfl⟩
    · rw [trace_turned_of_unchanged hchanged, hm] at hm'
      cases hm'
    · rw [← hrecorded.own, trace_turned_of_unchanged hchanged] at hne
      exact absurd rfl hne
  | true =>
    simp only [if_true]
    have hlive := h.isLive_of_not_final hn hs.not_final
    cases hreflected : reflected? status with
    | none =>
      refine run_signal hp.toSound hrecorded (fun _ {_ _ _ _} _ _ _ hsome => ?_) rfl hlive
      rw [hreflected] at hsome
      cases hsome
    | some status' =>
      -- The new status is no goal, and if it is one of progress then the node has been started.
      have hfree : ¬p.AtGoal (statusAfter (s.turned n status error none).trace) n := by
        intro hthere
        have hisGoal := hthere.isGoal
        rw [hrecorded.own, hgoal] at hisGoal
        cases hisGoal
      obtain ⟨hcause, hgoal'⟩ := reflected?_eq_some hreflected
      have hstarted : status.isInProgress = true →
          Started p (statusAfter (s.turned n status error none).trace) n := by
        intro hprogress
        obtain ⟨node', hnode', hstatus⟩ := started_of_permitted hs hprogress
        exact ⟨node', hnode', by rw [hrecorded.own]; exact hstatus⟩
      obtain ⟨s₁, hrun, hmoved₁, hplan₁, hreflects, hreached⟩ :=
        run_reflect (n := n) hp.toSound hgoal' error node.actsFor
          (fun a ha => hp.acts_for_follower hnode ha) _ hrecorded.consistent hstop hfree
          (hcause.imp_right fun hproxy => ⟨hproxy.1, hstarted hproxy.2⟩)
      have htold : Told p n status s s₁ := by
        intro _ node' a f status'' hnode' ha hf hsome hnot
        obtain rfl := Option.some.inj (hnode.symm.trans hnode')
        obtain rfl := Option.some.inj (hreflected.symm.trans hsome)
        obtain ⟨f', hfollower, hf'⟩ := hp.acts_for_follower hnode ha
        obtain rfl := Option.some.inj (hf'.symm.trans hf)
        refine hreached a ha _ hf ?_
        rwa [statusAfter_turned h hn, if_neg (hp.follower_ne hfollower)]
      simp only
      rw [run_bind_ok (hrecorded.consistent.run_nodeOf_ok hnode), run_bind_ok hrun]
      exact run_signal hp.toSound
        (hrecorded.reflects hp.toSound rfl hreflected hmoved₁ hreflects) htold hplan₁ hlive

/-! ## Completing a node -/

/-- A plan after a live node has been taken out of the live graph. -/
def withoutLive (p : Plan) (n : NodeId) : Plan :=
  { p with
    graph := p.graph.removeNode n
    completed := if p.completed.contains n then p.completed else p.completed ++ [n] }

/-- A live node can be removed. -/
theorem removeNode_eq_ok (h : p.isLive n = true) : p.removeNode n = .ok (withoutLive p n) := by
  unfold Plan.removeNode Plan.ensureLive
  rw [h]
  rfl

/-- The state after a node has come to its goal. -/
def State.completed (s : State ω) (n : NodeId) (goal : Goal) : State ω :=
  let s' := (s.turned n goal.status none none).signalled n goal.status
  { s' with plan := withoutLive s'.plan n }

theorem completed_trace (s : State ω) (n : NodeId) (goal : Goal) :
    (s.completed n goal).trace = (s.turned n goal.status none none).trace :=
  signalled_trace ..

theorem completed_plan (s : State ω) (n : NodeId) (goal : Goal) :
    (s.completed n goal).plan = withoutLive s.plan n :=
  congrArg (withoutLive · n) (signalled_plan (s.turned n goal.status none none) n goal.status)

/-- A node that comes to its goal leaves the live graph, and takes its edges with it. -/
theorem Consistent.completed (h : Consistent p s) {node : Node}
    (hnode : p.nodes[n]? = some node)
    (hs : Permitted p (statusAfter s.trace) n node.goal.status) :
    Consistent p (s.completed n node.goal) := by
  have hn := lt_of_node hnode
  have hlive : ∀ m, (s.completed n node.goal).plan.isLive m = (s.plan.isLive m && m != n) := by
    intro m
    rw [completed_plan]
    exact h.coherent.toTidy.contains_removeNode n m
  refine ⟨?_, ?_, fun {a b k} => ?_, fun {m} => ?_, fun {m} hm => ?_, fun {m} hm => ?_, ?_, ?_⟩
  · -- nothing but the live graph and the list of completed nodes has changed
    rw [completed_plan]
    unfold withoutLive
    simp only
    rw [h.frame]
  · rw [completed_plan]
    exact h.coherent.removeNode n
  · rw [hlive, hlive, completed_plan]
    simp only [withoutLive, h.coherent.edge?_removeNode, h.edge?_iff, Bool.and_eq_true, bne_iff_ne]
    tauto
  · rw [hlive, Bool.and_eq_true, bne_iff_ne, h.isLive_iff, completed_trace, atGoal_turned h hn hs]
    have hself : ∃ node', p.nodes[n]? = some node' ∧ node.goal.status = node'.goal.status :=
      ⟨node, hnode, rfl⟩
    simp only [hself, and_true]
    tauto
  · unfold State.completed State.signalled
    split <;> exact knows_turned h hn hm
  · rw [completed_trace, ← status_turned h hn hm]
    unfold State.completed State.signalled
    split <;> rfl
  · rw [completed_trace]
    exact lawful_turned h hs
  · have hset := h.tallied.set n node.goal.status none none
    unfold State.completed State.signalled
    split <;> exact hset

/-- A node that may come to its goal does, and leaves the live graph. -/
theorem run_complete (h : Consistent p s) (hstop : s.stopped = false) {node : Node}
    (hnode : p.nodes[node.id]? = some node)
    (hs : Permitted p (statusAfter s.trace) node.id node.goal.status) :
    (complete node).run.run s = (.ok none, s.completed node.id node.goal) := by
  have hn := lt_of_node hnode
  have hlive := h.isLive_of_not_final hn hs.not_final
  -- The goal is another status than the one before, so the transition takes effect.
  have hchanged : (s.tracker.set node.id node.goal.status none none).1 = true := by
    rw [Tracker.set_fst (h.knows hn), h.status_eq hn]
    have hne : statusAfter s.trace node.id ≠ node.goal.status := by
      intro heq
      have hfinal := hs.not_final
      rw [heq, Goal.isFinal_status] at hfinal
      cases hfinal
    simp [hne]
  have hupdate : (update node.id node.goal.status none).run.run s =
      (.ok (), (s.turned node.id node.goal.status none none).signalled node.id
        node.goal.status) := by
    have htransition := run_transition node.id node.goal.status none none s
    rw [hstop, hchanged] at htransition
    simp only [Bool.false_eq_true, if_false] at htransition
    unfold update
    rw [run_bind_ok htransition, reflected?_status]
    exact run_signalDependents (s := s.turned _ _ _ _) hlive _
  unfold complete
  rw [run_get_bind, hstop]
  simp only [Bool.false_eq_true, if_false]
  rw [run_bind_ok hupdate, run_get_bind, removeNode_eq_ok (by rw [signalled_plan]; exact hlive)]
  rfl

/-- To complete a node is to turn it to its goal. -/
theorem turn_completed (hp : p.Sound) (h : Consistent p s) {node : Node}
    (hnode : p.nodes[n]? = some node) (hs : Permitted p (statusAfter s.trace) n node.goal.status) :
    Turn p n node.goal.status s (s.completed n node.goal) := by
  have hn := lt_of_node hnode
  have hstatus : ∀ m, statusAfter (s.completed n node.goal).trace m =
      if m = n then node.goal.status else statusAfter s.trace m := by
    intro m
    rw [completed_trace, statusAfter_turned h hn]
  have hfinal : node.goal.status.isFinal = true := Goal.isFinal_status _
  exact {
    consistent := h.completed hnode hs
    stopped := signalled_stopped ..
    queue := signalled_queue (s.turned n node.goal.status none none) n _
    queued := fun ha => by
      have hplan : (s.turned n node.goal.status none none).plan = s.plan := rfl
      exact queued_signalled hp h hplan _ ha
    final := fun {m} hm => by
      have hne : m ≠ n := by
        rintro rfl
        rw [hs.not_final] at hm
        cases hm
      rw [hstatus, if_neg hne]
    started := fun hne _ => by rw [hstatus, if_neg hne]
    woken := fun hne hm hm' _ => by
      rw [hstatus, if_neg hne, hm] at hm'
      cases hm'
    own := by rw [hstatus, if_pos rfl]
    others := fun hne => .inl (by rw [hstatus, if_neg hne])
    unqueued := fun hnot => absurd (hfinal.symm.trans hnot) nofun
    claimed := signalled_started ..
    dryRun := signalled_dryRun ..
    signalled := fun _ _ a k ha =>
      mem_queue_signalled (s := s.turned n node.goal.status none none) n h.coherent hfinal ha
    -- a goal is not reflected, so there is nothing to tell
    told := fun _ {_ _ _ _} _ _ _ hsome => by
      rw [reflected?_status] at hsome
      cases hsome }

end Rollout.Engine
