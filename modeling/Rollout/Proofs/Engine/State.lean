import Rollout.Proofs.Engine.Trace
import Rollout.Proofs.Status.Tracker

/-!
# The shared state

Evaluations share one state.  `Consistent` ties its parts together: the live graph is the graph
of the plan less the nodes that are at their goals, the tracker stands where the trace leads to,
and the trace is lawful.  The first part of the file says how computations on the state run; the
second how recording a transition changes the state.
-/

namespace Rollout.Engine

open Rollout.Plan

section

variable {ω α β : Type}

/-! ## Running -/

/-- A sequence runs its second part on what the first one returns, unless that fails. -/
theorem run_bind (x : Eval ω α) (f : α → Eval ω β) (s : State ω) :
    (x >>= f).run.run s =
      match x.run.run s with
      | (.ok a, s') => (f a).run.run s'
      | (.error e, s') => (.error e, s') := by
  show (ExceptT.bindCont f =<< x.run).run s = _
  show (match x.run.run s with | (r, s') => (ExceptT.bindCont f r).run s') = _
  cases x.run.run s with
  | mk r s' => cases r <;> rfl

/-- Once the first part is known to succeed, the sequence is the second part. -/
theorem run_bind_ok {x : Eval ω α} {a : α} {s s' : State ω} (h : x.run.run s = (.ok a, s'))
    (f : α → Eval ω β) : (x >>= f).run.run s = (f a).run.run s' := by
  rw [run_bind, h]

/-- A failure of the first part is the failure of the sequence. -/
theorem run_bind_error {x : Eval ω α} {e : Fault} {s s' : State ω}
    (h : x.run.run s = (.error e, s')) (f : α → Eval ω β) :
    (x >>= f).run.run s = (.error e, s') := by
  rw [run_bind, h]

/-- A result that is lifted leaves the state as it is. -/
theorem run_liftExcept (x : Except Fault α) (s : State ω) :
    (liftM x : Eval ω α).run.run s = (x, s) := by
  cases x <;> rfl

theorem run_get_bind (f : State ω → Eval ω β) (s : State ω) :
    (get >>= f).run.run s = (f s).run.run s := rfl

/-- A node is looked up in the plan of the state, which stays as it is. -/
theorem run_nodeOf (n : NodeId) (s : State ω) : (nodeOf n).run.run s = (s.plan.node n, s) := by
  unfold nodeOf
  rw [run_get_bind]
  exact run_liftExcept _ s

/-! ## Consistent states -/

/-- The transitions that took effect, as a trace. -/
def State.trace (s : State ω) : List (NodeId × NodeStatus) := s.transitions.toList

/-- The parts of a state agree with each other and with the plan that is run. -/
structure Consistent (p : Plan) (s : State ω) : Prop where
  frame : s.plan = { p with graph := s.plan.graph, completed := s.plan.completed }
  coherent : s.plan.graph.Coherent
  edge?_iff : ∀ {a b k}, s.plan.graph.edge? a b = some k ↔
    p.graph.edge? a b = some k ∧ s.plan.isLive a = true ∧ s.plan.isLive b = true
  isLive_iff : ∀ {n}, s.plan.isLive n = true ↔
    n < p.nodes.length ∧ ¬p.AtGoal (statusAfter s.trace) n
  knows : ∀ {n}, n < p.nodes.length → s.tracker.knows n
  status_eq : ∀ {n}, n < p.nodes.length → s.tracker.status n = statusAfter s.trace n
  lawful : Lawful p s.trace
  tallied : s.tracker.Tallied p.nodes.length

namespace Consistent

variable {p : Plan} {s : State ω} {n : NodeId}

/-- A pass does not change the nodes of its plan. -/
theorem nodes_eq (h : Consistent p s) : s.plan.nodes = p.nodes := by rw [h.frame]

theorem node_eq (h : Consistent p s) (n : NodeId) : s.plan.node n = p.node n := by
  unfold Plan.node
  rw [h.nodes_eq]

theorem followersOf_eq (h : Consistent p s) (n : NodeId) :
    s.plan.followersOf n = p.followersOf n := by rw [h.frame]; rfl

theorem nodeOf?_eq (h : Consistent p s) (e : ElementId) : s.plan.nodeOf? e = p.nodeOf? e := by
  rw [h.frame]; rfl

theorem context_eq (h : Consistent p s) : s.plan.context = p.context := by rw [h.frame]

/-- Whether a status is final can be read from the trace. -/
theorem isFinal_eq (h : Consistent p s) (hn : n < p.nodes.length) :
    s.tracker.isFinal n = (statusAfter s.trace n).isFinal := by
  unfold Tracker.isFinal
  rw [h.status_eq hn]

/-- A node that the plan has is found, and the state stays as it is. -/
theorem run_nodeOf_ok (h : Consistent p s) {node : Node} (hnode : p.nodes[n]? = some node) :
    (nodeOf n).run.run s = (.ok node, s) := by
  rw [run_nodeOf, h.node_eq, node_eq_ok_iff.2 hnode]

/-- A node that is not final is in the live graph. -/
theorem isLive_of_not_final (h : Consistent p s) (hn : n < p.nodes.length)
    (hfinal : (statusAfter s.trace n).isFinal = false) : s.plan.isLive n = true := by
  refine h.isLive_iff.2 ⟨hn, ?_⟩
  rintro ⟨node, -, hstatus⟩
  rw [hstatus, Goal.isFinal_status] at hfinal
  cases hfinal

/-- Another log and another environment make no difference. -/
theorem withWorld (h : Consistent p s) (world : ω) (log : Array Log.Event) :
    Consistent p { s with world, log } :=
  ⟨h.frame, h.coherent, h.edge?_iff, h.isLive_iff, h.knows, h.status_eq, h.lawful,
    h.tallied⟩

theorem withQueue (h : Consistent p s) (queue : List NodeId) : Consistent p { s with queue } :=
  ⟨h.frame, h.coherent, h.edge?_iff, h.isLive_iff, h.knows, h.status_eq, h.lawful,
    h.tallied⟩

theorem withStarted (h : Consistent p s) (started : List NodeId) :
    Consistent p { s with started } :=
  ⟨h.frame, h.coherent, h.edge?_iff, h.isLive_iff, h.knows, h.status_eq, h.lawful,
    h.tallied⟩

theorem withStopped (h : Consistent p s) (stopped : Bool) : Consistent p { s with stopped } :=
  ⟨h.frame, h.coherent, h.edge?_iff, h.isLive_iff, h.knows, h.status_eq, h.lawful,
    h.tallied⟩

/-- Output of an action does not bear on the bookkeeping. -/
theorem addOutput (h : Consistent p s) (n : NodeId) (text : String) :
    Consistent p { s with tracker := s.tracker.addOutput n text } where
  frame := h.frame
  coherent := h.coherent
  edge?_iff := h.edge?_iff
  isLive_iff := h.isLive_iff
  knows hm := (Tracker.knows_addOutput ..).2 (h.knows hm)
  status_eq hm := (Tracker.status_addOutput ..).trans (h.status_eq hm)
  lawful := h.lawful
  tallied := h.tallied.addOutput n text

end Consistent

/-! ## Recording a transition -/

/-- The state after a transition has been recorded. -/
def State.turned (s : State ω) (n : NodeId) (status : NodeStatus) (error : Option Fault)
    (description : Option String) : State ω :=
  { s with
    log := match s.tracker.eventOf n status error with
      | some e => s.log.push e
      | none => s.log
    tracker := (s.tracker.set n status error description).2
    transitions :=
      if (s.tracker.set n status error description).1 then s.transitions.push (n, status)
      else s.transitions }

/-- Recording a status turns the state and says whether anything has changed. -/
theorem run_record (n : NodeId) (status : NodeStatus) (error : Option Fault)
    (description : Option String) (s : State ω) :
    (record n status error description).run.run s =
      (.ok (s.tracker.set n status error description).1,
        s.turned n status error description) := by
  unfold record State.turned
  rw [run_get_bind]
  cases s.tracker.eventOf n status error <;> rfl

/-- A transition records the status, unless the pass has been told to stop. -/
theorem run_transition (n : NodeId) (status : NodeStatus) (error : Option Fault)
    (description : Option String) (s : State ω) :
    (transition n status error description).run.run s =
      if s.stopped then (.ok false, s)
      else (.ok (s.tracker.set n status error description).1,
        s.turned n status error description) := by
  unfold transition
  rw [run_get_bind]
  cases h : s.stopped with
  | true => rfl
  | false => exact run_record n status error description s

section Turned

variable {p : Plan} {s : State ω} {n : NodeId} {status : NodeStatus} {error : Option Fault}
  {description : Option String}

/-- Recording gives the node its new status, and leaves all others alone. -/
theorem statusAfter_turned (h : Consistent p s) (hn : n < p.nodes.length) (m : NodeId) :
    statusAfter (s.turned n status error description).trace m =
      if m = n then status else statusAfter s.trace m := by
  unfold State.trace State.turned
  rw [Tracker.set_fst (h.knows hn), h.status_eq hn]
  by_cases hsame : statusAfter s.trace n = status ∧ error = none
  · by_cases hm : m = n
    · simp [hsame, hm, ← hsame.1, State.trace]
    · simp [hsame, hm]
  · simp only [hsame, decide_false, Bool.not_false, if_true, Array.toList_push, statusAfter_snoc]
    by_cases hm : m = n
    · simp [hm]
    · simp [hm, Ne.symm hm]

/-- A status is written to the trace once, or not at all if nothing changes. -/
theorem trace_turned : (s.turned n status error description).trace = s.trace ∨
    (s.turned n status error description).trace = s.trace ++ [(n, status)] := by
  unfold State.trace State.turned
  by_cases hchanged : (s.tracker.set n status error description).1
  · rw [if_pos hchanged, Array.toList_push]
    exact .inr rfl
  · rw [if_neg hchanged]
    exact .inl rfl

/-- A status that changes nothing leaves no trace. -/
theorem trace_turned_of_unchanged
    (hchanged : (s.tracker.set n status error description).1 = false) :
    (s.turned n status error description).trace = s.trace := by
  unfold State.trace State.turned
  rw [hchanged]
  rfl

/-- A permitted status continues a lawful trace. -/
theorem lawful_turned (h : Consistent p s) (hs : Permitted p (statusAfter s.trace) n status) :
    Lawful p (s.turned n status error description).trace := by
  rcases trace_turned with htrace | htrace
  · rw [htrace]
    exact h.lawful
  · rw [htrace]
    exact .snoc h.lawful hs

/-- A node is at its goal if it was, or if it has just been given its goal's status. -/
theorem atGoal_turned (h : Consistent p s) (hn : n < p.nodes.length)
    (hs : Permitted p (statusAfter s.trace) n status) {m : NodeId} :
    p.AtGoal (statusAfter (s.turned n status error description).trace) m ↔
      p.AtGoal (statusAfter s.trace) m ∨
        m = n ∧ ∃ node, p.nodes[n]? = some node ∧ status = node.goal.status := by
  unfold AtGoal
  rw [statusAfter_turned h hn]
  by_cases hm : m = n
  · subst hm
    simp only [if_true, true_and]
    refine ⟨.inr, ?_⟩
    rintro (⟨node, -, hstatus⟩ | h)
    · have hfinal := hs.not_final
      rw [hstatus, Goal.isFinal_status] at hfinal
      cases hfinal
    · exact h
  · simp [hm]

/-- The tracker knows the same nodes as before. -/
theorem knows_turned (h : Consistent p s) (hn : n < p.nodes.length) {m : NodeId}
    (hm : m < p.nodes.length) : (s.turned n status error description).tracker.knows m :=
  Tracker.knows_set (h.knows hn) status error description (h.knows hm)

/-- The tracker keeps agreeing with the trace. -/
theorem status_turned (h : Consistent p s) (hn : n < p.nodes.length) {m : NodeId}
    (hm : m < p.nodes.length) :
    (s.turned n status error description).tracker.status m =
      statusAfter (s.turned n status error description).trace m := by
  rw [statusAfter_turned h hn, ← h.status_eq hm]
  exact Tracker.status_set (h.knows hn) status error description m

/-- A permitted transition that leads to no goal keeps a state consistent. -/
theorem Consistent.turned (h : Consistent p s) (hn : n < p.nodes.length)
    (hs : Permitted p (statusAfter s.trace) n status) (hgoal : status.isGoal = false) :
    Consistent p (s.turned n status error description) where
  frame := h.frame
  coherent := h.coherent
  edge?_iff := h.edge?_iff
  isLive_iff {m} := by
    -- the status is no goal, so no node has come to its goal and none leaves the live graph
    have hnone : ¬∃ node, p.nodes[n]? = some node ∧ status = node.goal.status := by
      rintro ⟨node, -, rfl⟩
      rw [Goal.isGoal_status] at hgoal
      cases hgoal
    rw [atGoal_turned h hn hs]
    simp only [hnone, and_false, or_false]
    exact h.isLive_iff
  knows hm := knows_turned h hn hm
  status_eq hm := status_turned h hn hm
  lawful := lawful_turned h hs
  tallied := h.tallied.set n status error description

end Turned

end

end Rollout.Engine
