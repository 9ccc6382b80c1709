import Rollout.Proofs.Engine.Narrative
import Rollout.Proofs.Order.Started

/-!
# Final statuses

A node that has been recorded as deployed, destroyed or failed keeps that status: its own
evaluations, those of a node that leads it, and the failing of unfinished nodes at the end record
nothing about it any more.  A node is only ever recorded at the goal that it has
(`final_statuses_stay`).
-/

namespace Rollout.Engine

open Rollout.Plan

variable {ω : Type} {d : Deployment} {p : Plan} {s : State ω} {q q' start : Pass ω}
  {ask : Condition → ω → Readiness × ω} {concurrency : Option Nat} {dryRun : Bool} {world : ω}
  {log : Array Log.Event} {trace rest : List (NodeId × NodeStatus)} {n : NodeId}
  {status : NodeStatus}

/-! ## Lawful traces -/

/-- Nothing is recorded about a final node. -/
theorem Lawful.settled (h : Lawful p (trace ++ rest))
    (hfinal : (statusAfter trace n).isFinal = true) :
    statusAfter (trace ++ rest) n = statusAfter trace n ∧ ∀ late, (n, late) ∉ rest := by
  induction rest using List.reverseRecOn with
  | nil => exact ⟨by rw [List.append_nil], fun _ => List.not_mem_nil⟩
  | append_singleton rest t ih =>
    rw [← List.append_assoc] at h ⊢
    obtain ⟨hrest, hs⟩ := h.snoc_inv
    obtain ⟨hsame, hnone⟩ := ih hrest
    -- The last transition is that of a node that was not final.
    have hne : t.1 ≠ n := by
      intro heq
      have hnot := hs.not_final
      rw [heq, hsame, hfinal] at hnot
      cases hnot
    refine ⟨?_, fun late hmem => ?_⟩
    · rw [statusAfter_snoc, if_neg hne, hsame]
    · rcases List.mem_append.1 hmem with hmem | hmem
      · exact hnone late hmem
      · exact hne (congrArg Prod.fst (List.mem_singleton.1 hmem)).symm

/-- A node comes to no goal but its own. -/
theorem Permitted.own_goal {before : NodeId → NodeStatus} (h : Permitted p before n status)
    (hgoal : status.isGoal = true) :
    ∃ node, p.nodes[n]? = some node ∧ status = node.goal.status := by
  obtain ⟨node, hnode, hcause⟩ := h.cause
  refine ⟨node, hnode, ?_⟩
  rcases hcause with rfl | ⟨hproxy, -⟩ | ⟨rfl | rfl, -⟩
  · cases hgoal
  · cases status <;> cases hproxy <;> cases hgoal
  · rw [Goal.isGoal_inProgress] at hgoal
    cases hgoal
  · rfl

/-- A transition to a final status is the last one of its node. -/
theorem Lawful.last_of_final {pre post : List (NodeId × NodeStatus)}
    (h : Lawful p (pre ++ (n, status) :: post)) (hfinal : status.isFinal = true) :
    statusAfter (pre ++ (n, status) :: post) n = status ∧ (∀ late, (n, late) ∉ post) ∧
      (status.isGoal = true → ∃ node, p.nodes[n]? = some node ∧ status = node.goal.status) := by
  have hcause := h.permitted
  have hthere : statusAfter (pre ++ [(n, status)]) n = status := by
    rw [statusAfter_snoc, if_pos rfl]
  rw [List.append_cons] at h ⊢
  obtain ⟨hsame, hnone⟩ := h.settled (hthere.symm ▸ hfinal)
  exact ⟨hsame.trans hthere, hnone, hcause.own_goal⟩

/-! ## Later passes -/

/-- What is reachable from a reachable pass is reachable. -/
theorem Reachable.trans (h : Reachable ask concurrency start q)
    (h' : Reachable ask concurrency q q') : Reachable ask concurrency start q' := by
  induction h' with
  | start => exact h
  | move m _ hm ih => exact ih.move m hm

/-- Moves take nothing back. -/
theorem Reachable.later (hlocks : q.Locks) (hids : Numbered q.shared)
    (h : Reachable ask concurrency q q') : Later q.shared q'.shared ∧ q'.Locks := by
  induction h with
  | start => exact ⟨.refl _, hlocks⟩
  | @move q₁ m _ hm ih =>
    obtain ⟨hlater, hlocks₁⟩ := ih
    have hstep : Stepped ask q₁ m (q₁.after ask concurrency m) := stepped hlocks₁ hm
    exact ⟨hlater.trans (hstep.later (hlater.numbered hids)), hstep.locks⟩

/-- The state a run ends with: as a pass has left it, or with what has not finished failed. -/
def Ends (s s' : State ω) : Prop := s' = s ∨ ∃ fault, s' = failUnfinished fault s

/-- The end of a run keeps the bookkeeping and adds to the trace at most. -/
theorem Ends.consistent {s' : State ω}
    (hids : ∀ {n} {node : Node}, p.nodes[n]? = some node → node.id = n) (h : Consistent p s)
    (hends : Ends s s') : Consistent p s' ∧ s.trace <+: s'.trace := by
  rcases hends with rfl | ⟨fault, rfl⟩
  · exact ⟨h, List.prefix_rfl⟩
  · obtain ⟨hconsistent, late, htrace, -⟩ := consistent_failUnfinished hids h fault
    exact ⟨hconsistent, late, htrace.symm⟩

/-- From any pass of a run on, and up to the end of the run, a node that is final keeps its status,
and nothing is recorded about a node after a final status.  The goal that a node is recorded at is
its own. -/
theorem final_statuses_stay (hplan : d.plan = .ok p)
    (hreach : Reachable ask concurrency (.first p concurrency dryRun world log) q)
    (hlater : Reachable ask concurrency q q') (hends : Ends q'.shared s) :
    (∀ n < p.nodes.length, (q.shared.tracker.status n).isFinal = true →
      s.tracker.status n = q.shared.tracker.status n) ∧
    q.shared.trace <+: s.trace ∧
    ∀ pre n status post, s.trace = pre ++ (n, status) :: post → status.isFinal = true →
      s.tracker.status n = status ∧ (∀ late, (n, late) ∉ post) ∧
      (status.isGoal = true → ∃ node, p.nodes[n]? = some node ∧ status = node.goal.status) := by
  obtain ⟨hsound, hsteady⟩ := hreach.steady_of_plan hplan
  have hsteady' := ((hreach.trans hlater).steady_of_plan hplan).2
  have hids : Numbered q.shared := hsteady.consistent.numbered hsound
  obtain ⟨hend, hgrown⟩ := hends.consistent hsound.id_eq hsteady'.consistent
  -- the trace of the end begins with the trace of every pass before it
  have hprefix := (hlater.later hsteady.locks hids).1.trace.trans hgrown
  refine ⟨fun n hn hfinal => ?_, hprefix, fun pre n status post htrace hfinal => ?_⟩
  · obtain ⟨rest, hrest⟩ := hprefix
    rw [hsteady.consistent.status_eq hn] at hfinal ⊢
    rw [hend.status_eq hn, ← hrest]
    exact (Lawful.settled (hrest ▸ hend.lawful) hfinal).1
  · have hlawful := hend.lawful
    rw [htrace] at hlawful
    -- after an entry with a final status a lawful trace has no other entry for the node
    obtain ⟨hstatus, hnone, hgoal⟩ := hlawful.last_of_final hfinal
    obtain ⟨node, hnode, -⟩ := hlawful.permitted.cause
    refine ⟨?_, hnone, hgoal⟩
    rw [hend.status_eq (lt_of_node hnode), htrace, hstatus]

/-- An element, and one that depends on it and has to be checked. -/
def layered : Deployment where
  added := [
    { id := "base", component := "base" },
    { id := "top", component := "top", relation := fun _ => some (.edge "top" "base"),
      check := some 0 }]

/-- The deadline passes while the second element is checked: it fails, and the first one stays
deployed. -/
theorem layered_stays_deployed : ∃ q q' fault, replay layered true [.spawn, .resume 0] = some q ∧
    play gate none [.spawn, .resume 1, .stop] q = some q' ∧
    q.shared.tracker.status 0 = .deployed ∧
    (failUnfinished fault q'.shared).tracker.status 1 = .failed ∧
    (failUnfinished fault q'.shared).tracker.status 0 = .deployed := by
  let fault : Fault := .timeout (.ofSeconds 1)
  obtain ⟨q, q', hq, hq', hdone, hfailed⟩ : ∃ q q',
      replay layered true [.spawn, .resume 0] = some q ∧
      play gate none [.spawn, .resume 1, .stop] q = some q' ∧
      q.shared.tracker.status 0 = .deployed ∧
      (failUnfinished fault q'.shared).tracker.status 1 = .failed :=
    ⟨_, _, rfl, rfl, rfl, rfl⟩
  have hplan : layered.plan = .ok (planned layered) := rfl
  have hstays := (final_statuses_stay hplan (reachable_of_replay hq)
    (reachable_of_play .start hq') (.inr ⟨fault, rfl⟩)).1 0 (by decide) (by rw [hdone]; rfl)
  exact ⟨q, q', fault, hq, hq', hdone, hfailed, hstays.trans hdone⟩

/-- In an executed run, too, nothing is recorded about a node after a final status. -/
theorem execute_last_of_final (hplan : d.plan = .ok p) {calls : Callbacks ω} {options : Options}
    {limits : Limits} {pre post : List (NodeId × NodeStatus)}
    (htrace : (execute calls options limits p world log).state.trace = pre ++ (n, status) :: post)
    (hfinal : status.isFinal = true) :
    (∀ late, (n, late) ∉ post) ∧
      (status.isGoal = true → ∃ node, p.nodes[n]? = some node ∧ status = node.goal.status) := by
  obtain ⟨-, -, -, hlawful, -⟩ := execute_interleaves (runnable_attach (built_of_plan hplan))
    calls options limits world log
  rw [htrace] at hlawful
  exact (hlawful.last_of_final hfinal).2

end Rollout.Engine
