import Mathlib.Data.List.Induction
import Rollout.Engine.Evaluation
import Rollout.Proofs.Plan.Sound

/-!
# Traces

A trace is the list of transitions that took effect.  `statusAfter` reads off where it leaves a
node.  `Lawful` is the law of traces: a final node does not change any more, and a node is
started, or brought to its goal, only once its dependencies are met.  Everything that is said
about the order of a run follows from this law, by induction on the trace.
-/

namespace Rollout.Engine

open Rollout.Plan

/-- Where a trace leaves a node; every node waits at first. -/
def statusAfter (trace : List (NodeId × NodeStatus)) (n : NodeId) : NodeStatus :=
  trace.foldl (fun s t => if t.1 = n then t.2 else s) .waiting

/-- A node has been started, or is done. -/
def Started (p : Plan) (status : NodeId → NodeStatus) (n : NodeId) : Prop :=
  ∃ node, p.nodes[n]? = some node ∧
    (status n = node.goal.inProgress ∨ status n = node.goal.status)

/-- A node may change to a status: it may fail, it may reflect the work of its leader, and it may
be started or come to its goal. -/
structure Permitted (p : Plan) (status : NodeId → NodeStatus) (n : NodeId) (s : NodeStatus) :
    Prop where
  not_final : (status n).isFinal = false
  cause : ∃ node, p.nodes[n]? = some node ∧
    (s = .failed ∨ (s.isProxy = true ∧ ∃ l, p.leader? n = some l ∧ Started p status l) ∨
      (s = node.goal.inProgress ∨ s = node.goal.status) ∧ p.Met status n)

/-- Every transition was permitted when it took effect. -/
inductive Lawful (p : Plan) : List (NodeId × NodeStatus) → Prop where
  | nil : Lawful p []
  | snoc {trace n s} : Lawful p trace → Permitted p (statusAfter trace) n s →
      Lawful p (trace ++ [(n, s)])

@[simp]
theorem statusAfter_nil (n : NodeId) : statusAfter [] n = .waiting := rfl

/-- The last entry of a trace decides the status of its node. -/
@[simp]
theorem statusAfter_snoc (trace : List (NodeId × NodeStatus)) (t : NodeId × NodeStatus)
    (n : NodeId) :
    statusAfter (trace ++ [t]) n = if t.1 = n then t.2 else statusAfter trace n := by
  unfold statusAfter
  rw [List.foldl_append]
  rfl

/-- A node at its goal has been started. -/
theorem Started.of_atGoal {p : Plan} {status : NodeId → NodeStatus} {n : NodeId}
    (h : p.AtGoal status n) : Started p status n :=
  h.imp fun _ h => ⟨h.1, .inr h.2⟩

namespace Lawful

variable {p : Plan} {trace : List (NodeId × NodeStatus)} {n : NodeId} {s : NodeStatus}

/-- The last entry of a lawful trace was permitted. -/
theorem snoc_inv (h : Lawful p (trace ++ [(n, s)])) :
    Lawful p trace ∧ Permitted p (statusAfter trace) n s := by
  generalize hl : trace ++ [(n, s)] = l at h
  cases h with
  | nil => simp at hl
  | snoc h hs =>
    obtain ⟨rfl, hlast⟩ := List.append_inj' hl rfl
    obtain ⟨rfl, rfl⟩ := Prod.mk.inj (List.singleton_inj.1 hlast)
    exact ⟨h, hs⟩

/-- A step of a trace keeps every node at its goal that is there. -/
theorem atGoal_snoc (hs : Permitted p (statusAfter trace) n s) {m : NodeId}
    (hm : p.AtGoal (statusAfter trace) m) : p.AtGoal (statusAfter (trace ++ [(n, s)])) m := by
  obtain ⟨node, hnode, hstatus⟩ := hm
  refine ⟨node, hnode, ?_⟩
  have hne : n ≠ m := by
    rintro rfl
    have hfinal := hs.not_final
    rw [hstatus, Goal.isFinal_status] at hfinal
    cases hfinal
  rw [statusAfter_snoc, if_neg hne, hstatus]

/-- What is known of a prefix is known of the whole trace. -/
theorem of_append {rest : List (NodeId × NodeStatus)} (h : Lawful p (trace ++ rest)) :
    Lawful p trace ∧
      ∀ m, p.AtGoal (statusAfter trace) m → p.AtGoal (statusAfter (trace ++ rest)) m := by
  induction rest using List.reverseRecOn with
  | nil =>
    rw [List.append_nil] at h ⊢
    exact ⟨h, fun _ hm => hm⟩
  | append_singleton rest t ih =>
    rw [← List.append_assoc] at h ⊢
    obtain ⟨hrest, hs⟩ := h.snoc_inv
    obtain ⟨htrace, hmono⟩ := ih hrest
    exact ⟨htrace, fun m hm => atGoal_snoc hs (hmono m hm)⟩

/-- A transition in the middle of a trace was permitted. -/
theorem permitted {pre post : List (NodeId × NodeStatus)}
    (h : Lawful p (pre ++ (n, s) :: post)) : Permitted p (statusAfter pre) n s := by
  have hsplit : pre ++ (n, s) :: post = (pre ++ [(n, s)]) ++ post := by simp
  rw [hsplit] at h
  exact h.of_append.1.snoc_inv.2

/-- The dependencies of a node that has been started are met, and stay so. -/
theorem met_of_started (hp : p.Sound) (h : Lawful p trace)
    (hn : Started p (statusAfter trace) n) : p.Met (statusAfter trace) n := by
  induction h with
  | nil =>
    obtain ⟨node, -, hstatus⟩ := hn
    rw [statusAfter_nil] at hstatus
    cases hgoal : node.goal <;> rw [hgoal] at hstatus <;>
      rcases hstatus with hstatus | hstatus <;> cases hstatus
  | @snoc trace m s h hs ih =>
    have hmono := fun x (hx : p.AtGoal (statusAfter trace) x) => atGoal_snoc hs hx
    by_cases hm : m = n
    · subst hm
      obtain ⟨node, hnode, hstatus⟩ := hn
      rw [statusAfter_snoc, if_pos rfl] at hstatus
      obtain ⟨node', hnode', hcause⟩ := hs.cause
      obtain rfl : node = node' := Option.some.inj (hnode.symm.trans hnode')
      -- Only the last of the three ways to change leaves the node started.
      rcases hcause with rfl | ⟨hproxy, -⟩ | ⟨-, hmet⟩
      · cases hgoal : node.goal <;> simp [hgoal, Goal.inProgress, Goal.status] at hstatus
      · cases hgoal : node.goal <;> rw [hgoal] at hstatus <;>
          rcases hstatus with rfl | rfl <;> cases hproxy
      · exact hmet.mono hp hmono
    · have hn' : Started p (statusAfter trace) n := by
        simpa [Started, statusAfter_snoc, hm] using hn
      exact (ih hn').mono hp hmono

/-- The statuses a node can have. -/
theorem status_cases (h : Lawful p trace) (n : NodeId) :
    statusAfter trace n = .waiting ∨ statusAfter trace n = .failed ∨
      (statusAfter trace n).isProxy = true ∨ Started p (statusAfter trace) n := by
  induction h with
  | nil => exact .inl rfl
  | @snoc trace m s h hs ih =>
    by_cases hm : m = n
    · subst hm
      obtain ⟨node, hnode, hcause⟩ := hs.cause
      simp only [Started, statusAfter_snoc, if_true]
      rcases hcause with hfailed | ⟨hproxy, -⟩ | ⟨hgoal, -⟩
      · exact .inr (.inl hfailed)
      · exact .inr (.inr (.inl hproxy))
      · exact .inr (.inr (.inr ⟨node, hnode, hgoal⟩))
    · simpa [Started, statusAfter_snoc, hm] using ih

/-- A final node has failed or is at its goal. -/
theorem failed_or_atGoal (h : Lawful p trace) (hn : (statusAfter trace n).isFinal = true) :
    statusAfter trace n = .failed ∨ p.AtGoal (statusAfter trace) n := by
  rcases h.status_cases n with hs | hs | hs | ⟨node, hnode, hs | hs⟩
  · rw [hs] at hn
    cases hn
  · exact .inl hs
  · unfold NodeStatus.isFinal at hn
    rw [hs] at hn
    simp at hn
  · rw [hs] at hn
    cases hgoal : node.goal <;> rw [hgoal] at hn <;> cases hn
  · exact .inr ⟨node, hnode, hs⟩

end Lawful

end Rollout.Engine
