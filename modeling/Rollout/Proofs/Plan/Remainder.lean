import Rollout.Proofs.Digraph.EdgeList
import Rollout.Proofs.Plan.History

/-!
# What is left of a plan

A run takes nodes out of the live graph, one after another, and changes nothing else about its plan.
-/

namespace Rollout.Plan

variable {p q r : Plan} {a b n : NodeId} {k : EdgeKind}

/-- What is left of a plan once some of its nodes have been completed. -/
inductive Remainder (p : Plan) : Plan → Prop where
  | whole : Remainder p p
  | without {q q' : Plan} {n : NodeId} (h : Remainder p q) (hn : q.removeNode n = .ok q') :
      Remainder p q'

namespace Remainder

/-- What remains of a remainder remains of the plan. -/
theorem trans (h : p.Remainder q) (h' : q.Remainder r) : p.Remainder r := by
  induction h' with
  | whole => exact h
  | without _ hn ih => exact ih.without hn

/-- Only the live graph and the list of completed nodes change. -/
theorem frame (h : p.Remainder q) : q = { p with graph := q.graph, completed := q.completed } := by
  induction h with
  | whole => rfl
  | without _ hn ih =>
    obtain ⟨-, rfl⟩ := removeNode_eq hn
    rw [ih]

theorem nodes_eq (h : p.Remainder q) : q.nodes = p.nodes := by rw [h.frame]

theorem nodeOf?_eq (h : p.Remainder q) (e : ElementId) : q.nodeOf? e = p.nodeOf? e := by
  rw [h.frame]; rfl

section Coherent

variable (hp : p.graph.Coherent)

include hp

/-- A remainder of a coherent graph is coherent. -/
theorem coherent (h : p.Remainder q) : q.graph.Coherent := by
  induction h with
  | whole => exact hp
  | without _ hn ih =>
    obtain ⟨-, rfl⟩ := removeNode_eq hn
    exact ih.removeNode _

/-- An edge is there as long as both of its ends are. -/
theorem edge?_iff (h : p.Remainder q) : q.graph.edge? a b = some k ↔
    p.graph.edge? a b = some k ∧ q.isLive a = true ∧ q.isLive b = true := by
  induction h with
  | whole =>
    refine ⟨fun hk => ⟨hk, ?_⟩, fun hk => hk.1⟩
    have hb := Digraph.mem_successors_of_edge hk
    exact ⟨Digraph.contains_of_mem_successors hb, hp.contains_target hb⟩
  | @without q q' n h hn ih =>
    obtain ⟨-, rfl⟩ := removeNode_eq hn
    have hq := h.coherent hp
    unfold isLive at ih ⊢
    simp only [hq.edge?_removeNode, hq.toTidy.contains_removeNode, ih, Bool.and_eq_true,
      bne_iff_ne]
    tauto

/-- No node comes back to life. -/
theorem isLive_of_isLive (h : p.Remainder q) (hn : q.isLive n = true) : p.isLive n = true := by
  induction h with
  | whole => exact hn
  | without h hm ih =>
    obtain ⟨-, rfl⟩ := removeNode_eq hm
    unfold isLive at ih hn
    simp only [(h.coherent hp).toTidy.contains_removeNode, Bool.and_eq_true] at hn
    exact ih hn.1

/-- No edge comes back. -/
theorem edges_subset (h : p.Remainder q) : q.graph.edges ⊆ p.graph.edges := by
  rintro ⟨a, b⟩ hab
  obtain ⟨k, hk⟩ := Digraph.mem_successors_iff_edge.1 (Digraph.mem_edges.1 hab)
  exact Digraph.mem_edges.2 (Digraph.mem_successors_of_edge ((h.edge?_iff hp).1 hk).1)

/-- There are no more edges of a kind than there were. -/
theorem countP_edges_le (h : p.Remainder q) (f : NodeId × NodeId → Bool) :
    q.graph.edges.countP f ≤ p.graph.edges.countP f :=
  ((h.coherent hp).nodup_edges.subperm (h.edges_subset hp)).countP_le f

end Coherent

end Remainder

end Rollout.Plan
