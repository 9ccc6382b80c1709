import Rollout.Plan.Dump
import Rollout.Proofs.Digraph.StackSearch
import Rollout.Proofs.Plan.History

/-!
# The order of a dump

Operators read a dump as the order of work.  It lists the live nodes with what they depend on, and
nothing in front of what it depends on, if that is possible at all (`dumps_in_execution_order`).
-/

namespace Rollout.Plan

variable {p : Plan} {n t : NodeId} {k : EdgeKind} {e : DependencyEntry}

/-- The entries are those of the live nodes, each there once, and each with the edges that leave it.
Without cycles they are in the order in which a search with a stack finishes the nodes, which has
every node behind what it depends on.  Otherwise the last node comes first. -/
structure Dumps (p : Plan) (entries : List DependencyEntry) : Prop where
  once : (entries.map (·.id)).Nodup
  mem_iff : ∀ n, n ∈ entries.map (·.id) ↔ p.isLive n = true
  edges_once : ∀ e ∈ entries, (e.dependencies.map (·.id)).Nodup
  edge_iff : ∀ e ∈ entries, ∀ t k,
    (∃ d ∈ e.dependencies, d.id = t ∧ d.kind = k) ↔ p.graph.edge? e.id t = some k
  in_front : ¬p.graph.Cyclic → ∀ front e back, entries = front ++ e :: back →
    ∀ d ∈ e.dependencies, d.id ∈ front.map (·.id)
  searched : ¬p.graph.Cyclic → ∀ order,
    p.graph.StackOrder order ↔ order = entries.map (·.id)
  reversed : p.graph.Cyclic → entries.map (·.id) = p.graph.nodes.reverse

/-- The dump lists the nodes in the order of the search. -/
theorem ids_dependencies (p : Plan) :
    p.dependencies.map (·.id) = p.graph.dependenciesFirst := by
  unfold dependencies
  rw [List.map_map]
  exact List.map_id _

/-- An entry of the dump is the entry of its node. -/
theorem eq_dependencyEntry (h : e ∈ p.dependencies) : e = p.dependencyEntry e.id := by
  obtain ⟨n, -, rfl⟩ := List.mem_map.1 h
  rfl

/-- The dependencies of an entry are the successors of its node. -/
theorem targets_dependencyEntry (p : Plan) (n : NodeId) :
    (p.dependencyEntry n).dependencies.map (·.id) = p.graph.successors n := by
  unfold dependencyEntry Digraph.successors
  rw [List.map_map]
  rfl

/-- An entry has the edges of its node, with their kinds. -/
theorem exists_dependency_iff (hp : p.graph.Tidy) :
    (∃ d ∈ (p.dependencyEntry n).dependencies, d.id = t ∧ d.kind = k) ↔
      p.graph.edge? n t = some k := by
  rw [hp.edge?_eq_some]
  unfold dependencyEntry
  constructor
  · rintro ⟨d, hd, rfl, rfl⟩
    obtain ⟨edge, hedge, rfl⟩ := List.mem_map.1 hd
    exact hedge
  · intro hedge
    exact ⟨⟨t, p.label t, k⟩, List.mem_map.2 ⟨(t, k), hedge, rfl⟩, rfl, rfl⟩

/-- A dump has every live node behind what it depends on, if the graph has no cycle. -/
theorem dumps_in_execution_order (h : p.Made) : p.Dumps p.dependencies := by
  have hp := h.coherent
  have hperm := Digraph.dependenciesFirst_perm hp
  refine ⟨?_, fun n => ?_, fun e he => ?_, fun e he t k => ?_,
    fun hacyclic front e back heq d hd => ?_, fun hacyclic order => ?_, fun hcyclic => ?_⟩
  · rw [ids_dependencies, hperm.nodup_iff]
    exact hp.nodes_nodup
  · rw [ids_dependencies, hperm.mem_iff]
    exact (p.graph.contains_iff n).symm
  · rw [eq_dependencyEntry he, targets_dependencyEntry]
    exact hp.successors_nodup e.id
  · rw [eq_dependencyEntry he]
    exact exists_dependency_iff hp.toTidy
  · -- without a cycle the nodes stand in the order in which the search has finished with them
    have hids : p.graph.finishOrder = front.map (·.id) ++ e.id :: back.map (·.id) := by
      rw [← Digraph.dependenciesFirst_of_not_cyclic hp hacyclic, ← ids_dependencies, heq,
        List.map_append, List.map_cons]
    have hedge : p.graph.Edge e.id d.id := by
      have he : e ∈ p.dependencies := heq ▸ List.mem_append_right _ List.mem_cons_self
      unfold Digraph.Edge
      rw [← targets_dependencyEntry, ← eq_dependencyEntry he]
      exact List.mem_map_of_mem hd
    exact Digraph.inOrder_finishOrder hp hacyclic _ _ _ hids _ hedge
  · rw [ids_dependencies, Digraph.dependenciesFirst_of_not_cyclic hp hacyclic]
    exact Digraph.stackOrder_iff hp
  · rw [ids_dependencies]
    exact Digraph.dependenciesFirst_of_cyclic hp hcyclic

/-- An element that depends on two others, one of which depends on the other.  The search puts the
last one on its stack twice. -/
def layered : Plan := after (.empty .deployed {}) <|
  (["a", "b", "c"].map fun e =>
    .call (.element ⟨e, "test", true, fun _ => none, none⟩ .deployed)) ++
    [.call (.depend 0 2 .soft), .call (.depend 0 1 .hard), .call (.depend 1 2 .hard)]

theorem layered_is_dumped : layered.Made ∧ layered.Dumps layered.dependencies ∧
    layered.dependencies =
      [⟨2, "E:c", "c", []⟩, ⟨1, "E:b", "b", [⟨2, "E:c", .hard⟩]⟩,
        ⟨0, "E:a", "a", [⟨2, "E:c", .soft⟩, ⟨1, "E:b", .hard⟩]⟩] := by
  have hmade : layered.Made := made_iff_after.2 ⟨_, _, _, rfl⟩
  exact ⟨hmade, dumps_in_execution_order hmade, by rfl⟩

end Rollout.Plan
