import Mathlib.Data.List.Nodup
import Mathlib.Data.List.Perm.Subperm
import Rollout.Proofs.Digraph.Edges

/-!
# The edges of a graph, one by one

The list of all edges lets them be counted, by where they start and by where they end.
-/

namespace Rollout.Digraph

variable {g : Digraph} {a b n : NodeId}

/-- The edges, by the nodes that they leave. -/
def edges (g : Digraph) : List (NodeId × NodeId) :=
  g.nodes.flatMap fun a => (g.successors a).map (a, ·)

theorem mem_edges : (a, b) ∈ g.edges ↔ b ∈ g.successors a := by
  unfold edges
  simp only [List.mem_flatMap, List.mem_map, Prod.mk.injEq]
  constructor
  · rintro ⟨a', -, b', hb, rfl, rfl⟩
    exact hb
  · intro hb
    exact ⟨a, (contains_iff g a).1 (contains_of_mem_successors hb), b, hb, rfl, rfl⟩

theorem length_edges (g : Digraph) : g.edges.length = g.edgeCount := by
  unfold edges edgeCount
  rw [List.length_flatMap]
  simp only [List.length_map, successors]
  rfl

theorem Tidy.nodup_edges (hg : g.Tidy) : g.edges.Nodup := by
  refine List.nodup_flatMap.2 ⟨fun a _ => ?_, ?_⟩
  · exact (hg.successors_nodup a).map fun _ _ h => (Prod.mk.inj h).2
  · refine hg.nodes_nodup.imp fun {a a'} hne => ?_
    -- Edges that leave different nodes are different.
    intro e he he'
    obtain ⟨_, -, rfl⟩ := List.mem_map.1 he
    obtain ⟨_, -, heq⟩ := List.mem_map.1 he'
    exact hne (Prod.mk.inj heq).1.symm

/-- The edges that leave a node. -/
theorem Tidy.countP_edges_from (hg : g.Tidy) (n : NodeId) (f : NodeId → Bool) :
    (g.edges.countP fun e => e.1 == n && f e.2) = (g.successors n).countP f := by
  have hperm : (g.edges.filter (·.1 == n)).Perm ((g.successors n).map (n, ·)) := by
    refine (List.perm_ext_iff_of_nodup (hg.nodup_edges.filter _)
      ((hg.successors_nodup n).map fun _ _ h => (Prod.mk.inj h).2)).2 ?_
    rintro ⟨a, b⟩
    simp only [List.mem_filter, mem_edges, beq_iff_eq, List.mem_map, Prod.mk.injEq]
    constructor
    · rintro ⟨hb, rfl⟩
      exact ⟨b, hb, rfl, rfl⟩
    · rintro ⟨b', hb, rfl, rfl⟩
      exact ⟨hb, rfl⟩
  have hcount := hperm.countP_eq fun e : NodeId × NodeId => f e.2
  rw [List.countP_filter, List.countP_map] at hcount
  simp only [Bool.and_comm (f _)] at hcount
  exact hcount

theorem Coherent.nodup_predecessors (hg : g.Coherent) (b : NodeId) : (g.predecessors b).Nodup := by
  have htargets := hg.successors_nodup b
  have hsources := hg.sources_nodup b
  have hself : b ∉ g.sources b := fun hb => ((hg.mem_sources b b).1 hb).1 rfl
  unfold successors at htargets
  rw [outgoing_eq] at htargets
  unfold sources at hsources hself
  unfold predecessors
  generalize g.links b = ls at htargets hsources hself ⊢
  induction ls with
  | nil => exact List.nodup_nil
  | cons l ls ih =>
    cases l with
    | out t k =>
      simp only [List.filterMap_cons, Link.target?, Link.source?, List.map_cons,
        List.nodup_cons] at htargets hsources hself
      have hrest := ih htargets.2 hsources hself
      by_cases ht : t = b
      · subst ht
        -- The edge from the node to itself has no second end.
        simp only [List.filterMap_cons, beq_self_eq_true, if_true, List.nodup_cons]
        refine ⟨fun hmem => ?_, hrest⟩
        obtain ⟨l, hl, hlt⟩ := List.mem_filterMap.1 hmem
        cases l with
        | out t' k' =>
          obtain rfl : t' = t := by
            by_contra hne
            simp [hne] at hlt
          exact htargets.1 (List.mem_map.2 ⟨(t', k'), List.mem_filterMap.2 ⟨_, hl, rfl⟩, rfl⟩)
        | into s =>
          obtain rfl : s = t := Option.some.inj hlt
          exact hself (List.mem_filterMap.2 ⟨_, hl, rfl⟩)
      · simpa [ht] using hrest
    | into s =>
      simp only [List.filterMap_cons, Link.target?, Link.source?, List.mem_cons, not_or,
        List.nodup_cons] at htargets hsources hself
      simp only [List.filterMap_cons, List.nodup_cons]
      refine ⟨fun hmem => ?_, ih htargets hsources.2 hself.2⟩
      obtain ⟨l, hl, hls⟩ := List.mem_filterMap.1 hmem
      cases l with
      | out t k =>
        by_cases ht : t = b
        · subst ht
          simp only [beq_self_eq_true, if_true, Option.some.injEq] at hls
          exact hself.1 hls
        · simp [ht] at hls
      | into s' =>
        obtain rfl : s' = s := Option.some.inj hls
        exact hsources.1 (List.mem_filterMap.2 ⟨_, hl, rfl⟩)

/-- The edges that reach a node. -/
theorem Coherent.countP_edges_to (hg : g.Coherent) (b : NodeId) (f : NodeId → Bool) :
    (g.edges.countP fun e => f e.1 && e.2 == b) = (g.predecessors b).countP f := by
  have hperm : (g.edges.filter (·.2 == b)).Perm ((g.predecessors b).map (·, b)) := by
    refine (List.perm_ext_iff_of_nodup (hg.nodup_edges.filter _)
      ((hg.nodup_predecessors b).map fun _ _ h => (Prod.mk.inj h).1)).2 ?_
    rintro ⟨a, c⟩
    simp only [List.mem_filter, mem_edges, beq_iff_eq, List.mem_map, Prod.mk.injEq,
      hg.mem_predecessors]
    constructor
    · rintro ⟨hc, rfl⟩
      exact ⟨a, hc, rfl, rfl⟩
    · rintro ⟨a', hc, rfl, rfl⟩
      exact ⟨hc, rfl⟩
  have hcount := hperm.countP_eq fun e : NodeId × NodeId => f e.1
  rw [List.countP_filter, List.countP_map] at hcount
  exact hcount

end Rollout.Digraph
