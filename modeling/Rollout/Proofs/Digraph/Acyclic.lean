import Mathlib.Data.Finset.Card
import Rollout.Plan.Basic
import Rollout.Proofs.Digraph.Components

/-!
# Graphs without cycles

The search for components finds a cycle if and only if there is one (`cycleGroups_eq_nil_iff`).
Where there is none the nodes can be ranked so that every edge leads to a node of lower rank
(`exists_rank`).
-/

namespace Rollout.Digraph

variable {g : Digraph}

/-- Some node leads back to itself. -/
def Cyclic (g : Digraph) : Prop := ∃ n, Relation.TransGen g.Edge n n

/-- The search finds a cycle if and only if there is one. -/
theorem cycleGroups_eq_nil_iff (hg : g.Coherent) : g.cycleGroups = [] ↔ ¬g.Cyclic := by
  obtain ⟨hgroup, -, hall⟩ := cycleGroups_spec hg
  constructor
  · rintro hnil ⟨n, hn⟩
    have hmem := (hall n).2 hn
    rw [hnil] at hmem
    cases hmem
  · intro hcyclic
    refine List.eq_nil_iff_forall_not_mem.2 fun c hc => hcyclic ?_
    obtain ⟨n, hn⟩ := List.exists_mem_of_ne_nil c (hgroup c hc).1.ne_nil
    exact ⟨n, (hall n).1 (List.mem_flatten.2 ⟨c, hc, hn⟩)⟩

open Classical in
/-- If no component holds a cycle then every edge leads to a node of lower rank.  The rank of a node
is the number of nodes that it leads to. -/
theorem exists_rank (hg : g.Coherent) (h : g.cycleGroups = []) :
    ∃ rank : NodeId → ℕ, ∀ {a b k}, g.edge? a b = some k → rank b < rank a := by
  have hcyclic := (cycleGroups_eq_nil_iff hg).1 h
  refine ⟨fun a => (g.nodes.toFinset.filter (Relation.TransGen g.Edge a)).card,
    fun {a b k} hk => Finset.card_lt_card (Finset.ssubset_iff_of_subset ?_ |>.2 ⟨b, ?_, ?_⟩)⟩
  · intro x hx
    rw [Finset.mem_filter] at hx ⊢
    exact ⟨hx.1, .head (mem_successors_of_edge hk) hx.2⟩
  · have hb : b ∈ g.nodes :=
      (contains_iff g b).1 (hg.contains_target (mem_successors_of_edge hk))
    exact Finset.mem_filter.2 ⟨List.mem_toFinset.2 hb, .single (mem_successors_of_edge hk)⟩
  · intro hb
    exact hcyclic ⟨b, (Finset.mem_filter.1 hb).2⟩

end Rollout.Digraph

namespace Rollout.Plan

theorem check_eq_ok {p : Plan} : p.check = .ok () ↔ p.graph.cycleGroups = [] := by
  unfold Plan.check
  split
  next hnone => simp [hnone]
  next hsome => exact iff_of_false nofun hsome

/-- A plan that is accepted has no cycle. -/
theorem exists_rank_of_check {p : Plan} (hp : p.graph.Coherent) (h : p.check = .ok ()) :
    ∃ rank : NodeId → ℕ, ∀ {a b k}, p.graph.edge? a b = some k → rank b < rank a :=
  Digraph.exists_rank hp (check_eq_ok.1 h)

/-- A plan is accepted if and only if it has no cycle. -/
theorem check_eq_ok_iff {p : Plan} (hp : p.graph.Coherent) :
    p.check = .ok () ↔ ¬p.graph.Cyclic :=
  check_eq_ok.trans (Digraph.cycleGroups_eq_nil_iff hp)

end Rollout.Plan
