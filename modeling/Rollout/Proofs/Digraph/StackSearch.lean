import Rollout.Proofs.Digraph.FinishOrder

/-!
# The search with a stack

A search that calls nothing keeps the nodes it has still to look at on a stack.  A node is put there
once for every edge to it that is met before it is discovered, and taken away by steps of its own,
of which only one finishes it.  The order in which nodes are finished is that of the recursive
search all the same (`stackOrder_iff`).
-/

namespace Rollout.Digraph

/-- A search with a stack: the nodes that it has still to start from, the stack, whose top comes
first, the nodes that it has discovered, and those that it has finished, in order. -/
structure StackSearch where
  roots : List NodeId
  stack : List NodeId
  discovered : List NodeId
  finished : List NodeId

namespace StackSearch

/-- Put a node on the stack, unless it has been discovered. -/
def push (discovered stack : List NodeId) (n : NodeId) : List NodeId :=
  if n ∈ discovered then stack else n :: stack

/-- One step of the search.  A node on top of the stack is discovered, and what it has edges to is
put above it; if it has been discovered before, it is taken away, and finished if it is not.  An
empty stack gets the next node to start from, unless that has been discovered. -/
def step (g : Digraph) : StackSearch → Option StackSearch
  | ⟨roots, n :: stack, discovered, finished⟩ =>
    if n ∈ discovered then
      some ⟨roots, stack, discovered, if n ∈ finished then finished else finished ++ [n]⟩
    else
      some ⟨roots, (g.successors n).foldl (push (n :: discovered)) (n :: stack), n :: discovered,
        finished⟩
  | ⟨n :: roots, [], discovered, finished⟩ =>
    some ⟨roots, push discovered [] n, discovered, finished⟩
  | ⟨[], [], _, _⟩ => none

/-- Steps of the search lead from the first state to the second. -/
abbrev Runs (g : Digraph) : StackSearch → StackSearch → Prop :=
  Relation.ReflTransGen fun s t => s.step g = some t

end StackSearch

/-- The search with a stack, from all nodes in turn, comes to an end and has finished the nodes in
the order of the list. -/
def StackOrder (g : Digraph) (order : List NodeId) : Prop :=
  ∃ discovered, StackSearch.Runs g ⟨g.nodes, [], [], []⟩ ⟨[], [], discovered, order⟩

variable {g : Digraph} {n : NodeId} {ns roots rest known seen finished order : List NodeId}
  {s t : Finishing}

namespace StackSearch

theorem foldl_push (discovered ns stack : List NodeId) :
    ns.foldl (push discovered) stack = ns.reverse.filter (· ∉ discovered) ++ stack := by
  induction ns generalizing stack with
  | nil => rfl
  | cons n ns ih =>
    rw [List.foldl_cons, ih, push, List.reverse_cons, List.filter_append]
    by_cases hn : n ∈ discovered <;> simp [hn]

theorem runs_discover (hn : n ∉ seen) : Runs g ⟨roots, n :: rest, seen, finished⟩
    ⟨roots, (g.successors n).reverse.filter (· ∉ n :: seen) ++ n :: rest, n :: seen, finished⟩ := by
  refine .single ?_
  rw [step, if_neg hn, foldl_push]

theorem runs_finish (hn : n ∈ seen) (hfresh : n ∉ finished) :
    Runs g ⟨roots, n :: rest, seen, finished⟩ ⟨roots, rest, seen, finished ++ [n]⟩ := by
  refine .single ?_
  rw [step, if_pos hn, if_neg hfresh]

theorem runs_drop (hn : n ∈ seen) (hdone : n ∈ finished) :
    Runs g ⟨roots, n :: rest, seen, finished⟩ ⟨roots, rest, seen, finished⟩ := by
  refine .single ?_
  rw [step, if_pos hn, if_pos hdone]

/-- A node on top of the stack is finished after what it has edges to, and taken away. -/
theorem runs_visit {new : List NodeId} (hn : n ∉ s.seen) (hs : s.finished ⊆ s.seen)
    (hnew : Finishing.Grows { s with seen := n :: s.seen } t new)
    (hbelow : Runs g ⟨roots, (g.successors n).reverse.filter (· ∉ n :: s.seen) ++ n :: rest,
      n :: s.seen, s.finished⟩ ⟨roots, n :: rest, t.seen, t.finished⟩) :
    Runs g ⟨roots, n :: rest, s.seen, s.finished⟩
      ⟨roots, rest, t.seen, t.finished ++ [n]⟩ := by
  have hseen : n ∈ t.seen := hnew.mem_seen.2 (.inl List.mem_cons_self)
  have hfresh : n ∉ t.finished := by
    intro hmem
    rcases hnew.mem_finished.1 hmem with hmem | hmem
    · exact hn (hs hmem)
    · exact hnew.fresh n hmem List.mem_cons_self
  exact ((runs_discover hn).trans hbelow).trans (runs_finish hseen hfresh)

end StackSearch

open StackSearch

/-- Nothing but what has been seen is finished by the visit of a node. -/
theorem Finishing.Grows.finished_subset {new : List NodeId}
    (h : Grows { s with seen := n :: s.seen } t new) (hs : s.finished ⊆ s.seen) :
    t.finished ++ [n] ⊆ t.seen := by
  intro x hx
  rw [List.mem_append, List.mem_singleton, h.mem_finished] at hx
  rcases hx with (hx | hx) | rfl
  · exact h.mem_seen.2 (.inl (List.mem_cons_of_mem n (hs hx)))
  · exact h.mem_seen.2 (.inr hx)
  · exact h.mem_seen.2 (.inl List.mem_cons_self)

/-- What has been put on the stack is taken away again, and finished as the recursive search
finishes it.  The nodes in `known` had been discovered when the others were put there. -/
theorem Finishes.runs (h : g.Finishes ns s t) (hs : s.finished ⊆ s.seen) (hknown : known ⊆ s.seen)
    (hdone : ∀ n ∈ ns, n ∈ s.seen → n ∉ known → n ∈ s.finished) :
    Runs g ⟨roots, ns.filter (· ∉ known) ++ rest, s.seen, s.finished⟩
      ⟨roots, rest, t.seen, t.finished⟩ := by
  induction h generalizing known rest with
  | nil => exact .refl
  | @skip n ns s t hn _ ih =>
    have hrest : ∀ m ∈ ns, m ∈ s.seen → m ∉ known → m ∈ s.finished :=
      fun m hm => hdone m (List.mem_cons_of_mem n hm)
    by_cases hmem : n ∈ known
    · rw [List.filter_cons_of_neg (by simpa using hmem)]
      exact ih hs hknown hrest
    · -- Something above it on the stack led to it first.
      rw [List.filter_cons_of_pos (by simpa using hmem)]
      exact (runs_drop hn (hdone n List.mem_cons_self hn hmem)).trans (ih hs hknown hrest)
  | @visit n ns s t u hn hbelow _ ihbelow ihrest =>
    obtain ⟨new, hnew⟩ := hbelow.exists_grows
    have hs' : s.finished ⊆ n :: s.seen := fun x hx => List.mem_cons_of_mem n (hs hx)
    rw [List.filter_cons_of_pos (by simpa using fun hmem => hn (hknown hmem)), List.cons_append]
    refine (runs_visit hn hs hnew (ihbelow hs' (List.Subset.refl _) ?_)).trans
      (ihrest (hnew.finished_subset hs) ?_ ?_)
    · exact fun m _ hm hm' => absurd hm hm'
    · exact fun x hx => hnew.mem_seen.2 (.inl (List.mem_cons_of_mem n (hknown hx)))
    · -- Whatever has been discovered since `n` was is finished by now.
      intro m hm hseen hout
      simp only [List.mem_append, List.mem_singleton, hnew.mem_finished]
      rcases hnew.mem_seen.1 hseen with hseen | hseen
      · rcases List.mem_cons.1 hseen with rfl | hseen
        · exact .inr rfl
        · exact .inl (.inl (hdone m (List.mem_cons_of_mem n hm) hseen hout))
      · exact .inl (.inr hseen)

theorem Finishes.runs_roots (h : g.Finishes ns s t) (hs : s.finished ⊆ s.seen) :
    Runs g ⟨ns, [], s.seen, s.finished⟩ ⟨[], [], t.seen, t.finished⟩ := by
  induction h with
  | nil => exact .refl
  | @skip n ns s t hn _ ih =>
    refine .head ?_ (ih hs)
    rw [step, push, if_pos hn]
  | @visit n ns s t u hn hbelow _ _ ih =>
    obtain ⟨new, hnew⟩ := hbelow.exists_grows
    have hs' : s.finished ⊆ n :: s.seen := fun x hx => List.mem_cons_of_mem n (hs hx)
    have hstart : StackSearch.step g ⟨n :: ns, [], s.seen, s.finished⟩ =
        some ⟨ns, [n], s.seen, s.finished⟩ := by
      rw [step, push, if_neg hn]
    refine .head hstart ((runs_visit hn hs hnew (hbelow.runs hs' (List.Subset.refl _) ?_)).trans
      (ih (hnew.finished_subset hs)))
    exact fun m _ hm hm' => absurd hm hm'

/-- The search comes to one end only. -/
theorem StackOrder.unique {order' : List NodeId} (h : g.StackOrder order)
    (h' : g.StackOrder order') : order = order' := by
  have hunique : Relator.RightUnique fun s t : StackSearch => s.step g = some t :=
    fun _ _ _ hb hc => Option.some.inj (hb.symm.trans hc)
  have hend : ∀ {d f s}, Runs g ⟨[], [], d, f⟩ s → s = ⟨[], [], d, f⟩ := by
    intro d f s hruns
    rcases Relation.ReflTransGen.cases_head hruns with heq | ⟨_, hstep, -⟩
    · exact heq.symm
    · exact absurd hstep nofun
  obtain ⟨d, hruns⟩ := h
  obtain ⟨d', hruns'⟩ := h'
  rcases Relation.ReflTransGen.total_of_right_unique hunique hruns hruns' with hon | hon
  · exact (StackSearch.mk.inj (hend hon)).2.2.2.symm
  · exact (StackSearch.mk.inj (hend hon)).2.2.2

/-- The search with a stack finishes the nodes in the same order. -/
theorem stackOrder_iff (hg : g.Coherent) : g.StackOrder order ↔ order = g.finishOrder := by
  have hfinish : g.StackOrder g.finishOrder := by
    obtain ⟨seen, h⟩ := finishes_finishOrder hg
    exact ⟨seen, h.runs_roots (List.Subset.refl _)⟩
  constructor
  · exact fun h => h.unique hfinish
  · rintro rfl
    exact hfinish

end Rollout.Digraph
