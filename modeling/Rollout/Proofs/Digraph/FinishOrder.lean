import Mathlib.Data.Finset.Card
import Rollout.Digraph.Topological
import Rollout.Proofs.Digraph.Acyclic

/-!
# The order in which a search finishes

The search lists every node of the graph once (`finishOrder_perm`).  If the graph has no cycle, the
list has everything that a node leads to in front of the node (`inOrder_finishOrder`), and if it has
one, no list of the nodes does (`pointsBack_finishOrder_iff`).

`Finishes` is the search without a bound on its depth: what it says of the nodes of a list it says,
by induction, of everything that the search comes to from there.
-/

namespace Rollout.Digraph

/-! ## The search -/

/-- A search that takes the nodes of a list one by one gets from the first state to the second.  A
node that has been seen already is passed over. -/
inductive Finishes (g : Digraph) : List NodeId → Finishing → Finishing → Prop where
  | nil {s : Finishing} : Finishes g [] s s
  | skip {n : NodeId} {ns : List NodeId} {s t : Finishing} : n ∈ s.seen →
      Finishes g ns s t → Finishes g (n :: ns) s t
  | visit {n : NodeId} {ns : List NodeId} {s t u : Finishing} : n ∉ s.seen →
      Finishes g (g.successors n).reverse { s with seen := n :: s.seen } t →
      Finishes g ns { t with finished := t.finished ++ [n] } u →
      Finishes g (n :: ns) s u

variable {g : Digraph} {n : NodeId} {ns order : List NodeId} {s t u : Finishing}

/-- The second state is what comes of the first when the nodes of the list, none of which has been
seen, are finished one by one. -/
structure Finishing.Grows (s t : Finishing) (new : List NodeId) : Prop where
  finished_eq : t.finished = s.finished ++ new
  mem_seen : ∀ {x}, x ∈ t.seen ↔ x ∈ s.seen ∨ x ∈ new
  nodup : new.Nodup
  fresh : ∀ x ∈ new, x ∉ s.seen

theorem Finishing.Grows.mem_finished {new : List NodeId} {x : NodeId} (h : s.Grows t new) :
    x ∈ t.finished ↔ x ∈ s.finished ∨ x ∈ new := by
  rw [h.finished_eq, List.mem_append]

theorem Finishing.Grows.visit {below rest : List NodeId} (hn : n ∉ s.seen)
    (hbelow : Grows { s with seen := n :: s.seen } t below)
    (hrest : Grows { t with finished := t.finished ++ [n] } u rest) :
    s.Grows u (below ++ n :: rest) where
  finished_eq := by
    rw [hrest.finished_eq, hbelow.finished_eq]
    simp
  mem_seen := by
    intro x
    rw [hrest.mem_seen, hbelow.mem_seen]
    simp only [List.mem_append, List.mem_cons]
    tauto
  nodup := by
    have hout : ∀ x ∈ rest, x ∉ n :: s.seen ∧ x ∉ below := by
      intro x hx
      rw [← not_or, ← hbelow.mem_seen]
      exact hrest.fresh x hx
    refine List.Nodup.append hbelow.nodup (List.nodup_cons.2 ⟨?_, hrest.nodup⟩) ?_
    · intro hx
      exact (hout n hx).1 List.mem_cons_self
    · intro x hx hx'
      rcases List.mem_cons.1 hx' with rfl | hx'
      · exact hbelow.fresh x hx List.mem_cons_self
      · exact (hout x hx').2 hx
  fresh := by
    intro x hx hs
    rcases List.mem_append.1 hx with hx | hx
    · exact hbelow.fresh x hx (List.mem_cons_of_mem n hs)
    · rcases List.mem_cons.1 hx with rfl | hx
      · exact hn hs
      · exact hrest.fresh x hx (hbelow.mem_seen.2 (.inl (List.mem_cons_of_mem n hs)))

theorem Finishes.exists_grows (h : g.Finishes ns s t) : ∃ new, s.Grows t new := by
  induction h with
  | nil => exact ⟨[], by simp, by simp, List.nodup_nil, nofun⟩
  | skip _ _ ih => exact ih
  | visit hn _ _ ihbelow ihrest =>
    obtain ⟨below, hbelow⟩ := ihbelow
    obtain ⟨rest, hrest⟩ := ihrest
    exact ⟨below ++ _ :: rest, hbelow.visit hn hrest⟩

theorem Finishes.seen_subset (h : g.Finishes ns s t) : s.seen ⊆ t.seen := by
  obtain ⟨new, hnew⟩ := h.exists_grows
  exact fun x hx => hnew.mem_seen.2 (.inl hx)

/-- The nodes that a search takes are seen. -/
theorem Finishes.mem_seen (h : g.Finishes ns s t) : ∀ m ∈ ns, m ∈ t.seen := by
  induction h with
  | nil => exact nofun
  | skip hn hrest ih =>
    intro m hm
    rcases List.mem_cons.1 hm with rfl | hm
    · exact hrest.seen_subset hn
    · exact ih m hm
  | visit _ hbelow hrest _ ih =>
    intro m hm
    rcases List.mem_cons.1 hm with rfl | hm
    · exact hrest.seen_subset (hbelow.seen_subset List.mem_cons_self)
    · exact ih m hm

theorem Coherent.successors_subset (hg : g.Coherent) (n : NodeId) :
    g.successors n ⊆ g.nodes :=
  fun _ hm => (contains_iff g _).1 (hg.contains_target hm)

/-- Nothing but nodes of the graph is seen. -/
theorem Finishes.subset_nodes (hg : g.Coherent) (h : g.Finishes ns s t) (hns : ns ⊆ g.nodes)
    (hs : s.seen ⊆ g.nodes) : t.seen ⊆ g.nodes := by
  induction h with
  | nil => exact hs
  | skip _ _ ih => exact ih (List.subset_of_cons_subset hns) hs
  | @visit n _ _ _ _ _ _ _ ihbelow ihrest =>
    have hn : n ∈ g.nodes := hns List.mem_cons_self
    refine ihrest (List.subset_of_cons_subset hns) (ihbelow ?_ (List.cons_subset.2 ⟨hn, hs⟩))
    intro m hm
    exact hg.successors_subset n (List.mem_reverse.1 hm)

/-! ## The bound on the depth -/

/-- The nodes that have not been seen. -/
def unseen (g : Digraph) (s : Finishing) : Finset NodeId := g.nodes.toFinset \ s.seen.toFinset

theorem mem_unseen : n ∈ g.unseen s ↔ n ∈ g.nodes ∧ n ∉ s.seen := by
  unfold unseen
  rw [Finset.mem_sdiff, List.mem_toFinset, List.mem_toFinset]

theorem card_unseen_le (h : s.seen ⊆ t.seen) : (g.unseen t).card ≤ (g.unseen s).card := by
  refine Finset.card_le_card fun x hx => ?_
  rw [mem_unseen] at hx ⊢
  exact ⟨hx.1, fun hs => hx.2 (h hs)⟩

theorem card_unseen_lt (hn : n ∈ g.nodes) (hs : n ∉ s.seen) :
    (g.unseen { s with seen := n :: s.seen }).card < (g.unseen s).card := by
  refine Finset.card_lt_card (Finset.ssubset_iff_of_subset ?_ |>.2 ⟨n, mem_unseen.2 ⟨hn, hs⟩, ?_⟩)
  · intro x hx
    rw [mem_unseen] at hx ⊢
    exact ⟨hx.1, fun hx' => hx.2 (List.mem_cons_of_mem n hx')⟩
  · rw [mem_unseen]
    exact fun h => h.2 List.mem_cons_self

/-- The bound is not reached while it exceeds the number of nodes that have not been seen. -/
theorem finishes_foldl (hg : g.Coherent) {depth : ℕ} (hns : ns ⊆ g.nodes)
    (hdepth : (g.unseen s).card < depth) :
    g.Finishes ns s (ns.foldl (fun s n => g.finishFrom depth n s) s) := by
  induction depth generalizing ns s with
  | zero => exact absurd hdepth (Nat.not_lt_zero _)
  | succ depth ihdepth =>
    induction ns generalizing s with
    | nil => exact .nil
    | cons n ns ih =>
      have hrest : ns ⊆ g.nodes := List.subset_of_cons_subset hns
      rw [List.foldl_cons, finishFrom]
      by_cases hn : n ∈ s.seen
      · rw [if_pos (List.contains_iff_mem.2 hn)]
        exact .skip hn (ih hrest hdepth)
      · rw [if_neg (mt List.contains_iff_mem.1 hn), List.foldr_eq_foldl_reverse]
        -- The visit is one level deeper, with one node less that has not been seen.
        have hlt := card_unseen_lt (hns List.mem_cons_self) hn
        have hbelow : g.Finishes (g.successors n).reverse { s with seen := n :: s.seen } _ :=
          ihdepth (fun m hm => hg.successors_subset n (List.mem_reverse.1 hm)) (by omega)
        have hseen : s.seen ⊆ _ := fun x hx => hbelow.seen_subset (List.mem_cons_of_mem n hx)
        have hle := card_unseen_le (g := g) hseen
        exact .visit hn hbelow (ih hrest (lt_of_le_of_lt hle hdepth))

/-- A search from all nodes in turn finishes them in the order of the list. -/
theorem finishes_finishOrder (hg : g.Coherent) :
    ∃ seen, g.Finishes g.nodes ⟨[], []⟩ ⟨seen, g.finishOrder⟩ := by
  refine ⟨_, finishes_foldl hg (List.Subset.refl _) (Nat.lt_succ_of_le ?_)⟩
  calc (g.unseen ⟨[], []⟩).card ≤ g.nodes.toFinset.card :=
        Finset.card_le_card fun x hx => List.mem_toFinset.2 (mem_unseen.1 hx).1
    _ ≤ g.nodes.length := g.nodes.toFinset_card_le

/-- The search lists every node, and nothing twice. -/
theorem finishOrder_perm (hg : g.Coherent) : g.finishOrder.Perm g.nodes := by
  obtain ⟨seen, h⟩ := finishes_finishOrder hg
  obtain ⟨new, hnew⟩ := h.exists_grows
  have hnodes := h.subset_nodes hg (List.Subset.refl _) (List.nil_subset _)
  obtain rfl : g.finishOrder = new := hnew.finished_eq
  refine (List.perm_ext_iff_of_nodup hnew.nodup hg.nodes_nodup).2 fun n => ?_
  constructor
  · intro hn
    exact hnodes (hnew.mem_seen.2 (.inr hn))
  · intro hn
    simpa using hnew.mem_seen.1 (h.mem_seen n hn)

/-! ## Graphs without cycles -/

/-- Every node of the list has what it has edges to in front of it. -/
def InOrder (g : Digraph) (order : List NodeId) : Prop :=
  ∀ front n back, order = front ++ n :: back → ∀ m, g.Edge n m → m ∈ front

theorem InOrder.nil : g.InOrder [] := by
  intro front n back heq
  simp at heq

theorem InOrder.concat (h : g.InOrder order) (hn : ∀ m, g.Edge n m → m ∈ order) :
    g.InOrder (order ++ [n]) := by
  intro front m back heq
  rcases List.eq_nil_or_concat back with rfl | ⟨back, last, rfl⟩
  · obtain ⟨rfl, hlast⟩ := List.append_inj' heq rfl
    obtain rfl : n = m := by simpa using hlast
    exact hn
  · rw [List.concat_eq_append, ← List.cons_append, ← List.append_assoc] at heq
    exact h front m back (List.append_inj' heq rfl).1

/-- On a graph without cycles, a node is finished after everything that it has edges to.  A node
that has been seen and not finished leads to what the search takes, which therefore has no edge back
to it. -/
theorem Finishes.inOrder (hacyclic : ¬g.Cyclic) (h : g.Finishes ns s t)
    (hs : g.InOrder s.finished)
    (hopen : ∀ p ∈ s.seen, p ∈ s.finished ∨ ∀ n ∈ ns, Relation.TransGen g.Edge p n) :
    g.InOrder t.finished := by
  induction h with
  | nil => exact hs
  | skip _ _ ih =>
    refine ih hs fun p hp => (hopen p hp).imp_right fun hleads n hn => ?_
    exact hleads n (List.mem_cons_of_mem _ hn)
  | @visit n ns s t u hn hbelow hrest ihbelow ihrest =>
    obtain ⟨new, hnew⟩ := hbelow.exists_grows
    have ht : g.InOrder t.finished := by
      refine ihbelow hs fun p hp => ?_
      rcases List.mem_cons.1 hp with rfl | hp
      · exact .inr fun m hm => .single (List.mem_reverse.1 hm)
      · refine (hopen p hp).imp_right fun hleads m hm => ?_
        exact (hleads n List.mem_cons_self).tail (List.mem_reverse.1 hm)
    have hedges : ∀ m, g.Edge n m → m ∈ t.finished := by
      intro m hedge
      have hm := hbelow.mem_seen m (List.mem_reverse.2 hedge)
      rcases hnew.mem_seen.1 hm with hm | hm
      · -- An edge back to a node that is still open would close a cycle.
        rcases List.mem_cons.1 hm with rfl | hm
        · exact absurd ⟨m, .single hedge⟩ hacyclic
        · rcases hopen m hm with hm | hleads
          · exact hnew.mem_finished.2 (.inl hm)
          · exact absurd ⟨n, .head hedge (hleads n List.mem_cons_self)⟩ hacyclic
      · exact hnew.mem_finished.2 (.inr hm)
    refine ihrest (ht.concat hedges) fun p hp => ?_
    rcases hnew.mem_seen.1 hp with hp | hp
    · rcases List.mem_cons.1 hp with rfl | hp
      · exact .inl (List.mem_append_right _ List.mem_cons_self)
      · refine (hopen p hp).imp (fun hp => ?_) fun hleads m hm => ?_
        · exact List.mem_append_left _ (hnew.mem_finished.2 (.inl hp))
        · exact hleads m (List.mem_cons_of_mem _ hm)
    · exact .inl (List.mem_append_left _ (hnew.mem_finished.2 (.inr hp)))

theorem inOrder_finishOrder (hg : g.Coherent) (hacyclic : ¬g.Cyclic) :
    g.InOrder g.finishOrder := by
  obtain ⟨seen, h⟩ := finishes_finishOrder hg
  have horder := h.inOrder hacyclic .nil nofun
  exact horder

theorem InOrder.pointsBack (h : g.InOrder order) : g.pointsBack order = true := by
  unfold Digraph.pointsBack
  simp only [List.all_eq_true, decide_eq_true_eq]
  intro n hn m hm
  obtain ⟨front, back, rfl, hfront⟩ := List.eq_append_cons_of_mem hn
  have hmem : m ∈ front := h front n back rfl m hm
  calc (front ++ n :: back).idxOf m = front.idxOf m := List.idxOf_append_of_mem hmem
    _ < front.length := List.idxOf_lt_length_iff.2 hmem
    _ = (front ++ n :: back).idxOf n := by simp [List.idxOf_append_of_notMem hfront]

/-- Along the edges the places in such a list fall, so no path leads back to where it starts. -/
theorem not_cyclic_of_pointsBack (h : g.pointsBack order = true)
    (horder : ∀ n ∈ g.nodes, n ∈ order) : ¬g.Cyclic := by
  unfold Digraph.pointsBack at h
  simp only [List.all_eq_true, decide_eq_true_eq] at h
  have hedge : ∀ a b, g.Edge a b → order.idxOf b < order.idxOf a := fun a b hab =>
    h a (horder a ((contains_iff g a).1 (contains_of_mem_successors hab))) b hab
  have hpath : ∀ a b, Relation.TransGen g.Edge a b → order.idxOf b < order.idxOf a := by
    intro a b hab
    induction hab with
    | single hab => exact hedge a _ hab
    | tail _ hbc ih => exact (hedge _ _ hbc).trans ih
  rintro ⟨n, hn⟩
  exact lt_irrefl _ (hpath n n hn)

theorem pointsBack_finishOrder_iff (hg : g.Coherent) :
    g.pointsBack g.finishOrder = true ↔ ¬g.Cyclic :=
  ⟨fun h => not_cyclic_of_pointsBack h fun _ hn => (finishOrder_perm hg).mem_iff.2 hn,
    fun h => (inOrder_finishOrder hg h).pointsBack⟩

theorem dependenciesFirst_of_not_cyclic (hg : g.Coherent) (h : ¬g.Cyclic) :
    g.dependenciesFirst = g.finishOrder :=
  if_pos ((pointsBack_finishOrder_iff hg).2 h)

theorem dependenciesFirst_of_cyclic (hg : g.Coherent) (h : g.Cyclic) :
    g.dependenciesFirst = g.nodes.reverse :=
  if_neg fun hback => (pointsBack_finishOrder_iff hg).1 hback h

/-- With cycles or without, every node is listed once. -/
theorem dependenciesFirst_perm (hg : g.Coherent) : g.dependenciesFirst.Perm g.nodes := by
  by_cases h : g.Cyclic
  · rw [dependenciesFirst_of_cyclic hg h]
    exact g.nodes.reverse_perm
  · rw [dependenciesFirst_of_not_cyclic hg h]
    exact finishOrder_perm hg

end Rollout.Digraph
