import Mathlib.Data.List.Basic
import Mathlib.Data.List.Nodup
import Mathlib.Data.List.Perm.Basic
import Mathlib.Tactic.Common
import Rollout.Digraph.Basic
import Rollout.Proofs.Table

/-!
# The edges of a digraph

A digraph keeps every edge twice: at the node it leaves, with its kind, and at the node it
reaches.  `Digraph.Coherent` says that the two agree.  Every operation keeps a graph coherent, and
on a coherent graph each of them is known by two views:

* `edge?`, the kind of the edge between two nodes, and
* `contains`, the nodes.

The order of nodes and links, which the operations also change, is of no concern here.
-/

namespace Rollout

/-! ## Taking out an entry -/

/-- To remove an entry by a swap with the last one is to erase it, up to the order. -/
theorem swapRemove_perm {α : Type} (l : List α) {i : ℕ} (hi : i < l.length) :
    (swapRemove l i).Perm (l.eraseIdx i) := by
  have hne : l ≠ [] := by
    intro h
    simp [h] at hi
  unfold swapRemove
  rw [List.getLast?_eq_some_getLast hne]
  obtain ⟨init, last, rfl⟩ : ∃ init last, l = init ++ [last] :=
    ⟨l.dropLast, l.getLast hne, (List.dropLast_append_getLast hne).symm⟩
  have hlast : (init ++ [last]).getLast hne = last := by simp
  simp only [hlast]
  rw [List.length_append, List.length_singleton] at hi
  -- the last entry takes the place of the one removed, unless it is the one removed
  by_cases hii : i < init.length
  · rw [List.set_append_left i last hii, List.dropLast_concat,
      List.eraseIdx_append_of_lt_length hii]
    exact (List.set_perm_cons_eraseIdx hii last).trans (List.perm_append_singleton _ _).symm
  · have hi' : i = init.length := by omega
    subst hi'
    rw [List.set_append_right _ _ (Nat.le_refl _),
      List.eraseIdx_append_of_length_le (Nat.le_refl _)]
    simp

/-- The same for the first entry that satisfies a test. -/
theorem swapRemoveFirst_perm {α : Type} (p : α → Bool) (l : List α) :
    (swapRemoveFirst p l).Perm (l.eraseP p) := by
  unfold swapRemoveFirst
  rw [List.eraseP_eq_eraseIdx]
  cases h : l.findIdx? p with
  | none => exact List.Perm.refl l
  | some i =>
    have hi : i < l.length := (List.findIdx?_eq_some_iff_getElem.1 h).1
    exact swapRemove_perm l hi

namespace Digraph

/-- The edge that a link shows to leave its node. -/
def Link.target? : Link → Option (NodeId × EdgeKind)
  | out t k => some (t, k)
  | into _ => none

/-- The node that a link shows to have an edge to its node. -/
def Link.source? : Link → Option NodeId
  | out _ _ => none
  | into s => some s

/-- The outgoing edges of a node are those of its links that leave it. -/
theorem outgoing_eq (g : Digraph) (n : NodeId) :
    g.outgoing n = (g.links n).filterMap Link.target? := by
  unfold outgoing
  congr 1

/-- The nodes with an edge to `b`, `b` itself left out, as the list of `b` shows them. -/
def sources (g : Digraph) (b : NodeId) : List NodeId := (g.links b).filterMap Link.source?

/-- No node and no end of an edge is there twice. -/
structure Tidy (g : Digraph) : Prop where
  nodes_nodup : g.nodes.Nodup
  successors_nodup : ∀ a, (g.successors a).Nodup
  sources_nodup : ∀ b, (g.sources b).Nodup

/-- Both ends of every edge are there, each once. -/
structure Coherent (g : Digraph) : Prop extends Tidy g where
  mem_sources : ∀ a b, a ∈ g.sources b ↔ a ≠ b ∧ b ∈ g.successors a

/-! ## Rows -/

/-- A graph has those nodes that have a row. -/
theorem contains_eq_isSome (g : Digraph) (n : NodeId) :
    g.contains n = (g.rows.lookup n).isSome := by
  unfold contains
  induction g.rows with
  | nil => rfl
  | cons row rows ih =>
    rw [List.any_cons, ih, List.lookup_cons, BEq.comm (a := n)]
    by_cases h : row.1 == n <;> simp [h]

theorem contains_iff (g : Digraph) (n : NodeId) : g.contains n = true ↔ n ∈ g.nodes := by
  simp [contains, nodes]

/-- A node that the graph does not have has no links. -/
theorem links_of_not_contains {g : Digraph} {n : NodeId} (h : g.contains n = false) :
    g.links n = [] := by
  rw [contains_eq_isSome, Option.isSome_eq_false_iff, Option.isNone_iff_eq_none] at h
  simp [links, h]

theorem contains_of_mem_successors {g : Digraph} {a b : NodeId} (h : b ∈ g.successors a) :
    g.contains a = true := by
  by_contra hc
  rw [Bool.not_eq_true] at hc
  simp [successors, outgoing, links_of_not_contains hc] at h

theorem contains_of_mem_sources {g : Digraph} {a b : NodeId} (h : a ∈ g.sources b) :
    g.contains b = true := by
  by_contra hc
  rw [Bool.not_eq_true] at hc
  simp [sources, links_of_not_contains hc] at h

/-- Both ends of an edge are nodes. -/
theorem Coherent.contains_target {g : Digraph} (hg : g.Coherent) {a b : NodeId}
    (h : b ∈ g.successors a) : g.contains b = true := by
  by_cases hab : a = b
  · rw [← hab]
    exact contains_of_mem_successors h
  · exact contains_of_mem_sources ((hg.mem_sources a b).2 ⟨hab, h⟩)

theorem contains_modifyLinks (g : Digraph) (n m : NodeId) (f : List Link → List Link) :
    (g.modifyLinks n f).contains m = g.contains m := by
  rw [contains_eq_isSome, contains_eq_isSome, modifyLinks, lookup_map_row, Option.isSome_map]

theorem nodes_modifyLinks (g : Digraph) (n : NodeId) (f : List Link → List Link) :
    (g.modifyLinks n f).nodes = g.nodes := by
  unfold nodes modifyLinks
  rw [List.map_map]
  apply List.map_congr_left
  intro row _
  by_cases h : row.1 = n <;> simp [h]

/-- The links of one node are changed.  If it has no row, nothing is, so that the change must then
have no effect on no links. -/
theorem links_modifyLinks {g : Digraph} {n : NodeId} {f : List Link → List Link}
    (h : g.contains n = true ∨ f [] = []) (m : NodeId) :
    (g.modifyLinks n f).links m = if m = n then f (g.links n) else g.links m := by
  unfold links modifyLinks
  rw [lookup_map_row]
  by_cases hm : m = n
  · subst hm
    rw [if_pos rfl, if_pos (beq_self_eq_true m)]
    cases hl : g.rows.lookup m with
    | none =>
      have hc : g.contains m = false := by rw [contains_eq_isSome, hl]; rfl
      have hf : f [] = [] := h.resolve_left (by simp [hc])
      simp [hf]
    | some row => rfl
  · rw [if_neg hm, if_neg (by simpa using hm), Option.map_id, id]

theorem contains_addNode (g : Digraph) (n m : NodeId) :
    (g.addNode n).contains m = (g.contains m || m == n) := by
  unfold addNode
  by_cases hn : g.contains n
  · rw [if_pos hn]
    by_cases hm : m = n <;> simp [hm, hn]
  · rw [if_neg hn]
    simp [contains, BEq.comm (a := n)]

/-- A new node comes without links, and an old one keeps them. -/
theorem links_addNode (g : Digraph) (n m : NodeId) : (g.addNode n).links m = g.links m := by
  unfold addNode
  by_cases hn : g.contains n
  · rw [if_pos hn]
  · rw [if_neg hn]
    unfold links
    rw [List.lookup_append]
    by_cases hm : m = n
    · simp [hm]
    · have : (m == n) = false := by simpa using hm
      simp [List.lookup_cons, this]

/-! ## Views of an edge -/

/-- An edge and its kind, as the list of the node that it leaves shows it. -/
theorem Tidy.edge?_eq_some {g : Digraph} (hg : g.Tidy) {a b : NodeId} {k : EdgeKind} :
    g.edge? a b = some k ↔ (b, k) ∈ g.outgoing a :=
  lookup_eq_some_iff_mem (hg.successors_nodup a)

/-- The successors of a node are the targets of its outgoing links. -/
theorem mem_successors_iff {g : Digraph} {a b : NodeId} :
    b ∈ g.successors a ↔ ∃ k, .out b k ∈ g.links a := by
  unfold successors
  rw [outgoing_eq, List.mem_map]
  constructor
  · rintro ⟨⟨t, k⟩, he, rfl⟩
    obtain ⟨l, hl, hlk⟩ := List.mem_filterMap.1 he
    cases l with
    | out t' k' =>
      simp only [Link.target?, Option.some.injEq, Prod.mk.injEq] at hlk
      exact ⟨k, hlk.1 ▸ hlk.2 ▸ hl⟩
    | into s => simp [Link.target?] at hlk
  · rintro ⟨k, hl⟩
    exact ⟨(b, k), List.mem_filterMap.2 ⟨_, hl, rfl⟩, rfl⟩

/-- The sources of a node are the origins of its incoming links. -/
theorem mem_sources_iff {g : Digraph} {a b : NodeId} : a ∈ g.sources b ↔ .into a ∈ g.links b := by
  unfold sources
  rw [List.mem_filterMap]
  constructor
  · rintro ⟨l, hl, hla⟩
    cases l with
    | out t k => simp [Link.source?] at hla
    | into s =>
      simp only [Link.source?, Option.some.injEq] at hla
      exact hla ▸ hl
  · intro hl
    exact ⟨_, hl, rfl⟩

theorem mem_successors {g : Digraph} {a b : NodeId} :
    b ∈ g.successors a ↔ (g.edge? a b).isSome = true :=
  isSome_lookup_iff_mem_keys.symm

theorem mem_successors_of_edge {g : Digraph} {a b : NodeId} {k : EdgeKind}
    (h : g.edge? a b = some k) : b ∈ g.successors a :=
  mem_successors.2 (by rw [h]; rfl)

/-- The predecessors of a node are those that have it as a successor. -/
theorem Coherent.mem_predecessors {g : Digraph} (hg : g.Coherent) {a b : NodeId} :
    a ∈ g.predecessors b ↔ b ∈ g.successors a := by
  -- An edge from a node to itself has one end only, among the outgoing ones.
  have hiff : a ∈ g.predecessors b ↔ (a = b ∧ b ∈ g.successors b) ∨ a ∈ g.sources b := by
    rw [mem_successors_iff, mem_sources_iff]
    unfold predecessors
    rw [List.mem_filterMap]
    constructor
    · rintro ⟨l, hl, hla⟩
      cases l with
      | out t k =>
        by_cases ht : t = b
        · subst ht
          simp only [beq_self_eq_true, if_true, Option.some.injEq] at hla
          exact .inl ⟨hla.symm, k, hl⟩
        · simp [ht] at hla
      | into s =>
        simp only [Option.some.injEq] at hla
        exact .inr (hla ▸ hl)
    · rintro (⟨rfl, k, hl⟩ | hl)
      · exact ⟨_, hl, by simp⟩
      · exact ⟨_, hl, rfl⟩
  rw [hiff, hg.mem_sources]
  by_cases hab : a = b
  · subst hab
    simp
  · simp [hab]

/-! ## Taking one end of an edge away -/

/-- To erase the link to a target is to erase its outgoing edge. -/
private theorem filterMap_target_eraseP (b : NodeId) (ls : List Link) :
    (ls.eraseP (Link.leavesFor b)).filterMap Link.target? =
      (ls.filterMap Link.target?).eraseP (·.1 == b) := by
  induction ls with
  | nil => rfl
  | cons l ls ih =>
    cases l with
    | out t k =>
      by_cases h : t = b
      · simp [Link.leavesFor, Link.target?, h]
      · have hb : (t == b) = false := by simpa using h
        simp [Link.leavesFor, Link.target?, hb, ih]
    | into s => simp [List.filterMap_cons, Link.leavesFor, Link.target?, ih]

/-- To erase the link from a source is to erase the source. -/
private theorem filterMap_source_eraseP (a : NodeId) (ls : List Link) :
    (ls.eraseP (Link.comesFrom a)).filterMap Link.source? =
      (ls.filterMap Link.source?).erase a := by
  induction ls with
  | nil => rfl
  | cons l ls ih =>
    cases l with
    | out t k => simp [List.filterMap_cons, Link.comesFrom, Link.source?, ih]
    | into s =>
      by_cases h : s = a
      · simp [Link.comesFrom, Link.source?, h]
      · have ha : (s == a) = false := by simpa using h
        simp [Link.comesFrom, Link.source?, ha, ih]

private theorem filterMap_source_eraseP_leavesFor (b : NodeId) (ls : List Link) :
    (ls.eraseP (Link.leavesFor b)).filterMap Link.source? = ls.filterMap Link.source? := by
  induction ls with
  | nil => rfl
  | cons l ls ih =>
    rw [List.eraseP_cons]
    cases h : Link.leavesFor b l with
    | false =>
      rw [cond_false, List.filterMap_cons, List.filterMap_cons, ih]
    | true =>
      cases l with
      | out t k => rfl
      | into s => cases h

private theorem filterMap_target_eraseP_comesFrom (a : NodeId) (ls : List Link) :
    (ls.eraseP (Link.comesFrom a)).filterMap Link.target? = ls.filterMap Link.target? := by
  induction ls with
  | nil => rfl
  | cons l ls ih =>
    rw [List.eraseP_cons]
    cases h : Link.comesFrom a l with
    | false =>
      rw [cond_false, List.filterMap_cons, List.filterMap_cons, ih]
    | true =>
      cases l with
      | out t k => cases h
      | into s => rfl

/-- With distinct first components, erasing one of them leaves exactly the others. -/
private theorem mem_eraseP_fst {l : List (NodeId × EdgeKind)} (hl : (l.map (·.1)).Nodup)
    {b : NodeId} {x : NodeId × EdgeKind} : x ∈ l.eraseP (·.1 == b) ↔ x ∈ l ∧ x.1 ≠ b := by
  have hl' : ((l.eraseP (·.1 == b)).map (·.1)).Nodup := hl.sublist ((List.eraseP_sublist).map _)
  rw [← lookup_eq_some_iff_mem hl, ← lookup_eq_some_iff_mem hl', lookup_eraseP hl]
  by_cases h : x.1 = b <;> simp [h]

/-- Take away the end of the edge to `b` at the node `a` that it leaves. -/
private def dropOut (g : Digraph) (a b : NodeId) : Digraph :=
  g.modifyLinks a (swapRemoveFirst (Link.leavesFor b))

/-- Take away the end of the edge from `a` at the node `b` that it reaches. -/
private def dropInto (g : Digraph) (b a : NodeId) : Digraph :=
  g.modifyLinks b (swapRemoveFirst (Link.comesFrom a))

/-- One end of an edge is dropped at its origin, and nowhere else. -/
private theorem links_dropOut (g : Digraph) (a b m : NodeId) :
    ((dropOut g a b).links m).Perm
      (if m = a then (g.links m).eraseP (Link.leavesFor b) else g.links m) := by
  unfold dropOut
  rw [links_modifyLinks (.inr rfl)]
  by_cases h : m = a
  · rw [if_pos h, if_pos h, h]
    exact swapRemoveFirst_perm _ _
  · rw [if_neg h, if_neg h]

/-- The other end is dropped at its target, and nowhere else. -/
private theorem links_dropInto (g : Digraph) (b a m : NodeId) :
    ((dropInto g b a).links m).Perm
      (if m = b then (g.links m).eraseP (Link.comesFrom a) else g.links m) := by
  unfold dropInto
  rw [links_modifyLinks (.inr rfl)]
  by_cases h : m = b
  · rw [if_pos h, if_pos h, h]
    exact swapRemoveFirst_perm _ _
  · rw [if_neg h, if_neg h]

private theorem outgoing_dropOut (g : Digraph) (a b m : NodeId) :
    ((dropOut g a b).outgoing m).Perm
      (if m = a then (g.outgoing m).eraseP (·.1 == b) else g.outgoing m) := by
  rw [outgoing_eq, outgoing_eq]
  refine ((links_dropOut g a b m).filterMap _).trans ?_
  by_cases h : m = a
  · rw [if_pos h, if_pos h, filterMap_target_eraseP]
  · rw [if_neg h, if_neg h]

private theorem sources_dropOut (g : Digraph) (a b m : NodeId) :
    ((dropOut g a b).sources m).Perm (g.sources m) := by
  refine ((links_dropOut g a b m).filterMap _).trans ?_
  by_cases h : m = a
  · rw [if_pos h, filterMap_source_eraseP_leavesFor]
    rfl
  · rw [if_neg h]
    rfl

private theorem outgoing_dropInto (g : Digraph) (b a m : NodeId) :
    ((dropInto g b a).outgoing m).Perm (g.outgoing m) := by
  rw [outgoing_eq, outgoing_eq]
  refine ((links_dropInto g b a m).filterMap _).trans ?_
  by_cases h : m = b
  · rw [if_pos h, filterMap_target_eraseP_comesFrom]
  · rw [if_neg h]

private theorem sources_dropInto (g : Digraph) (b a m : NodeId) :
    ((dropInto g b a).sources m).Perm (if m = b then (g.sources m).erase a else g.sources m) := by
  refine ((links_dropInto g b a m).filterMap _).trans ?_
  by_cases h : m = b
  · rw [if_pos h, if_pos h, filterMap_source_eraseP]
    rfl
  · rw [if_neg h, if_neg h]
    rfl

/-- No duplicates come from dropping an end. -/
private theorem tidy_dropOut {g : Digraph} (hg : g.Tidy) (a b : NodeId) :
    (dropOut g a b).Tidy where
  nodes_nodup := by
    unfold dropOut
    rw [nodes_modifyLinks]
    exact hg.nodes_nodup
  successors_nodup m := by
    unfold successors
    rw [((outgoing_dropOut g a b m).map _).nodup_iff]
    by_cases h : m = a
    · rw [if_pos h]
      exact (hg.successors_nodup m).sublist (List.eraseP_sublist.map _)
    · rw [if_neg h]
      exact hg.successors_nodup m
  sources_nodup m := by
    rw [(sources_dropOut g a b m).nodup_iff]
    exact hg.sources_nodup m

private theorem tidy_dropInto {g : Digraph} (hg : g.Tidy) (b a : NodeId) :
    (dropInto g b a).Tidy where
  nodes_nodup := by
    unfold dropInto
    rw [nodes_modifyLinks]
    exact hg.nodes_nodup
  successors_nodup m := by
    unfold successors
    rw [((outgoing_dropInto g b a m).map _).nodup_iff]
    exact hg.successors_nodup m
  sources_nodup m := by
    rw [(sources_dropInto g b a m).nodup_iff]
    by_cases h : m = b
    · rw [if_pos h]
      exact (hg.sources_nodup m).erase a
    · rw [if_neg h]
      exact hg.sources_nodup m

/-- The end at the origin is what makes an edge. -/
private theorem edge?_dropOut {g : Digraph} (hg : g.Tidy) (a b : NodeId) {c e : NodeId}
    {k : EdgeKind} :
    (dropOut g a b).edge? c e = some k ↔ g.edge? c e = some k ∧ ¬ (c = a ∧ e = b) := by
  rw [(tidy_dropOut hg a b).edge?_eq_some, hg.edge?_eq_some, (outgoing_dropOut g a b c).mem_iff]
  by_cases h : c = a
  · rw [if_pos h, mem_eraseP_fst (hg.successors_nodup c)]
    simp [h]
  · rw [if_neg h]
    simp [h]

/-- The end at the target does not bear on which edges there are. -/
private theorem edge?_dropInto {g : Digraph} (hg : g.Tidy) (b a : NodeId) {c e : NodeId}
    {k : EdgeKind} : (dropInto g b a).edge? c e = some k ↔ g.edge? c e = some k := by
  rw [(tidy_dropInto hg b a).edge?_eq_some, hg.edge?_eq_some, (outgoing_dropInto g b a c).mem_iff]

private theorem mem_sources_dropInto {g : Digraph} (hg : g.Tidy) (b a : NodeId)
    {s m : NodeId} :
    s ∈ (dropInto g b a).sources m ↔ s ∈ g.sources m ∧ ¬ (m = b ∧ s = a) := by
  rw [(sources_dropInto g b a m).mem_iff]
  by_cases h : m = b
  · rw [if_pos h, (hg.sources_nodup m).mem_erase_iff]
    simp [h, and_comm]
  · rw [if_neg h]
    simp [h]

/-! ## Removing an edge -/

/-- An edge is removed by dropping both its ends; a loop has only one. -/
theorem removeEdge_eq (g : Digraph) (a b : NodeId) :
    g.removeEdge a b = if a = b then dropOut g a b else dropInto (dropOut g a b) b a := by
  unfold removeEdge dropOut dropInto
  by_cases h : a = b <;> simp [h]

/-- The nodes stay when an edge is removed. -/
theorem contains_removeEdge (g : Digraph) (a b m : NodeId) :
    (g.removeEdge a b).contains m = g.contains m := by
  unfold removeEdge
  by_cases h : a = b <;> simp [h, contains_modifyLinks]

/-- To remove an edge removes that edge and no other. -/
theorem Coherent.edge?_removeEdge {g : Digraph} (hg : g.Coherent) (a b : NodeId)
    {c e : NodeId} {k : EdgeKind} :
    (g.removeEdge a b).edge? c e = some k ↔ g.edge? c e = some k ∧ ¬ (c = a ∧ e = b) := by
  rw [removeEdge_eq]
  by_cases h : a = b
  · rw [if_pos h, edge?_dropOut hg.toTidy]
  · rw [if_neg h, edge?_dropInto (tidy_dropOut hg.toTidy a b), edge?_dropOut hg.toTidy]

theorem mem_successors_iff_edge {g : Digraph} {a b : NodeId} :
    b ∈ g.successors a ↔ ∃ k, g.edge? a b = some k := by
  rw [mem_successors, Option.isSome_iff_exists]

/-- Both ends go together, so that the two sides of the graph still agree. -/
theorem Coherent.removeEdge {g : Digraph} (hg : g.Coherent) (a b : NodeId) :
    (g.removeEdge a b).Coherent := by
  have htidy : (g.removeEdge a b).Tidy := by
    rw [removeEdge_eq]
    by_cases h : a = b
    · rw [if_pos h]
      exact tidy_dropOut hg.toTidy a b
    · rw [if_neg h]
      exact tidy_dropInto (tidy_dropOut hg.toTidy a b) b a
  refine ⟨htidy, fun c e => ?_⟩
  -- a loop has no end on the far side, since a node is never its own source
  have hsources : c ∈ (g.removeEdge a b).sources e ↔
      c ∈ g.sources e ∧ ¬ (e = b ∧ c = a ∧ a ≠ b) := by
    rw [removeEdge_eq]
    by_cases h : a = b
    · rw [if_pos h, (sources_dropOut g a b e).mem_iff]
      simp [h]
    · rw [if_neg h, mem_sources_dropInto (tidy_dropOut hg.toTidy a b),
        (sources_dropOut g a b e).mem_iff]
      simp [h]
  rw [hsources, hg.mem_sources, mem_successors_iff_edge, mem_successors_iff_edge]
  simp only [hg.edge?_removeEdge]
  constructor
  · rintro ⟨⟨hne, k, hk⟩, hnot⟩
    exact ⟨hne, k, hk, fun ⟨hc, he⟩ => hnot ⟨he, hc, hc ▸ he ▸ hne⟩⟩
  · rintro ⟨hne, k, hk, hnot⟩
    exact ⟨⟨hne, k, hk⟩, fun ⟨he, hc, _⟩ => hnot ⟨hc, he⟩⟩

/-! ## Removing a node -/

/-- What is dropped on the far side for a list of links: the edges to the node that the list names,
and the node as a source of the targets it names. -/
private theorem foldl_dropFarEnd (n : NodeId) (ls : List Link) {g : Digraph} (hg : g.Tidy) :
    (ls.foldl (dropFarEnd n) g).Tidy ∧
      (∀ m, (ls.foldl (dropFarEnd n) g).contains m = g.contains m) ∧
      (∀ c e k, (ls.foldl (dropFarEnd n) g).edge? c e = some k ↔
        g.edge? c e = some k ∧ ¬ (e = n ∧ .into c ∈ ls)) ∧
      ∀ s c, s ∈ (ls.foldl (dropFarEnd n) g).sources c ↔
        s ∈ g.sources c ∧ ¬ (s = n ∧ ∃ k, .out c k ∈ ls) := by
  induction ls generalizing g with
  | nil => simp [hg]
  | cons l ls ih =>
    rw [List.foldl_cons]
    cases l with
    | out t k =>
      -- An edge from `n`: its other end is among the sources of `t`.
      have hstep : dropFarEnd n g (.out t k) = dropInto g t n := rfl
      rw [hstep]
      obtain ⟨htidy, hnodes, hedge, hsource⟩ := ih (tidy_dropInto hg t n)
      refine ⟨htidy, fun m => ?_, fun c e k' => ?_, fun s c => ?_⟩
      · rw [hnodes, dropInto, contains_modifyLinks]
      · rw [hedge, edge?_dropInto hg]
        simp
      · rw [hsource, mem_sources_dropInto hg]
        simp only [List.mem_cons, Link.out.injEq, not_and, not_exists]
        constructor
        · rintro ⟨⟨hs, hne⟩, hall⟩
          refine ⟨hs, fun hsn k' => ?_⟩
          rintro (⟨hc, _⟩ | hmem)
          · exact hne hc hsn
          · exact hall hsn k' hmem
        · rintro ⟨hs, hall⟩
          exact ⟨⟨hs, fun hc hsn => hall hsn k (.inl ⟨hc, rfl⟩)⟩,
            fun hsn k' hmem => hall hsn k' (.inr hmem)⟩
    | into a =>
      -- An edge to `n`: its other end is among the outgoing edges of `a`.
      have hstep : dropFarEnd n g (.into a) = dropOut g a n := rfl
      rw [hstep]
      obtain ⟨htidy, hnodes, hedge, hsource⟩ := ih (tidy_dropOut hg a n)
      refine ⟨htidy, fun m => ?_, fun c e k' => ?_, fun s c => ?_⟩
      · rw [hnodes, dropOut, contains_modifyLinks]
      · rw [hedge, edge?_dropOut hg]
        simp only [List.mem_cons, Link.into.injEq, not_and]
        constructor
        · rintro ⟨⟨hk, hne⟩, hall⟩
          refine ⟨hk, fun hen => ?_⟩
          rintro (hca | hmem)
          · exact hne hca hen
          · exact hall hen hmem
        · rintro ⟨hk, hall⟩
          exact ⟨⟨hk, fun hca hen => hall hen (.inl hca)⟩, fun hen hmem => hall hen (.inr hmem)⟩
      · rw [hsource, (sources_dropOut g a n c).mem_iff]
        simp

/-- The rows without that of `n`. -/
private theorem links_dropRow {g : Digraph} (hg : g.nodes.Nodup) (n m : NodeId) :
    (Digraph.mk (swapRemoveFirst (·.1 == n) g.rows)).links m =
      if m = n then [] else g.links m := by
  have hperm := swapRemoveFirst_perm (fun row : NodeId × List Link => row.1 == n) g.rows
  have hnodup : ((g.rows.eraseP (·.1 == n)).map (·.1)).Nodup :=
    hg.sublist (List.eraseP_sublist.map _)
  unfold links
  rw [← lookup_perm hnodup hperm.symm m, lookup_eraseP hg]
  by_cases h : m = n <;> simp [h]

/-- The row of a node is dropped. -/
private theorem contains_dropRow {g : Digraph} (hg : g.nodes.Nodup) (n m : NodeId) :
    (Digraph.mk (swapRemoveFirst (·.1 == n) g.rows)).contains m = (g.contains m && m != n) := by
  have hperm := swapRemoveFirst_perm (fun row : NodeId × List Link => row.1 == n) g.rows
  have hnodup : ((g.rows.eraseP (·.1 == n)).map (·.1)).Nodup :=
    hg.sublist (List.eraseP_sublist.map _)
  rw [contains_eq_isSome, contains_eq_isSome, ← lookup_perm hnodup hperm.symm m, lookup_eraseP hg]
  by_cases h : m = n <;> simp [h]

private theorem tidy_dropRow {g : Digraph} (hg : g.Tidy) (n : NodeId) :
    (Digraph.mk (swapRemoveFirst (·.1 == n) g.rows)).Tidy where
  nodes_nodup := by
    have hperm := swapRemoveFirst_perm (fun row : NodeId × List Link => row.1 == n) g.rows
    unfold nodes
    rw [(hperm.map _).nodup_iff]
    exact hg.nodes_nodup.sublist (List.eraseP_sublist.map _)
  successors_nodup m := by
    unfold successors
    rw [outgoing_eq, links_dropRow hg.nodes_nodup]
    by_cases h : m = n
    · simp [h]
    · rw [if_neg h, ← outgoing_eq]
      exact hg.successors_nodup m
  sources_nodup m := by
    unfold sources
    rw [links_dropRow hg.nodes_nodup]
    by_cases h : m = n
    · simp [h]
    · rw [if_neg h]
      exact hg.sources_nodup m

/-- To remove a node removes that node and no other. -/
theorem Tidy.contains_removeNode {g : Digraph} (hg : g.Tidy) (n m : NodeId) :
    (g.removeNode n).contains m = (g.contains m && m != n) := by
  unfold removeNode
  rw [(foldl_dropFarEnd n (g.links n) (tidy_dropRow hg n)).2.1, contains_dropRow hg.nodes_nodup]

/-- With a node go the edges at it, and no others. -/
theorem Coherent.edge?_removeNode {g : Digraph} (hg : g.Coherent) (n : NodeId) {c e : NodeId}
    {k : EdgeKind} :
    (g.removeNode n).edge? c e = some k ↔ g.edge? c e = some k ∧ c ≠ n ∧ e ≠ n := by
  have hrow := tidy_dropRow hg.toTidy n
  unfold removeNode
  rw [(foldl_dropFarEnd n (g.links n) hrow).2.2.1, hrow.edge?_eq_some, outgoing_eq,
    links_dropRow hg.nodes_nodup, ← mem_sources_iff]
  by_cases hc : c = n
  · simp [hc]
  · rw [if_neg hc, ← outgoing_eq, ← hg.edge?_eq_some]
    refine and_congr_right fun hk => ?_
    -- the far end of an edge into `n` is found through the sources, and a loop at `n` went with its
    -- row
    have hmem : c ∈ g.sources e ↔ c ≠ e := by
      rw [hg.mem_sources]
      exact and_iff_left (mem_successors_of_edge hk)
    by_cases he : e = n
    · subst he
      simp [hmem, hc]
    · simp [he, hc]

/-- No end of an edge is left behind when a node is removed. -/
theorem Coherent.removeNode {g : Digraph} (hg : g.Coherent) (n : NodeId) :
    (g.removeNode n).Coherent := by
  have hrow := tidy_dropRow hg.toTidy n
  obtain ⟨htidy, -, -, hsource⟩ := foldl_dropFarEnd n (g.links n) hrow
  refine ⟨htidy, fun c e => ?_⟩
  rw [mem_successors_iff_edge]
  simp only [hg.edge?_removeNode]
  -- of the removed node's own row nothing is left
  have hrows : c ∈ (Digraph.mk (swapRemoveFirst (·.1 == n) g.rows)).sources e ↔
      c ∈ g.sources e ∧ e ≠ n := by
    unfold sources
    rw [links_dropRow hg.nodes_nodup]
    by_cases h : e = n <;> simp [h]
  unfold Digraph.removeNode
  rw [hsource, hrows, ← mem_successors_iff, hg.mem_sources]
  by_cases hc : c = n
  · subst hc
    simp only [ne_eq, true_and, not_true_eq_false, false_and, and_false, exists_const, iff_false,
      not_and, not_not]
    exact fun h => h.1.2
  · rw [mem_successors_iff_edge]
    simp only [hc, false_and, not_false_eq_true, and_true, ne_eq]
    tauto

/-! ## Adding nodes and edges -/

theorem Coherent.empty : Digraph.empty.Coherent where
  nodes_nodup := List.nodup_nil
  successors_nodup _ := List.nodup_nil
  sources_nodup _ := List.nodup_nil
  mem_sources a b := by simp [sources, successors, outgoing, links, Digraph.empty]

/-- The edges from a node are determined by its links. -/
theorem edge?_congr {g g' : Digraph} {a : NodeId} (h : g'.links a = g.links a) (b : NodeId) :
    g'.edge? a b = g.edge? a b := by
  unfold edge?
  rw [outgoing_eq, outgoing_eq, h]

/-- A new node brings no edges. -/
@[simp]
theorem edge?_addNode (g : Digraph) (n a b : NodeId) : (g.addNode n).edge? a b = g.edge? a b :=
  edge?_congr (links_addNode g n a) b

/-- A new node comes last; one that is there already keeps its place. -/
theorem nodes_addNode (g : Digraph) (n : NodeId) :
    (g.addNode n).nodes = if g.contains n then g.nodes else g.nodes ++ [n] := by
  unfold addNode nodes
  by_cases h : g.contains n <;> simp [h]

theorem Tidy.addNode {g : Digraph} (hg : g.Tidy) (n : NodeId) : (g.addNode n).Tidy where
  nodes_nodup := by
    rw [nodes_addNode]
    by_cases h : g.contains n
    · rw [if_pos h]
      exact hg.nodes_nodup
    · rw [if_neg h]
      rw [contains_iff] at h
      exact List.Nodup.append hg.nodes_nodup (List.nodup_singleton n) (by simpa using h)
  successors_nodup m := by
    unfold successors
    rw [outgoing_eq, links_addNode, ← outgoing_eq]
    exact hg.successors_nodup m
  sources_nodup m := by
    unfold sources
    rw [links_addNode]
    exact hg.sources_nodup m

theorem Coherent.addNode {g : Digraph} (hg : g.Coherent) (n : NodeId) :
    (g.addNode n).Coherent := by
  refine ⟨hg.toTidy.addNode n, fun a b => ?_⟩
  rw [mem_successors_iff, mem_sources_iff, links_addNode, links_addNode, ← mem_successors_iff,
    ← mem_sources_iff]
  exact hg.mem_sources a b

/-- An edge brings its ends along. -/
theorem Coherent.contains_addEdge {g : Digraph} (hg : g.Coherent) (a b m : NodeId) (k : EdgeKind) :
    (g.addEdge a b k).contains m = (g.contains m || m == a || m == b) := by
  unfold addEdge
  split
  next h =>
    have hmem : ∀ n, g.contains n = true → (g.contains m || m == n) = g.contains m := by
      intro n hn
      by_cases h : m = n <;> simp [h, hn]
    have hsucc := mem_successors.2 h
    rw [contains_modifyLinks, hmem a (contains_of_mem_successors hsucc),
      hmem b (hg.contains_target hsucc)]
  next =>
    by_cases hab : a = b <;> simp [hab, contains_modifyLinks, contains_addNode]

/-- A new edge goes to the end of the lists of both its ends. -/
private theorem links_addEdge_of_none {g : Digraph} {a b : NodeId} (k : EdgeKind)
    (h : g.edge? a b = none) (m : NodeId) :
    (g.addEdge a b k).links m =
      g.links m ++ ((if m = a then [.out b k] else []) ++
        if m = b ∧ a ≠ b then [.into a] else []) := by
  have ha : (g.addNode a).contains a = true := by simp [contains_addNode]
  unfold addEdge
  rw [h]
  -- a loop is written down once, at its origin
  by_cases hab : a = b
  · subst hab
    simp only [Option.isSome_none, Bool.false_eq_true, if_false, beq_self_eq_true, if_true]
    rw [links_modifyLinks (.inl ha), links_addNode, links_addNode]
    by_cases hm : m = a <;> simp [hm]
  · -- both rows exist by now, so that the links are appended and not lost
    have hb : (((g.addNode a).modifyLinks a (· ++ [.out b k])).addNode b).contains b = true := by
      simp [contains_addNode]
    have hbeq : (a == b) = false := by simpa using hab
    simp only [Option.isSome_none, Bool.false_eq_true, if_false, hbeq]
    rw [links_modifyLinks (.inl hb), links_addNode, links_addNode, links_modifyLinks (.inl ha),
      links_modifyLinks (.inl ha), links_addNode, links_addNode]
    by_cases hm : m = b
    · subst hm
      simp [hab, Ne.symm hab]
    · by_cases hma : m = a <;> simp [hm, hma, hab, links_addNode]

/-- A new edge comes last among those of its origin. -/
private theorem outgoing_addEdge_of_none {g : Digraph} {a b : NodeId} (k : EdgeKind)
    (h : g.edge? a b = none) (m : NodeId) :
    (g.addEdge a b k).outgoing m = g.outgoing m ++ if m = a then [(b, k)] else [] := by
  rw [outgoing_eq, links_addEdge_of_none k h, List.filterMap_append, List.filterMap_append,
    ← outgoing_eq]
  split_ifs <;> simp [Link.target?]

/-- The target of a new edge gets a source, unless the edge is a loop. -/
private theorem sources_addEdge_of_none {g : Digraph} {a b : NodeId} (k : EdgeKind)
    (h : g.edge? a b = none) (m : NodeId) :
    (g.addEdge a b k).sources m = g.sources m ++ if m = b ∧ a ≠ b then [a] else [] := by
  unfold sources
  rw [links_addEdge_of_none k h, List.filterMap_append, List.filterMap_append]
  split_ifs <;> simp [Link.source?]

/-- An edge that is there only takes the new kind. -/
private theorem links_addEdge_of_isSome {g : Digraph} {a b : NodeId} (k : EdgeKind)
    (h : (g.edge? a b).isSome = true) (m : NodeId) :
    (g.addEdge a b k).links m =
      if m = a then (g.links a).map fun l => if l.leavesFor b then .out b k else l
      else g.links m := by
  unfold addEdge
  rw [if_pos h, links_modifyLinks (.inr rfl)]

private theorem filterMap_source_map (b : NodeId) (k : EdgeKind) (ls : List Link) :
    (ls.map fun l => if l.leavesFor b then .out b k else l).filterMap Link.source? =
      ls.filterMap Link.source? := by
  induction ls with
  | nil => rfl
  | cons l ls ih =>
    rw [List.map_cons, List.filterMap_cons, List.filterMap_cons, ih]
    cases l with
    | out t k' => by_cases h : t = b <;> simp [Link.leavesFor, Link.source?, h]
    | into s => simp [Link.leavesFor, Link.source?]

/-- To change the kind of a link is to change the kind of the edge. -/
private theorem filterMap_target_map (b : NodeId) (k : EdgeKind) (ls : List Link) :
    (ls.map fun l => if l.leavesFor b then .out b k else l).filterMap Link.target? =
      (ls.filterMap Link.target?).map fun e => if e.1 = b then (b, k) else e := by
  induction ls with
  | nil => rfl
  | cons l ls ih =>
    rw [List.map_cons, List.filterMap_cons, List.filterMap_cons, ih]
    cases l with
    | out t k' => by_cases h : t = b <;> simp [Link.leavesFor, Link.target?, h]
    | into s => simp [Link.leavesFor, Link.target?]

/-- If one key's kind is changed, only this key's kind is. -/
private theorem lookup_map_kind (l : List (NodeId × EdgeKind)) (b e : NodeId) (k : EdgeKind) :
    (l.map fun d => if d.1 = b then (b, k) else d).lookup e =
      if e = b then (l.lookup e).map fun _ => k else l.lookup e := by
  induction l with
  | nil => simp
  | cons d l ih =>
    rw [List.map_cons, List.lookup_cons, List.lookup_cons, ih]
    by_cases hd : d.1 = b <;> by_cases he : e = b
    · simp [hd, he]
    · have : (e == b) = false := by simpa using he
      simp [hd, he, this]
    · have : (b == d.1) = false := by simpa using Ne.symm hd
      simp [hd, he, this]
    · simp [hd, he]

/-- Adding an edge sets its kind, whether it was there or not, and leaves the other edges alone. -/
theorem edge?_addEdge (g : Digraph) (a b : NodeId) (k : EdgeKind)
    (c e : NodeId) :
    (g.addEdge a b k).edge? c e = if c = a ∧ e = b then some k else g.edge? c e := by
  cases h : g.edge? a b with
  | none =>
    -- The new edge is the last one of `a`, and no other edge of `a` leads to `b`.
    unfold edge?
    rw [outgoing_addEdge_of_none k h, List.lookup_append]
    by_cases hc : c = a
    · rw [if_pos hc]
      by_cases he : e = b
      · have hnone : (g.outgoing c).lookup e = none := by
          rw [hc, he]
          exact h
        rw [hnone, Option.none_or, if_pos ⟨hc, he⟩, he]
        simp
      · have hbe : (e == b) = false := by simpa using he
        simp [he, List.lookup_cons, hbe]
    · simp [hc]
  | some k' =>
    -- Only the kind of the edge changes.
    have hsome : (g.edge? a b).isSome = true := by rw [h]; rfl
    by_cases hc : c = a
    · subst hc
      have hlinks := links_addEdge_of_isSome k hsome c
      rw [if_pos rfl] at hlinks
      unfold edge?
      rw [outgoing_eq, hlinks, filterMap_target_map, ← outgoing_eq, lookup_map_kind]
      by_cases he : e = b
      · subst he
        have hlookup : (g.outgoing c).lookup e = some k' := h
        simp [hlookup]
      · simp [he]
    · have hlinks := links_addEdge_of_isSome k hsome c
      rw [if_neg hc] at hlinks
      rw [edge?_congr hlinks]
      simp [hc]

private theorem nodes_nodup_addEdge {g : Digraph} (hg : g.Tidy) (a b : NodeId) (k : EdgeKind) :
    (g.addEdge a b k).nodes.Nodup := by
  unfold addEdge
  split
  · rw [nodes_modifyLinks]
    exact hg.nodes_nodup
  · by_cases hab : a = b
    · simp only [hab, beq_self_eq_true, if_true, nodes_modifyLinks]
      exact (hg.addNode b).nodes_nodup
    · have hbeq : (a == b) = false := by simpa using hab
      simp only [hbeq, Bool.false_eq_true, if_false, nodes_modifyLinks]
      rw [nodes_addNode, contains_modifyLinks, nodes_modifyLinks, ← nodes_addNode]
      exact ((hg.addNode a).addNode b).nodes_nodup

private theorem successors_addEdge_of_none {g : Digraph} {a b : NodeId} (k : EdgeKind)
    (h : g.edge? a b = none) (m : NodeId) :
    (g.addEdge a b k).successors m = g.successors m ++ if m = a then [b] else [] := by
  unfold successors
  rw [outgoing_addEdge_of_none k h, List.map_append]
  split_ifs <;> rfl

/-- An edge that was there keeps its place among those of its origin. -/
private theorem successors_addEdge_of_isSome {g : Digraph} {a b : NodeId} (k : EdgeKind)
    (h : (g.edge? a b).isSome = true) (m : NodeId) :
    (g.addEdge a b k).successors m = g.successors m := by
  unfold successors
  rw [outgoing_eq, links_addEdge_of_isSome k h]
  by_cases hm : m = a
  · rw [if_pos hm, filterMap_target_map, ← outgoing_eq, List.map_map, hm]
    apply List.map_congr_left
    intro d _
    by_cases hd : d.1 = b <;> simp [hd]
  · rw [if_neg hm, ← outgoing_eq]

private theorem sources_addEdge_of_isSome {g : Digraph} {a b : NodeId} (k : EdgeKind)
    (h : (g.edge? a b).isSome = true) (m : NodeId) :
    (g.addEdge a b k).sources m = g.sources m := by
  unfold sources
  rw [links_addEdge_of_isSome k h]
  by_cases hm : m = a
  · rw [if_pos hm, filterMap_source_map, hm]
  · rw [if_neg hm]

/-- Both ends come together, so that the two sides of the graph still agree. -/
theorem Coherent.addEdge {g : Digraph} (hg : g.Coherent) (a b : NodeId) (k : EdgeKind) :
    (g.addEdge a b k).Coherent := by
  cases h : g.edge? a b with
  | none =>
    -- The new edge is the last one in the lists of both its ends, where it was not before.
    have hnot : b ∉ g.successors a := by
      rw [mem_successors, h]
      simp
    have hnot' : a ∉ g.sources b := fun hmem => hnot ((hg.mem_sources a b).1 hmem).2
    have hsucc := successors_addEdge_of_none (a := a) (b := b) k h
    have hsrc := sources_addEdge_of_none (a := a) (b := b) k h
    refine ⟨⟨nodes_nodup_addEdge hg.toTidy a b k, fun m => ?_, fun m => ?_⟩, fun c e => ?_⟩
    · rw [hsucc]
      by_cases hm : m = a
      · rw [if_pos hm, hm]
        exact List.Nodup.append (hg.successors_nodup a) (List.nodup_singleton b)
          (by simpa using hnot)
      · simpa [hm] using hg.successors_nodup m
    · rw [hsrc]
      by_cases hm : m = b ∧ a ≠ b
      · rw [if_pos hm, hm.1]
        exact List.Nodup.append (hg.sources_nodup b) (List.nodup_singleton a) (by simpa using hnot')
      · simpa [hm] using hg.sources_nodup m
    · rw [hsucc, hsrc, List.mem_append, List.mem_append, hg.mem_sources]
      by_cases hc : c = a
      · by_cases he : e = b
        · by_cases hab : a = b <;> simp [hc, he, hab]
        · simp [hc, he]
      · simp [hc]
  | some k' =>
    -- The edge is there already, and only its kind may change.
    have hsome : (g.edge? a b).isSome = true := by rw [h]; rfl
    refine ⟨⟨nodes_nodup_addEdge hg.toTidy a b k, fun m => ?_, fun m => ?_⟩, fun c e => ?_⟩
    · rw [successors_addEdge_of_isSome k hsome]
      exact hg.successors_nodup m
    · rw [sources_addEdge_of_isSome k hsome]
      exact hg.sources_nodup m
    · rw [successors_addEdge_of_isSome k hsome, sources_addEdge_of_isSome k hsome]
      exact hg.mem_sources c e

/-- A node that is not there is at no end of an edge. -/
theorem Coherent.edge?_of_absent {g : Digraph} (hg : g.Coherent) {n : NodeId}
    (hn : g.contains n = false) (m : NodeId) : g.edge? n m = none ∧ g.edge? m n = none := by
  rw [← Bool.not_eq_true] at hn
  refine ⟨Option.eq_none_iff_forall_ne_some.2 fun k hk => hn ?_,
    Option.eq_none_iff_forall_ne_some.2 fun k hk => hn ?_⟩
  · exact contains_of_mem_successors (mem_successors_of_edge hk)
  · exact hg.contains_target (mem_successors_of_edge hk)

/-- A node without outgoing edges, as the seeding of a pass sees it. -/
theorem mem_leaves {g : Digraph} {n : NodeId} :
    n ∈ g.leaves ↔ g.contains n = true ∧ ∀ b, g.edge? n b = none := by
  unfold leaves
  rw [List.mem_filter, ← contains_iff, List.isEmpty_iff, List.eq_nil_iff_forall_not_mem]
  refine and_congr_right fun _ => forall_congr' fun b => ?_
  rw [mem_successors, Bool.not_eq_true, Option.isSome_eq_false_iff, Option.isNone_iff_eq_none]

end Digraph

end Rollout
