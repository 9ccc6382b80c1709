import Mathlib.Data.List.Induction
import Mathlib.Data.List.TakeWhile
import Mathlib.Logic.Relation
import Rollout.Digraph.Components
import Rollout.Proofs.Digraph.Edges

/-!
# Where the search for components stands

The nodes that have been reached and not closed are the open ones.  They are kept here as a list, in
the order in which they were reached, so that the number of a node is its place in the list: closing
a component takes away the end of the list, and the search counts on from there.  `Tracked` is what
holds between the steps of the search, `Reached` what a visit comes to, and `Looked` what has come
of looking at some of the successors of a node.  `Looked.compare` is the step from one successor to
the next.
-/

namespace Rollout.Digraph

variable {g : Digraph} {depth i j k : ℕ} {path opened more block ws : List NodeId}
  {u v w x : NodeId} {s s' : ComponentSearch}

/-! ## Components -/

/-- There is an edge from one node to the other. -/
def Edge (g : Digraph) (a b : NodeId) : Prop := b ∈ g.successors a

/-- There is a path, possibly without edges, from one node to the other. -/
abbrev Leads (g : Digraph) : NodeId → NodeId → Prop := Relation.ReflTransGen g.Edge

/-- Two nodes lead to each other. -/
def Mutual (g : Digraph) (a b : NodeId) : Prop := g.Leads a b ∧ g.Leads b a

/-- The list names, each once, all nodes that lead to one of them and back. -/
structure IsComponent (g : Digraph) (c : List NodeId) : Prop where
  ne_nil : c ≠ []
  nodup : c.Nodup
  subset : c ⊆ g.nodes
  mem_iff : ∀ {a b : NodeId}, a ∈ c → (b ∈ c ↔ g.Mutual a b)

/-- The component has several members, or one with an edge to itself. -/
def HoldsCycle (g : Digraph) (c : List NodeId) : Prop := 2 ≤ c.length ∨ ∃ n ∈ c, g.Edge n n

/-- A component holds a cycle if and only if its members lead back to themselves. -/
theorem IsComponent.holdsCycle_iff {c : List NodeId} (hc : g.IsComponent c) (hv : v ∈ c) :
    g.HoldsCycle c ↔ Relation.TransGen g.Edge v v := by
  constructor
  · rintro (hlength | ⟨n, hn, hself⟩)
    · obtain ⟨w, hw, hne⟩ : ∃ w ∈ c, w ≠ v := by
        by_contra hall
        simp only [not_exists, not_and, not_not] at hall
        have hsub : c ⊆ [v] := fun w hw => List.mem_singleton.2 (hall w hw)
        have hle := (List.subperm_of_subset hc.nodup hsub).length_le
        simp only [List.length_singleton] at hle
        omega
      obtain ⟨hvw, hwv⟩ := (hc.mem_iff hv).1 hw
      rcases Relation.reflTransGen_iff_eq_or_transGen.1 hvw with heq | hpath
      · exact absurd heq hne
      · exact hpath.trans_left hwv
    · obtain ⟨hvn, hnv⟩ := (hc.mem_iff hv).1 hn
      exact (Relation.TransGen.tail' hvn hself).trans_left hnv
  · intro hcycle
    obtain ⟨w, hedge, hback⟩ := Relation.TransGen.head'_iff.1 hcycle
    by_cases hvw : v = w
    · exact .inr ⟨v, hv, by rw [hvw] at hedge ⊢; exact hedge⟩
    · have hw : w ∈ c := (hc.mem_iff hv).2 ⟨.single hedge, hback⟩
      have hsub : [v, w] ⊆ c := List.cons_subset.2 ⟨hv, by simpa using hw⟩
      have hnodup : [v, w].Nodup := by simpa using hvw
      exact .inl (List.subperm_of_subset hnodup hsub).length_le

/-! ## Steps of the search -/

theorem mark?_setMark (s : ComponentSearch) (n : NodeId) (m : Mark) (x : NodeId) :
    (s.setMark n m).mark? x = if x = n then some m else s.mark? x := by
  unfold ComponentSearch.mark? ComponentSearch.setMark
  rw [List.lookup_cons]
  by_cases hx : x = n
  · simp [hx]
  · simp [hx, beq_eq_false_iff_ne.2 hx]

theorem lookup_foldl_closed (group : List NodeId) (marks : List (NodeId × Mark)) (x : NodeId) :
    (group.foldl (fun marks n => (n, Mark.closed) :: marks) marks).lookup x =
      if x ∈ group then some .closed else marks.lookup x := by
  induction group generalizing marks with
  | nil => rfl
  | cons n group ih =>
    rw [List.foldl_cons, ih, List.lookup_cons]
    by_cases hx : x ∈ group
    · simp [hx]
    · by_cases hn : x = n
      · simp [hn]
      · simp [hx, hn, beq_eq_false_iff_ne.2 hn]

/-- Look at one node that `v` has an edge to. -/
def lookAt (g : Digraph) (depth : ℕ) (v : NodeId) (acc : ComponentSearch × Bool) (w : NodeId) :
    ComponentSearch × Bool :=
  let s := if (acc.1.mark? w).isNone then g.visitComponent depth w acc.1 else acc.1
  if s.below w v then (s.setMark v ((s.mark? w).getD .closed), false) else (s, acc.2)

/-- What a visit begins with. -/
def entering (v : NodeId) (s : ComponentSearch) : ComponentSearch :=
  { s.setMark v (.low s.next) with next := s.next + 1 }

theorem visitComponent_succ (g : Digraph) (depth : ℕ) (v : NodeId) (s : ComponentSearch) :
    g.visitComponent (depth + 1) v s =
      let (s, isRoot) := (g.successors v).foldl (g.lookAt depth v) (entering v s, true)
      if isRoot then s.close v else s.putAside v := rfl

/-- The nodes of the components that have been completed. -/
def ComponentSearch.done (s : ComponentSearch) : List NodeId := s.found.flatten

/-! ## What holds between the steps -/

/-- A node is done, or it is open with the number `j` or a higher one. -/
def NotBefore (s : ComponentSearch) (opened : List NodeId) (j : ℕ) (x : NodeId) : Prop :=
  x ∈ s.done ∨ ∃ k, j ≤ k ∧ opened[k]? = some x

/-- Where the search stands: the nodes of the path are being visited, the latest first, and the open
nodes are these and those put aside. -/
structure Tracked (g : Digraph) (path opened : List NodeId) (s : ComponentSearch) : Prop where
  next : s.next = opened.length
  perm : opened.Perm (path ++ s.aside)
  nodup : opened.Nodup
  subset : opened ⊆ g.nodes
  /-- The mark of an open node is the number of an open node that it leads to, not a later one. -/
  low : ∀ {i : ℕ} {w : NodeId}, opened[i]? = some w → ∃ j u, s.mark? w = some (.low j) ∧ j ≤ i ∧
    opened[j]? = some u ∧ g.Leads w u
  closed_iff : ∀ {w : NodeId}, s.mark? w = some .closed ↔ w ∈ s.done
  reached : ∀ {w : NodeId}, s.mark? w ≠ none → w ∈ opened ∨ w ∈ s.done
  /-- A node that is being visited leads to all that has been reached since. -/
  leads : ∀ {i k : ℕ} {u w : NodeId}, u ∈ path → opened[i]? = some u → i ≤ k →
    opened[k]? = some w → g.Leads u w
  /-- What has been put aside leads back beyond itself. -/
  aside_low : ∀ {i j : ℕ} {w : NodeId}, w ∈ s.aside → opened[i]? = some w →
    s.mark? w = some (.low j) → j < i
  /-- What has been put aside has no edge that leads back further than its mark. -/
  aside_out : ∀ {j : ℕ} {w x : NodeId}, w ∈ s.aside → s.mark? w = some (.low j) →
    x ∈ g.successors w → NotBefore s opened j x
  done_out : ∀ {w x : NodeId}, w ∈ s.done → x ∈ g.successors w → x ∈ s.done
  components : ∀ c ∈ s.found, g.IsComponent c
  done_nodup : s.done.Nodup

namespace Tracked

theorem mem_opened (h : g.Tracked path opened s) : w ∈ opened ↔ w ∈ path ∨ w ∈ s.aside := by
  rw [h.perm.mem_iff, List.mem_append]

/-- The number of an open node is its place. -/
theorem place_unique (h : g.Tracked path opened s) (hi : opened[i]? = some w)
    (hk : opened[k]? = some w) : i = k := by
  obtain ⟨hlt, hw⟩ := List.getElem?_eq_some_iff.1 hi
  obtain ⟨hlt', hw'⟩ := List.getElem?_eq_some_iff.1 hk
  exact (h.nodup.getElem_inj_iff).1 (hw.trans hw'.symm)

theorem marked_of_mem (h : g.Tracked path opened s) (hw : w ∈ opened) :
    ∃ i j u, opened[i]? = some w ∧ s.mark? w = some (.low j) ∧ j ≤ i ∧ opened[j]? = some u ∧
      g.Leads w u := by
  obtain ⟨i, hi⟩ := List.mem_iff_getElem?.1 hw
  obtain ⟨j, u, hlow⟩ := h.low hi
  exact ⟨i, j, u, hi, hlow⟩

theorem not_done_of_mem (h : g.Tracked path opened s) (hw : w ∈ opened) : w ∉ s.done := by
  intro hdone
  obtain ⟨i, j, u, -, hmark, -⟩ := h.marked_of_mem hw
  rw [h.closed_iff.2 hdone] at hmark
  cases hmark

/-- A node that has not been reached is not open. -/
theorem not_mem_of_unmarked (h : g.Tracked path opened s) (hv : s.mark? v = none) : v ∉ opened := by
  intro hmem
  obtain ⟨i, j, u, -, hmark, -⟩ := h.marked_of_mem hmem
  rw [hv] at hmark
  cases hmark

/-- Done nodes lead to done nodes. -/
theorem done_of_leads (h : g.Tracked path opened s) (hw : w ∈ s.done) (hlead : g.Leads w x) :
    x ∈ s.done := by
  induction hlead with
  | refl => exact hw
  | tail _ hedge ih => exact h.done_out ih hedge

/-- Without a path nothing is open: the first of the open nodes cannot have been put aside. -/
theorem opened_eq_nil (h : g.Tracked [] opened s) : opened = [] := by
  cases opened with
  | nil => rfl
  | cons w rest =>
    have hw : w ∈ s.aside := (h.mem_opened.1 List.mem_cons_self).resolve_left List.not_mem_nil
    obtain ⟨j, u, hmark, -⟩ := h.low (i := 0) rfl
    exact absurd (h.aside_low hw rfl hmark) (Nat.not_lt_zero j)

/-- The node that is about to be visited gets the next number. -/
theorem enter (h : g.Tracked path opened s) (hv : s.mark? v = none) (hnode : v ∈ g.nodes)
    (hlead : ∀ u ∈ path, g.Leads u v) : g.Tracked (v :: path) (opened ++ [v]) (entering v s) := by
  have hfresh := h.not_mem_of_unmarked hv
  have hmark : ∀ {x}, x ≠ v → (entering v s).mark? x = s.mark? x := fun {x} hx => by
    show (s.setMark v (.low s.next)).mark? x = _
    rw [mark?_setMark, if_neg hx]
  have hself : (entering v s).mark? v = some (.low opened.length) := by
    show (s.setMark v (.low s.next)).mark? v = _
    rw [mark?_setMark, if_pos rfl, h.next]
  have hold : ∀ {i : ℕ} {w : NodeId}, opened[i]? = some w → (opened ++ [v])[i]? = some w :=
    fun hi => getElem?_concat.2 (.inl hi)
  have hne : ∀ {w : NodeId}, w ∈ opened → w ≠ v := fun hw heq => hfresh (heq ▸ hw)
  have hndone : v ∉ s.done := fun hdone => by
    rw [h.closed_iff.2 hdone] at hv
    cases hv
  refine ⟨?_, ?_, ?_, ?_, fun {i w} hi => ?_, fun {w} => ?_, fun {w} hw => ?_,
    fun {i k u w} hu hi hik hk => ?_, fun {i j w} hw hi hj => ?_, fun {j w x} hw hj hx => ?_,
    h.done_out, h.components, h.done_nodup⟩
  · show s.next + 1 = _
    rw [h.next, List.length_append]
    rfl
  · exact (List.perm_append_singleton v opened).trans (h.perm.cons v)
  · exact List.Nodup.append h.nodup (List.nodup_singleton v) (by simpa using hfresh)
  · exact List.append_subset.2 ⟨h.subset, by simpa using hnode⟩
  · rcases getElem?_concat.1 hi with hi | ⟨rfl, rfl⟩
    · obtain ⟨j, u, hj, hle, hu, hwu⟩ := h.low hi
      exact ⟨j, u, (hmark (hne (List.mem_of_getElem? hi))).trans hj, hle, hold hu, hwu⟩
    · exact ⟨_, _, hself, Nat.le_refl _, hi, .refl⟩
  · show (entering v s).mark? w = some .closed ↔ w ∈ s.done
    by_cases hw : w = v
    · rw [hw, hself]
      exact iff_of_false (by simp) hndone
    · rw [hmark hw, h.closed_iff]
  · by_cases hwv : w = v
    · exact .inl (by simp [hwv])
    · rw [hmark hwv] at hw
      exact (h.reached hw).imp_left (List.mem_append_left _)
  · rcases getElem?_concat.1 hk with hk | ⟨rfl, rfl⟩
    · have hlt := (List.getElem?_eq_some_iff.1 hk).1
      rcases getElem?_concat.1 hi with hi | ⟨rfl, -⟩
      · have hu' := (List.mem_cons.1 hu).resolve_left (hne (List.mem_of_getElem? hi))
        exact h.leads hu' hi hik hk
      · omega
    · rcases List.mem_cons.1 hu with rfl | hu
      · exact .refl
      · exact hlead u hu
  · have hopen : w ∈ opened := h.mem_opened.2 (.inr hw)
    rw [hmark (hne hopen)] at hj
    rcases getElem?_concat.1 hi with hi | ⟨-, rfl⟩
    · exact h.aside_low hw hi hj
    · exact absurd hopen hfresh
  · have hopen : w ∈ opened := h.mem_opened.2 (.inr hw)
    rw [hmark (hne hopen)] at hj
    exact (h.aside_out hw hj hx).imp_right fun ⟨k, hk, hx⟩ => ⟨k, hk, hold hx⟩

/-- What is being visited has not been put aside. -/
theorem not_aside (h : g.Tracked (v :: path) opened s) : v ∉ s.aside := fun hmem =>
  (List.nodup_append.1 ((h.perm.nodup_iff).1 h.nodup)).2.2 v List.mem_cons_self v hmem rfl

/-- A node that is being visited takes over the mark of a node that leads back further. -/
theorem lower (h : g.Tracked (v :: path) opened s) (hv : s.mark? v = some (.low j))
    (hedge : g.Edge v w) (hw : s.mark? w = some (.low i)) (hij : i < j) :
    g.Tracked (v :: path) opened (s.setMark v (.low i)) := by
  have hmark : ∀ {x : NodeId}, x ≠ v → (s.setMark v (.low i)).mark? x = s.mark? x := fun hx => by
    rw [mark?_setMark, if_neg hx]
  have hself : (s.setMark v (.low i)).mark? v = some (.low i) := by
    rw [mark?_setMark, if_pos rfl]
  have hopen : v ∈ opened := h.mem_opened.2 (.inl List.mem_cons_self)
  have haside : ∀ {x : NodeId}, x ∈ s.aside → x ≠ v := fun hx heq => h.not_aside (heq ▸ hx)
  refine ⟨h.next, h.perm, h.nodup, h.subset, fun {k x} hk => ?_, fun {x} => ?_, fun {x} hx => ?_,
    h.leads, fun hx hk hj => ?_, fun hx hj => ?_, h.done_out, h.components, h.done_nodup⟩
  · by_cases hxv : x = v
    · subst hxv
      obtain ⟨j', -, hj', hle, -⟩ := h.low hk
      obtain rfl : j = j' := by simpa [hv] using hj'
      have hwopen : w ∈ opened := by
        refine (h.reached (w := w) (by rw [hw]; simp)).resolve_right fun hdone => ?_
        rw [h.closed_iff.2 hdone] at hw
        cases hw
      obtain ⟨-, i', u, -, hi', -, hu, hwu⟩ := h.marked_of_mem hwopen
      obtain rfl : i = i' := by simpa [hw] using hi'
      exact ⟨i, u, hself, by omega, hu, .head hedge hwu⟩
    · rw [hmark hxv]
      exact h.low hk
  · show _ ↔ x ∈ s.done
    by_cases hxv : x = v
    · rw [hxv, hself]
      exact iff_of_false (by simp) (h.not_done_of_mem hopen)
    · rw [hmark hxv, h.closed_iff]
  · by_cases hxv : x = v
    · exact .inl (hxv ▸ hopen)
    · rw [hmark hxv] at hx
      exact h.reached hx
  · rw [hmark (haside hx)] at hj
    exact h.aside_low hx hk hj
  · rw [hmark (haside hx)] at hj
    exact h.aside_out hx hj

end Tracked

theorem NotBefore.mono (h : NotBefore s opened j x) (hdone : s.done ⊆ s'.done) (hij : i ≤ j) :
    NotBefore s' (opened ++ more) i x := by
  refine h.imp (fun hx => hdone hx) ?_
  rintro ⟨k, hjk, hk⟩
  exact ⟨k, hij.trans hjk,
    (List.getElem?_append_left (List.getElem?_eq_some_iff.1 hk).1).trans hk⟩

/-! ## What a visit comes to -/

/-- The node `w` has been reached, and with it `more` nodes have been opened and a `block` put
aside: the node is done, or nothing in the block leads back further than it does. -/
structure Reached (g : Digraph) (path opened : List NodeId) (s : ComponentSearch) (w : NodeId)
    (more block : List NodeId) (s' : ComponentSearch) : Prop where
  tracked : g.Tracked path (opened ++ more) s'
  aside : s'.aside = block ++ s.aside
  kept : ∀ {x : NodeId}, s.mark? x ≠ none → s'.mark? x = s.mark? x
  outcome : (w ∈ s'.done ∧ block = []) ∨
    ∃ i k, s'.mark? w = some (.low i) ∧ i ≤ k ∧ (opened ++ more)[k]? = some w ∧
      ∀ x ∈ block, ∀ i', s'.mark? x = some (.low i') → i ≤ i'

/-- What has been reached before need not be visited. -/
theorem Tracked.reached_refl (h : g.Tracked path opened s) (hw : s.mark? w ≠ none) :
    g.Reached path opened s w [] [] s where
  tracked := by rwa [List.append_nil]
  aside := rfl
  kept _ := rfl
  outcome := by
    rw [List.append_nil]
    rcases h.reached hw with hopen | hdone
    · obtain ⟨k, i, -, hk, hi, hle, -⟩ := h.marked_of_mem hopen
      exact .inr ⟨i, k, hi, hle, hk, nofun⟩
    · exact .inl ⟨hdone, rfl⟩

/-- The successors `ws` of `v` have been looked at, and with them `more` nodes have been opened and
a `block` put aside.  The node `v`, which came right after the nodes `opened`, is known to lead back
to the number `j`, and neither the block nor any of the successors leads back further. -/
structure Looked (g : Digraph) (path opened : List NodeId) (s : ComponentSearch) (v : NodeId)
    (ws more block : List NodeId) (j : ℕ) (acc : ComponentSearch × Bool) : Prop where
  tracked : g.Tracked (v :: path) (opened ++ v :: more) acc.1
  aside : acc.1.aside = block ++ s.aside
  kept : ∀ {x : NodeId}, s.mark? x ≠ none → acc.1.mark? x = s.mark? x
  low : acc.1.mark? v = some (.low j)
  isRoot : acc.2 = true ↔ j = opened.length
  block_low : ∀ x ∈ block, ∀ i, acc.1.mark? x = some (.low i) → j ≤ i
  out : ∀ w ∈ ws, NotBefore acc.1 (opened ++ v :: more) j w

theorem getElem?_middle (opened more : List NodeId) (v : NodeId) :
    (opened ++ v :: more)[opened.length]? = some v := by
  simp

theorem Looked.low_le {acc : ComponentSearch × Bool}
    (h : g.Looked path opened s v ws more block j acc) : j ≤ opened.length := by
  obtain ⟨j', -, hj', hle, -⟩ := h.tracked.low (getElem?_middle opened more v)
  obtain rfl : j = j' := by simpa [h.low] using hj'
  exact hle

/-- One more successor has been reached, and its mark compared. -/
theorem Looked.compare {acc : ComponentSearch × Bool} {more' block' : List NodeId}
    (h : g.Looked path opened s v ws more block j acc) (hvisited : ∀ x, s.mark? x ≠ none → x ≠ v)
    (hedge : g.Edge v w)
    (hw : g.Reached (v :: path) (opened ++ v :: more) acc.1 w more' block' s') :
    ∃ j', g.Looked path opened s v (ws ++ [w]) (more ++ more') (block' ++ block) j'
      (if s'.below w v then (s'.setMark v ((s'.mark? w).getD .closed), false)
        else (s', acc.2)) := by
  have hopened : opened ++ v :: more ++ more' = opened ++ v :: (more ++ more') := by simp
  have htracked := hw.tracked
  rw [hopened] at htracked
  have hlow : s'.mark? v = some (.low j) := (hw.kept (by rw [h.low]; simp)).trans h.low
  have hkept : ∀ {x : NodeId}, s.mark? x ≠ none → s'.mark? x = s.mark? x := fun {x} hx =>
    (hw.kept (by rw [h.kept hx]; exact hx)).trans (h.kept hx)
  have haside : s'.aside = block' ++ block ++ s.aside := by
    rw [hw.aside, h.aside, List.append_assoc]
  have hdone : acc.1.done ⊆ s'.done := fun x hx => by
    have hclosed := h.tracked.closed_iff.2 hx
    rw [← htracked.closed_iff, hw.kept (by rw [hclosed]; simp), hclosed]
  have hblock : ∀ x ∈ block, ∀ i, s'.mark? x = some (.low i) → j ≤ i := fun x hx i hi => by
    refine h.block_low x hx i ?_
    have hopen : x ∈ opened ++ v :: more :=
      h.tracked.mem_opened.2 (.inr (by rw [h.aside]; exact List.mem_append_left _ hx))
    obtain ⟨-, i', -, -, hi', -⟩ := h.tracked.marked_of_mem hopen
    rwa [← hw.kept (by rw [hi']; simp)]
  have hout : ∀ {i}, i ≤ j → ∀ x ∈ ws, NotBefore s' (opened ++ v :: (more ++ more')) i x :=
    fun hij x hx => hopened ▸ (h.out x hx).mono hdone hij
  rcases hw.outcome with ⟨hwdone, rfl⟩ | ⟨i, k, hi, hik, hk, hnew⟩
  · -- what is done does not lead back
    have hbelow : s'.below w v = false := by
      unfold ComponentSearch.below
      rw [htracked.closed_iff.2 hwdone, hlow]
      rfl
    rw [hbelow]
    refine ⟨j, htracked, haside, hkept, hlow, h.isRoot, hblock, fun x hx => ?_⟩
    rcases List.mem_append.1 hx with hx | hx
    · exact hout (Nat.le_refl j) x hx
    · exact .inl (List.mem_singleton.1 hx ▸ hwdone)
  · have hbelow : s'.below w v = decide (i < j) := by
      unfold ComponentSearch.below
      rw [hi, hlow]
      rfl
    rw [hopened] at hk
    rw [hbelow]
    by_cases hij : i < j
    · rw [decide_eq_true hij, if_pos rfl, hi]
      have hmark : ∀ {x : NodeId}, x ≠ v → (s'.setMark v (.low i)).mark? x = s'.mark? x :=
        fun hx => by rw [mark?_setMark, if_neg hx]
      have hne : ∀ x ∈ block' ++ block, x ≠ v := fun x hx heq =>
        htracked.not_aside (by rw [haside, ← heq]; exact List.mem_append_left _ hx)
      refine ⟨i, htracked.lower hlow hedge hi hij, haside, fun hx => ?_, ?_, ?_,
        fun x hx i' hi' => ?_, fun x hx => ?_⟩
      · exact (hmark (hvisited _ hx)).trans (hkept hx)
      · exact (mark?_setMark ..).trans (if_pos rfl)
      · have hle := h.low_le
        simp only [Bool.false_eq_true, false_iff]
        omega
      · have hold : s'.mark? x = some (.low i') := (hmark (hne x hx)).symm.trans hi'
        rcases List.mem_append.1 hx with hx | hx
        · exact hnew x hx i' hold
        · exact hij.le.trans (hblock x hx i' hold)
      · rcases List.mem_append.1 hx with hx | hx
        · exact hout hij.le x hx
        · exact .inr ⟨k, hik, List.mem_singleton.1 hx ▸ hk⟩
    · rw [decide_eq_false hij]
      have hji := Nat.le_of_not_lt hij
      refine ⟨j, htracked, haside, hkept, hlow, h.isRoot, fun x hx i' hi' => ?_, fun x hx => ?_⟩
      · rcases List.mem_append.1 hx with hx | hx
        · exact hji.trans (hnew x hx i' hi')
        · exact hblock x hx i' hi'
      · rcases List.mem_append.1 hx with hx | hx
        · exact hout (Nat.le_refl j) x hx
        · exact .inr ⟨k, hji.trans hik, List.mem_singleton.1 hx ▸ hk⟩

end Rollout.Digraph
