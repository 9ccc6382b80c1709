import Rollout.Proofs.Digraph.Tracking

/-!
# What the search for components finds

The search completes the strongly connected components of a graph, each of them once
(`components_spec`).  The cycle groups are those that hold a cycle, and the nodes in them are the
ones that lead back to themselves (`cycleGroups_spec`).
-/

namespace Rollout.Digraph

variable {g : Digraph} {depth j : ℕ} {path opened more block ws : List NodeId}
  {v w : NodeId} {s : ComponentSearch}

/-! ## The end of a visit -/

section Finishing

variable {u : NodeId} {acc : ComponentSearch × Bool}

/-- What has been opened since `v` is what has been put aside since. -/
theorem Looked.perm (h : g.Looked path opened s v ws more block j acc)
    (hs : g.Tracked path opened s) : more.Perm block := by
  refine List.perm_iff_count.2 fun x => ?_
  have hall := h.tracked.perm.count_eq x
  have hold := hs.perm.count_eq x
  rw [h.aside] at hall
  simp only [List.count_append, List.count_cons] at hall hold
  omega

/-- The root of a component takes everything that has been put aside since it was reached. -/
theorem Looked.close_eq (h : g.Looked path opened s v ws more block j acc)
    (hs : g.Tracked path opened s) (hroot : acc.2 = true) : acc.1.close v =
      { marks := (block.reverse ++ [v]).foldl (fun marks n => (n, Mark.closed) :: marks) acc.1.marks
        next := opened.length
        aside := s.aside
        found := acc.1.found ++ [block.reverse ++ [v]] } := by
  have hj := h.isRoot.1 hroot
  have hin : ∀ w ∈ block, (!acc.1.below w v) = true := by
    intro w hw
    have hopen : w ∈ opened ++ v :: more :=
      h.tracked.mem_opened.2 (.inr (by rw [h.aside]; exact List.mem_append_left _ hw))
    obtain ⟨-, i, -, -, hi, -⟩ := h.tracked.marked_of_mem hopen
    unfold ComponentSearch.below
    rw [hi, h.low]
    simpa [Mark.lt] using h.block_low w hw i hi
  have hout : ∀ w ∈ s.aside, (!acc.1.below w v) = false := by
    intro w hw
    obtain ⟨k, i, -, hk, hi, hle, -⟩ := hs.marked_of_mem (hs.mem_opened.2 (.inr hw))
    have hlt := (List.getElem?_eq_some_iff.1 hk).1
    unfold ComponentSearch.below
    rw [h.kept (by rw [hi]; simp), hi, h.low]
    simp only [Mark.lt, Bool.not_eq_false', decide_eq_true_eq]
    omega
  have htake : s.aside.takeWhile (fun w => !acc.1.below w v) = [] := by
    cases hcase : s.aside with
    | nil => rfl
    | cons w rest => rw [List.takeWhile_cons, hout w (by rw [hcase]; exact List.mem_cons_self)]; rfl
  have hdrop : s.aside.dropWhile (fun w => !acc.1.below w v) = s.aside := by
    have hsplit := List.takeWhile_append_dropWhile (p := fun w => !acc.1.below w v) (l := s.aside)
    rwa [htake] at hsplit
  have hlength := h.tracked.next
  have hblock := (h.perm hs).length_eq
  unfold ComponentSearch.close
  rw [h.aside, List.takeWhile_append_of_pos hin, List.dropWhile_append_of_pos hin, htake, hdrop,
    List.append_nil, hlength]
  simp only [List.length_append, List.length_cons, List.length_reverse, List.length_nil,
    ComponentSearch.mk.injEq, true_and, and_true]
  omega

/-- The nodes from a place on are those that were opened from there on. -/
theorem mem_cons_iff_place (opened : List NodeId) : w ∈ v :: more ↔
    ∃ k, opened.length ≤ k ∧ (opened ++ v :: more)[k]? = some w := by
  constructor
  · intro hw
    obtain ⟨k, hk⟩ := List.mem_iff_getElem?.1 hw
    refine ⟨opened.length + k, Nat.le_add_right _ _, ?_⟩
    rw [List.getElem?_append_right (Nat.le_add_right _ _), Nat.add_sub_cancel_left, hk]
  · rintro ⟨k, hle, hk⟩
    rw [List.getElem?_append_right hle] at hk
    exact List.mem_of_getElem? hk

theorem Looked.mem_group (h : g.Looked path opened s v ws more block j acc)
    (hs : g.Tracked path opened s) : w ∈ block.reverse ++ [v] ↔ w ∈ v :: more := by
  rw [((h.perm hs).cons v).mem_iff]
  simp [or_comm]

theorem Looked.mem_aside (h : g.Looked path opened s v ws more block j acc) (hw : w ∈ block) :
    w ∈ acc.1.aside := by
  rw [h.aside]
  exact List.mem_append_left _ hw

/-- Whatever has been opened since a root leads to a lower number, and so at last to the root. -/
theorem Looked.leads_root (h : g.Looked path opened s v ws more block j acc)
    (hs : g.Tracked path opened s) (hroot : acc.2 = true) (hw : w ∈ v :: more) : g.Leads w v := by
  have hj := h.isRoot.1 hroot
  obtain ⟨k, hle, hk⟩ := (mem_cons_iff_place opened).1 hw
  clear hw
  induction k using Nat.strong_induction_on generalizing w with
  | _ k ih =>
    by_cases hwv : w = v
    · exact hwv ▸ .refl
    · have hw := (mem_cons_iff_place opened).2 ⟨k, hle, hk⟩
      have hblock : w ∈ block := (h.perm hs).mem_iff.1 ((List.mem_cons.1 hw).resolve_left hwv)
      obtain ⟨i, u, hi, -, hu, hwu⟩ := h.tracked.low hk
      have hlt := h.tracked.aside_low (h.mem_aside hblock) hk hi
      exact hwu.trans (ih i hlt (hj ▸ h.block_low w hblock i hi) hu)

/-- An edge out of what has been opened since a root ends there, or at what is done. -/
theorem Looked.stays (h : g.Looked path opened s v (g.successors v) more block j acc)
    (hs : g.Tracked path opened s) (hroot : acc.2 = true) (hw : w ∈ v :: more)
    (hedge : g.Edge w u) : u ∈ acc.1.done ∨ u ∈ v :: more := by
  have hj := h.isRoot.1 hroot
  have hbefore : NotBefore acc.1 (opened ++ v :: more) opened.length u := by
    rcases List.mem_cons.1 hw with rfl | hw
    · exact hj ▸ h.out u hedge
    · have hblock := (h.perm hs).mem_iff.1 hw
      have hin := h.mem_aside hblock
      obtain ⟨-, i, -, -, hi, -⟩ := h.tracked.marked_of_mem (h.tracked.mem_opened.2 (.inr hin))
      exact (h.tracked.aside_out hin hi hedge).imp_right
        fun ⟨k, hk, hu⟩ => ⟨k, (hj ▸ h.block_low w hblock i hi).trans hk, hu⟩
  exact hbefore.imp_right (mem_cons_iff_place opened).2

/-- What the root of a component takes is the component. -/
theorem Looked.isComponent (h : g.Looked path opened s v (g.successors v) more block j acc)
    (hs : g.Tracked path opened s) (hroot : acc.2 = true) :
    g.IsComponent (block.reverse ++ [v]) := by
  have hto : ∀ {w : NodeId}, w ∈ v :: more → g.Leads v w := fun hw => by
    obtain ⟨k, hle, hk⟩ := (mem_cons_iff_place opened).1 hw
    exact h.tracked.leads List.mem_cons_self (getElem?_middle opened more v) hle hk
  have hback : ∀ {w : NodeId}, w ∈ v :: more → g.Leads w v := h.leads_root hs hroot
  have hopen : ∀ {w : NodeId}, w ∈ v :: more → w ∈ opened ++ v :: more :=
    fun hw => List.mem_append_right _ hw
  refine ⟨by simp, ?_, fun w hw => h.tracked.subset (hopen ((h.mem_group hs).1 hw)),
    fun {a b} ha => ?_⟩
  · have hnodup := (List.nodup_append.1 h.tracked.nodup).2.1
    rw [((h.perm hs).cons v).nodup_iff] at hnodup
    exact ((List.perm_append_singleton v block.reverse).trans
      ((List.reverse_perm block).cons v)).nodup_iff.2 hnodup
  · rw [h.mem_group hs] at ha ⊢
    refine ⟨fun hb => ⟨(hback ha).trans (hto hb), (hback hb).trans (hto ha)⟩, ?_⟩
    rintro ⟨hab, hba⟩
    -- What is done does not lead back to an open node.
    have hstay : b ∈ acc.1.done ∨ b ∈ v :: more := by
      clear hba
      induction hab with
      | refl => exact .inr ha
      | tail _ hedge ih =>
        rcases ih with hdone | hin
        · exact .inl (h.tracked.done_out hdone hedge)
        · exact h.stays hs hroot hin hedge
    exact hstay.resolve_left fun hdone =>
      h.tracked.not_done_of_mem (hopen ha) (h.tracked.done_of_leads hdone hba)

/-- A visit that ends at the root of a component leaves open what was open before. -/
theorem Looked.close (h : g.Looked path opened s v (g.successors v) more block j acc)
    (hs : g.Tracked path opened s) (hroot : acc.2 = true) :
    g.Reached path opened s v [] [] (acc.1.close v) := by
  have hcomponent := h.isComponent hs hroot
  have hmem : ∀ {w : NodeId}, w ∈ block.reverse ++ [v] ↔ w ∈ v :: more := h.mem_group hs
  rw [h.close_eq hs hroot]
  generalize block.reverse ++ [v] = group at hcomponent hmem
  have hold : ∀ {k : ℕ} {w : NodeId}, opened[k]? = some w → (opened ++ v :: more)[k]? = some w :=
    fun hk => (List.getElem?_append_left (List.getElem?_eq_some_iff.1 hk).1).trans hk
  have hapart : ∀ {w : NodeId}, w ∈ opened → w ∉ group := fun hw hin =>
    (List.nodup_append.1 h.tracked.nodup).2.2 _ hw _ (hmem.1 hin) rfl
  have hopen : ∀ {w : NodeId}, w ∈ group → w ∈ opened ++ v :: more :=
    fun hw => List.mem_append_right _ (hmem.1 hw)
  set after : ComponentSearch :=
    ⟨group.foldl (fun marks n => (n, Mark.closed) :: marks) acc.1.marks, opened.length, s.aside,
      acc.1.found ++ [group]⟩ with hafter
  have hmark : ∀ x, after.mark? x = if x ∈ group then some .closed else acc.1.mark? x :=
    fun x => lookup_foldl_closed group acc.1.marks x
  have hdone : ∀ {x : NodeId}, x ∈ after.done ↔ x ∈ acc.1.done ∨ x ∈ group := by
    intro x
    unfold ComponentSearch.done
    rw [hafter, List.flatten_append, List.mem_append]
    simp
  have haside : ∀ {w : NodeId}, w ∈ s.aside → w ∈ acc.1.aside ∧ after.mark? w = acc.1.mark? w :=
    fun hw => ⟨by rw [h.aside]; exact List.mem_append_right _ hw,
      (hmark _).trans (if_neg (hapart (hs.mem_opened.2 (.inr hw))))⟩
  have htracked : g.Tracked path opened after := by
    refine ⟨rfl, hs.perm, hs.nodup, hs.subset, fun {k w} hk => ?_, fun {w} => ?_, fun {w} hw => ?_,
      hs.leads, fun {k i w} hw hk hi => ?_, fun {i w x} hw hi hx => ?_, fun {w x} hw hx => ?_,
      fun c hc => ?_, ?_⟩
    · obtain ⟨i, u, hi, hik, hu, hwu⟩ := h.tracked.low (hold hk)
      have hlt := (List.getElem?_eq_some_iff.1 hk).1
      rw [List.getElem?_append_left (by omega)] at hu
      have hin := hapart (List.mem_of_getElem? hk)
      exact ⟨i, u, (hmark w).trans ((if_neg hin).trans hi), hik, hu, hwu⟩
    · rw [hmark, hdone, ← h.tracked.closed_iff]
      by_cases hw : w ∈ group <;> simp [hw]
    · rw [hdone]
      rw [hmark] at hw
      by_cases hin : w ∈ group
      · exact .inr (.inr hin)
      · rw [if_neg hin] at hw
        rcases h.tracked.reached hw with hopen | hclosed
        · rcases List.mem_append.1 hopen with hopen | hopen
          · exact .inl hopen
          · exact absurd (hmem.2 hopen) hin
        · exact .inr (.inl hclosed)
    · obtain ⟨hin, heq⟩ := haside hw
      exact h.tracked.aside_low hin (hold hk) (heq.symm.trans hi)
    · obtain ⟨hin, heq⟩ := haside hw
      rcases h.tracked.aside_out hin (heq.symm.trans hi) hx with hclosed | ⟨k, hik, hk⟩
      · exact .inl (hdone.2 (.inl hclosed))
      · by_cases hlt : k < opened.length
        · rw [List.getElem?_append_left hlt] at hk
          exact .inr ⟨k, hik, hk⟩
        · rw [List.getElem?_append_right (Nat.le_of_not_lt hlt)] at hk
          exact .inl (hdone.2 (.inr (hmem.2 (List.mem_of_getElem? hk))))
    · rcases hdone.1 hw with hclosed | hin
      · exact hdone.2 (.inl (h.tracked.done_out hclosed hx))
      · exact hdone.2 ((h.stays hs hroot (hmem.1 hin) hx).imp_right hmem.2)
    · rcases List.mem_append.1 hc with hc | hc
      · exact h.tracked.components c hc
      · exact List.mem_singleton.1 hc ▸ hcomponent
    · unfold ComponentSearch.done
      rw [hafter, List.flatten_append]
      refine List.Nodup.append h.tracked.done_nodup (by simpa using hcomponent.nodup) ?_
      intro w hclosed hin
      exact h.tracked.not_done_of_mem (hopen (by simpa using hin)) hclosed
  refine ⟨by rwa [List.append_nil], rfl, fun {x} hx => ?_, .inl ⟨?_, rfl⟩⟩
  · rw [hmark, if_neg ?_, h.kept hx]
    intro hin
    -- What has been opened since was not reached before.
    rcases hs.reached hx with hopened | hclosed
    · exact hapart hopened hin
    · refine h.tracked.not_done_of_mem (hopen hin) (h.tracked.closed_iff.1 ?_)
      rw [h.kept hx, hs.closed_iff.2 hclosed]
  · exact hdone.2 (.inr (hmem.2 List.mem_cons_self))

/-- A visit of another node leaves it aside. -/
theorem Looked.putAside (h : g.Looked path opened s v (g.successors v) more block j acc)
    (hroot : acc.2 = false) :
    g.Reached path opened s v (v :: more) (v :: block) (acc.1.putAside v) := by
  have hlt : j < opened.length := by
    refine lt_of_le_of_ne h.low_le fun hj => ?_
    rw [h.isRoot.2 hj] at hroot
    cases hroot
  have hself := getElem?_middle opened more v
  refine ⟨⟨h.tracked.next, ?_, h.tracked.nodup, h.tracked.subset, h.tracked.low,
    h.tracked.closed_iff, h.tracked.reached, fun hu => h.tracked.leads (List.mem_cons_of_mem v hu),
    fun {k i w} hw hk hi => ?_, fun {i w x} hw hi hx => ?_, h.tracked.done_out,
    h.tracked.components, h.tracked.done_nodup⟩, ?_, h.kept, ?_⟩
  · exact h.tracked.perm.trans List.perm_middle.symm
  · rcases List.mem_cons.1 hw with rfl | hw
    · obtain rfl := h.tracked.place_unique hk hself
      obtain rfl : j = i := by simpa using h.low.symm.trans hi
      exact hlt
    · exact h.tracked.aside_low hw hk hi
  · rcases List.mem_cons.1 hw with rfl | hw
    · obtain rfl : j = i := by simpa using h.low.symm.trans hi
      exact h.out x hx
    · exact h.tracked.aside_out hw hi hx
  · show v :: acc.1.aside = _
    rw [h.aside]
    rfl
  · refine .inr ⟨j, opened.length, h.low, hlt.le, hself, fun x hx i hi => ?_⟩
    rcases List.mem_cons.1 hx with rfl | hx
    · exact (by simpa using h.low.symm.trans hi : j = i).le
    · exact h.block_low x hx i hi

end Finishing

/-! ## The whole search -/

/-- A visit reaches its node. -/
theorem exists_reached_visitComponent (hg : g.Coherent) (h : g.Tracked path opened s)
    (hv : s.mark? v = none) (hnode : v ∈ g.nodes) (hlead : ∀ u ∈ path, g.Leads u v)
    (hdepth : g.nodes.length < path.length + depth) :
    ∃ more block, g.Reached path opened s v more block (g.visitComponent depth v s) := by
  induction depth generalizing path opened v s with
  | zero =>
    -- the nodes of the path are different, so there are not that many
    have hnodup := (List.nodup_append.1 ((h.perm.nodup_iff).1 h.nodup)).1
    have hsub : path ⊆ g.nodes := fun u hu => h.subset (h.mem_opened.2 (.inl hu))
    have hle := (List.subperm_of_subset hnodup hsub).length_le
    omega
  | succ depth ih =>
    have hvisited : ∀ x, s.mark? x ≠ none → x ≠ v := fun x hx heq => hx (heq ▸ hv)
    have hlooked : ∀ ws, (∀ w ∈ ws, g.Edge v w) → ∃ more block j, g.Looked path opened s v ws more
        block j (ws.foldl (g.lookAt depth v) (entering v s, true)) := by
      intro ws hws
      induction ws using List.reverseRecOn with
      | nil =>
        refine ⟨[], [], opened.length, h.enter hv hnode hlead, rfl, fun {x} hx => ?_, ?_,
          iff_of_true rfl rfl, nofun, nofun⟩
        · exact (mark?_setMark ..).trans (if_neg (hvisited x hx))
        · rw [← h.next]
          exact (mark?_setMark ..).trans (if_pos rfl)
      | append_singleton ws w ihws =>
        obtain ⟨more, block, j, hlook⟩ := ihws fun u hu => hws u (List.mem_append_left _ hu)
        have hedge := hws w (by simp)
        rw [List.foldl_append, List.foldl_cons, List.foldl_nil]
        generalize ws.foldl (g.lookAt depth v) (entering v s, true) = acc at hlook
        obtain ⟨more', block', hw⟩ : ∃ more' block', g.Reached (v :: path) (opened ++ v :: more)
            acc.1 w more' block'
            (if (acc.1.mark? w).isNone then g.visitComponent depth w acc.1 else acc.1) := by
          cases hmark : acc.1.mark? w with
          | none =>
            have hlead' : ∀ u ∈ v :: path, g.Leads u w := fun u hu => by
              rcases List.mem_cons.1 hu with rfl | hu
              · exact .single hedge
              · exact .tail (hlead u hu) hedge
            exact ih hlook.tracked hmark ((contains_iff g w).1 (hg.contains_target hedge)) hlead'
              (by rw [List.length_cons]; omega)
          | some m => exact ⟨[], [], hlook.tracked.reached_refl (by rw [hmark]; simp)⟩
        obtain ⟨j', hnext⟩ := hlook.compare hvisited hedge hw
        exact ⟨_, _, j', hnext⟩
    obtain ⟨more, block, j, hlook⟩ := hlooked (g.successors v) fun _ hw => hw
    rw [visitComponent_succ]
    generalize (g.successors v).foldl (g.lookAt depth v) (entering v s, true) = acc at hlook
    obtain ⟨s', isRoot⟩ := acc
    cases isRoot with
    | true => exact ⟨_, _, hlook.close h rfl⟩
    | false => exact ⟨_, _, hlook.putAside rfl⟩

/-- The search completes the strongly connected components, and every node is in one of them. -/
theorem components_spec (hg : g.Coherent) : (∀ c ∈ g.components, g.IsComponent c) ∧
    g.components.flatten.Nodup ∧ g.nodes ⊆ g.components.flatten := by
  let visit := fun (s : ComponentSearch) v =>
    if (s.mark? v).isNone then g.visitComponent (g.nodes.length + 1) v s else s
  have hall : ∀ ws ⊆ g.nodes, g.Tracked [] [] (ws.foldl visit ⟨[], 0, [], []⟩) ∧
      ws ⊆ (ws.foldl visit ⟨[], 0, [], []⟩).done := by
    intro ws hws
    induction ws using List.reverseRecOn with
    | nil =>
      refine ⟨⟨rfl, .refl _, .nil, nofun, nofun, ?_, ?_, nofun, nofun, nofun, nofun, nofun, .nil⟩,
        nofun⟩
      · exact iff_of_false nofun nofun
      · exact fun hmark => absurd rfl hmark
    | append_singleton ws w ih =>
      obtain ⟨hws, hw⟩ := List.append_subset.1 hws
      obtain ⟨htracked, hdone⟩ := ih hws
      rw [List.foldl_append, List.foldl_cons, List.foldl_nil]
      generalize ws.foldl visit ⟨[], 0, [], []⟩ = s at htracked hdone
      obtain ⟨more, block, hreached⟩ :
          ∃ more block, g.Reached [] [] s w more block (visit s w) := by
        unfold visit
        cases hmark : s.mark? w with
        | none =>
          exact exists_reached_visitComponent hg htracked hmark (hw (List.mem_singleton_self w))
            nofun (by simp)
        | some m => exact ⟨[], [], htracked.reached_refl (by rw [hmark]; simp)⟩
      obtain rfl : more = [] := hreached.tracked.opened_eq_nil
      have hnow : w ∈ (visit s w).done := by
        rcases hreached.outcome with ⟨hclosed, -⟩ | ⟨-, k, -, -, hk, -⟩
        · exact hclosed
        · cases hk
      refine ⟨hreached.tracked, List.append_subset.2 ⟨fun u hu => ?_, by simpa using hnow⟩⟩
      have hclosed := htracked.closed_iff.2 (hdone hu)
      refine hreached.tracked.closed_iff.1 ?_
      rw [hreached.kept (by rw [hclosed]; simp), hclosed]
  obtain ⟨htracked, hdone⟩ := hall g.nodes (List.Subset.refl _)
  exact ⟨htracked.components, htracked.done_nodup, hdone⟩

/-! ## Cycle groups -/

theorem mem_cycleGroups_iff {c : List NodeId} (hc : c ≠ []) :
    c ∈ g.cycleGroups ↔ c ∈ g.components ∧ g.HoldsCycle c := by
  unfold cycleGroups HoldsCycle Edge
  rw [List.mem_filter]
  refine and_congr_right fun _ => ?_
  match c, hc with
  | [n], _ => simp [mem_successors]
  | _ :: _ :: _, _ => simp

/-- The cycle groups are the components that hold a cycle, and what is in them are the nodes that
lead back to themselves. -/
theorem cycleGroups_spec (hg : g.Coherent) :
    (∀ c ∈ g.cycleGroups, g.IsComponent c ∧ g.HoldsCycle c) ∧ g.cycleGroups.flatten.Nodup ∧
      ∀ n, n ∈ g.cycleGroups.flatten ↔ Relation.TransGen g.Edge n n := by
  obtain ⟨hcomponents, hnodup, hall⟩ := components_spec hg
  have hgroup : ∀ c ∈ g.cycleGroups, g.IsComponent c ∧ g.HoldsCycle c := fun c hc => by
    have hc' := hcomponents c (List.mem_of_mem_filter hc)
    exact ⟨hc', ((mem_cycleGroups_iff hc'.ne_nil).1 hc).2⟩
  have hnodup' : g.cycleGroups.flatten.Nodup := List.nodup_flatten.2
    ⟨fun c hc => (hgroup c hc).1.nodup, (List.nodup_flatten.1 hnodup).2.sublist List.filter_sublist⟩
  refine ⟨hgroup, hnodup', fun n => ⟨fun hn => ?_, fun hn => ?_⟩⟩
  · obtain ⟨c, hc, hmem⟩ := List.mem_flatten.1 hn
    obtain ⟨hcomponent, hcycle⟩ := hgroup c hc
    exact (hcomponent.holdsCycle_iff hmem).1 hcycle
  · obtain ⟨w, hedge, -⟩ := Relation.TransGen.head'_iff.1 hn
    have hnode : n ∈ g.nodes := (contains_iff g n).1 (contains_of_mem_successors hedge)
    obtain ⟨c, hc, hmem⟩ := List.mem_flatten.1 (hall hnode)
    have hcomponent := hcomponents c hc
    exact List.mem_flatten.2 ⟨c, (mem_cycleGroups_iff hcomponent.ne_nil).2
      ⟨hc, (hcomponent.holdsCycle_iff hmem).2 hn⟩, hmem⟩

/-- Two components with a common member have the same members. -/
theorem IsComponent.perm {c c' : List NodeId} (hc : g.IsComponent c) (hc' : g.IsComponent c')
    (hv : v ∈ c) (hv' : v ∈ c') : c.Perm c' :=
  (List.perm_ext_iff_of_nodup hc.nodup hc'.nodup).2
    fun _ => (hc.mem_iff hv).trans (hc'.mem_iff hv').symm

/-- Every component that holds a cycle is one of the cycle groups, and only one. -/
theorem existsUnique_cycleGroup (hg : g.Coherent) {c : List NodeId} (hc : g.IsComponent c)
    (hcycle : g.HoldsCycle c) : ∃! i : ℕ, ∃ c', g.cycleGroups[i]? = some c' ∧ c'.Perm c := by
  obtain ⟨hgroup, hnodup, hall⟩ := cycleGroups_spec hg
  obtain ⟨v, hv⟩ := List.exists_mem_of_ne_nil c hc.ne_nil
  obtain ⟨c', hc', hv'⟩ := List.mem_flatten.1 ((hall v).2 ((hc.holdsCycle_iff hv).1 hcycle))
  obtain ⟨i, hi⟩ := List.mem_iff_getElem?.1 hc'
  refine ⟨i, ⟨c', hi, (hgroup c' hc').1.perm hc hv' hv⟩, ?_⟩
  rintro k ⟨c'', hk, hperm⟩
  -- Groups at two places have no member in common.
  by_contra hne
  obtain ⟨hi', rfl⟩ := List.getElem?_eq_some_iff.1 hi
  obtain ⟨hk', rfl⟩ := List.getElem?_eq_some_iff.1 hk
  have hapart := List.pairwise_iff_getElem.1 (List.nodup_flatten.1 hnodup).2
  rcases Nat.lt_or_gt_of_ne hne with hlt | hlt
  · exact hapart k i hk' hi' hlt (hperm.mem_iff.2 hv) hv'
  · exact hapart i k hi' hk' hlt hv' (hperm.mem_iff.2 hv)

end Rollout.Digraph
