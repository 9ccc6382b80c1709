import Rollout.Proofs.Plan.Drawing

/-!
# The elements of a plan

A deployment may list one element many times, with one goal or another.  The first entry counts:
the `roster` of a plan, its elements in the order of their nodes, consists of the first entries of
what has been listed (`firsts`).  Every node is labelled for what it stands for.
-/

namespace Rollout

/-! ## Lists of elements -/

/-- The first entry of each element. -/
def firsts : List (Element × Goal) → List (Element × Goal)
  | [] => []
  | x :: xs => x :: (firsts xs).filter fun y => y.1.id != x.1.id

/-- The first of its name is the one that is found by its name. -/
theorem mem_firsts_iff {xs : List (Element × Goal)} {x : Element × Goal} :
    x ∈ firsts xs ↔ xs.find? (·.1.id == x.1.id) = some x := by
  induction xs with
  | nil => simp [firsts]
  | cons y ys ih =>
    rw [firsts, List.mem_cons, List.mem_filter, ih, List.find?_cons]
    by_cases hid : y.1.id = x.1.id
    · simp [hid, eq_comm]
    · have hbeq : (y.1.id == x.1.id) = false := by simpa using hid
      have hne : x ≠ y := fun h => hid (by rw [h])
      simp [hbeq, hne, Ne.symm hid]

/-- An element that is listed again changes nothing. -/
theorem firsts_concat (xs : List (Element × Goal)) (x : Element × Goal) :
    firsts (xs ++ [x]) = if xs.any (·.1.id == x.1.id) then firsts xs else firsts xs ++ [x] := by
  induction xs with
  | nil => rfl
  | cons y ys ih =>
    rw [List.cons_append, firsts, ih, List.any_cons]
    by_cases hid : y.1.id = x.1.id
    · have hdrop : [x].filter (fun z => z.1.id != y.1.id) = [] := by simp [hid]
      have hbeq : (y.1.id == x.1.id) = true := by simpa using hid
      rw [hbeq, Bool.true_or, if_pos rfl, firsts]
      split
      · rfl
      · rw [List.filter_append, hdrop, List.append_nil]
    · -- the head does not shadow the new one, so both filters let it pass
      have hkeep : [x].filter (fun z => z.1.id != y.1.id) = [x] := by simp [Ne.symm hid]
      have hbeq : (y.1.id == x.1.id) = false := by simpa using hid
      rw [hbeq, Bool.false_or]
      split
      · rw [firsts]
      · rw [List.filter_append, hkeep, firsts, List.cons_append]

namespace Deployment

/-- What an action says of elements: those that it changes, each with the goal of its change. -/
def listedBy (a : Action) : List (Element × Goal) :=
  a.changes.map fun c => (c.element, c.kind.goal)

/-- The elements in the order in which a deployment lists them, each with the goal that its list, or
its change, gives it. -/
def listed (d : Deployment) : List (Element × Goal) :=
  d.present.map (·, .deployed) ++ d.deleted.map (·, .destroyed) ++ d.allActions.flatMap listedBy

/-- The elements that are listed are those that are mentioned. -/
theorem map_fst_listed (d : Deployment) : d.listed.map (·.1) = d.mentioned := by
  unfold listed mentioned listedBy
  simp [Function.comp_def, List.map_flatMap]

end Deployment

namespace Plan

variable {p p' : Plan} {es : List (Element × Goal)}

/-! ## The elements of a plan -/

/-- The elements of a plan in the order of their nodes, each with the goal of its node. -/
def roster (p : Plan) : List (Element × Goal) :=
  p.nodes.filterMap fun node => node.element?.map (·, node.goal)

/-- The roster has the elements of the nodes, with their goals. -/
theorem mem_roster_iff {x : Element × Goal} : x ∈ p.roster ↔
    ∃ (n : NodeId) (node : Node), p.nodes[n]? = some node ∧ node.element? = some x.1 ∧
      node.goal = x.2 := by
  unfold roster
  rw [List.mem_filterMap]
  constructor
  · rintro ⟨node, hnode, hx⟩
    obtain ⟨n, hn⟩ := List.mem_iff_getElem?.1 hnode
    obtain ⟨el, hel, rfl⟩ := Option.map_eq_some_iff.1 hx
    exact ⟨n, node, hn, hel, rfl⟩
  · rintro ⟨n, node, hn, hel, hgoal⟩
    refine ⟨node, List.mem_of_getElem? hn, ?_⟩
    rw [hel, hgoal]
    rfl

theorem roster_congr (h : p'.nodes = p.nodes) : p'.roster = p.roster := by
  unfold roster
  rw [h]

theorem roster_addWork (p : Plan) (w : Work) (goal : Goal) :
    (p.addWork w goal).1.roster = p.roster := by
  show (p.nodes ++ [_]).filterMap _ = _
  rw [List.filterMap_append]
  exact List.append_nil _

/-- An element has a node if it is in the roster. -/
theorem Sound.nodeOf?_isSome_iff (hp : p.Sound) (e : ElementId) :
    (p.nodeOf? e).isSome = true ↔ p.roster.any (·.1.id == e) = true := by
  rw [Option.isSome_iff_exists, List.any_eq_true]
  constructor
  · rintro ⟨n, hn⟩
    obtain ⟨node, el, hnode, hel, hid⟩ := hp.nodeOf?_eq_some_iff.1 hn
    exact ⟨(el, node.goal), mem_roster_iff.2 ⟨n, node, hnode, hel, rfl⟩, beq_iff_eq.2 hid⟩
  · rintro ⟨x, hx, hid⟩
    obtain ⟨n, node, hnode, hel, -⟩ := mem_roster_iff.1 hx
    exact ⟨n, hp.nodeOf?_eq_some_iff.2 ⟨node, x.1, hnode, hel, beq_iff_eq.1 hid⟩⟩

/-- Every name that is listed has a first one. -/
theorem any_firsts (xs : List (Element × Goal)) (e : ElementId) :
    (firsts xs).any (·.1.id == e) = xs.any (·.1.id == e) := by
  rw [Bool.eq_iff_iff, List.any_eq_true, List.any_eq_true]
  constructor
  · rintro ⟨x, hx, hid⟩
    exact ⟨x, List.mem_of_find?_eq_some (mem_firsts_iff.1 hx), hid⟩
  · rintro ⟨x, hx, hid⟩
    obtain ⟨y, hy⟩ := Option.isSome_iff_exists.1
      (List.find?_isSome.2 ⟨x, hx, hid⟩ : (xs.find? (·.1.id == e)).isSome = true)
    have hyid : y.1.id = e := by simpa using List.find?_some hy
    exact ⟨y, mem_firsts_iff.2 (by rw [hyid]; exact hy), by simpa using hyid⟩

/-- Adding an element lists it. -/
theorem Sound.roster_addElement (hp : p.Sound) (h : p.roster = firsts es) (e : Element)
    (goal : Goal) : (p.addElement e goal).1.roster = firsts (es ++ [(e, goal)]) := by
  have hany := hp.nodeOf?_isSome_iff e.id
  rw [h, any_firsts] at hany
  rw [firsts_concat]
  cases hn : p.nodeOf? e.id with
  | some n =>
    rw [addElement_of_some hn, if_pos (hany.1 (by rw [hn]; rfl)), h]
  | none =>
    rw [addElement_of_none hn, if_neg (fun hin => ?_)]
    · show (p.nodes ++ [_]).filterMap _ = _
      rw [List.filterMap_append, ← h]
      rfl
    · have hsome := hany.2 hin
      rw [hn] at hsome
      cases hsome

/-! ## Labels -/

/-- Every node is labelled for what it stands for; work is numbered in order. -/
structure Labelled (p : Plan) : Prop where
  element : ∀ {node : Node} {el : Element}, node ∈ p.nodes → node.element? = some el →
    node.label = "E:" ++ el.id
  work : p.works.map (·.label) = (List.range p.nextWork).map fun i => "W:" ++ toString i

theorem Labelled.of_alike (h : p.Labelled) (hp : p'.Alike p) : p'.Labelled := by
  refine ⟨fun hnode hel => h.element (hp.nodes ▸ hnode) hel, ?_⟩
  unfold works
  rw [hp.nodes, hp.nextWork]
  exact h.work

/-- A new element is labelled with its name. -/
theorem Labelled.addElement (h : p.Labelled) (e : Element) (goal : Goal) :
    (p.addElement e goal).1.Labelled := by
  have hworks := works_addElement p e goal
  cases hn : p.nodeOf? e.id with
  | some n =>
    rw [addElement_of_some hn]
    exact h
  | none =>
    rw [addElement_of_none hn] at hworks ⊢
    refine ⟨fun hnode hel => ?_, ?_⟩
    · rcases List.mem_append.1 hnode with hnode | hnode
      · exact h.element hnode hel
      · obtain rfl := List.mem_singleton.1 hnode
        obtain rfl := Option.some.inj hel
        rfl
    · rw [hworks]
      exact h.work

/-- New work is labelled with its number. -/
theorem Labelled.addWork (h : p.Labelled) (w : Work) (goal : Goal) :
    (p.addWork w goal).1.Labelled := by
  refine ⟨fun hnode hel => ?_, ?_⟩
  · rcases List.mem_append.1 hnode with hnode | hnode
    · exact h.element hnode hel
    · obtain rfl := List.mem_singleton.1 hnode
      cases hel
  · rw [works_addWork, List.map_append, h.work]
    show _ = (List.range (p.nextWork + 1)).map _
    rw [List.range_succ, List.map_append]
    rfl

theorem label_settled (c : Criteria) (node : Node) : (settled c node).label = node.label := by
  unfold settled
  cases node.role with
  | work w => rfl
  | element e criteria => cases criteria <;> rfl

/-- Criteria leave labels alone. -/
theorem Labelled.withCriteria (h : p.Labelled) (n : NodeId) (c : Criteria) :
    (Deployment.withCriteria p n c).Labelled := by
  refine ⟨fun {node el} hnode hel => ?_, ?_⟩
  · obtain ⟨m, hm⟩ := List.mem_iff_getElem?.1 hnode
    obtain ⟨old, hold, rfl⟩ := node_withCriteria.1 hm
    rw [(settled_if_same c old m n).2.2] at hel
    have hlabel := h.element (List.mem_of_getElem? hold) hel
    split
    · rw [label_settled, hlabel]
    · exact hlabel
  · rw [works_withCriteria]
    exact h.work

end Plan

end Rollout
