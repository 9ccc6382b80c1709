import Rollout.PlanFile.Deployment
import Rollout.Proofs.Plan.Goals

/-!
# The elements of a plan file

The deployment of a plan file lists every element under what its section says is to happen to it, so
that the node of the element has the goal that this comes to (`gives_of_deployment`).
-/

namespace Rollout

/-- A traversal that succeeds is one of steps that do. -/
theorem mapM_eq_ok_iff {ε α β : Type} {f : α → Except ε β} {xs : List α} {ys : List β} :
    xs.mapM f = .ok ys ↔ List.Forall₂ (fun x y => f x = .ok y) xs ys := by
  induction xs generalizing ys with
  | nil =>
    rw [List.forall₂_nil_left_iff]
    exact ⟨fun h => (Except.ok.inj h).symm, fun h => congrArg Except.ok h.symm⟩
  | cons x xs ih =>
    rw [List.mapM_cons, bind_eq_ok, List.forall₂_cons_left_iff]
    constructor
    · rintro ⟨y, hy, h⟩
      obtain ⟨rest, hrest, h⟩ := bind_eq_ok.1 h
      exact ⟨y, rest, hy, ih.1 hrest, (Except.ok.inj h).symm⟩
    · rintro ⟨y, rest, hy, hrest, rfl⟩
      exact ⟨y, hy, bind_eq_ok.2 ⟨rest, ih.2 hrest, rfl⟩⟩

/-- What the results of a traversal show is what the members they come from show. -/
theorem map_of_mapM {ε α β γ : Type} {f : α → Except ε β} {g : β → γ} {h : α → γ} {xs : List α}
    {ys : List β} (hmap : xs.mapM f = .ok ys) (hf : ∀ x y, f x = .ok y → g y = h x) :
    ys.map g = xs.map h := by
  rw [mapM_eq_ok_iff] at hmap
  induction hmap with
  | nil => rfl
  | cons hxy _ ih => rw [List.map_cons, List.map_cons, hf _ _ hxy, ih]

/-- The goal of an element that this is to happen to. -/
def Fate.goal : Fate → Goal
  | added | common => .deployed
  | deleted => .destroyed

namespace PlanFile

variable {f : PlanFile} {d : Deployment} {p : Plan} {es : List (Fate × Element)}
  {judge : Pattern.Judge}

/-- What a section makes, if its pattern can be read. -/
theorem elementOf_eq {place : Nat} {id : String} {s : ElementSection} {el : Element}
    (h : elementOf judge place id s = .ok el) : el =
      { id
        component := s.component.getD "shell"
        relation := fun _ =>
          if s.dependsOn.isEmpty then none else some (Relation.dependsOn id s.dependsOn)
        check := if s.readyCommand.isSome then some place else none } := by
  unfold elementOf at h
  cases hpattern : s.readyPattern with
  | none =>
    rw [hpattern] at h
    exact (Except.ok.inj h).symm
  | some pattern =>
    rw [hpattern] at h
    obtain ⟨_, -, h⟩ := bind_eq_ok.1 h
    exact (Except.ok.inj h).symm

theorem id_of_elementOf {place : Nat} {id : String} {s : ElementSection} {el : Element}
    (h : elementOf judge place id s = .ok el) : el.id = id := by
  rw [elementOf_eq h]

/-- Every section makes an element, in order. -/
theorem placedElements_eq (h : f.placedElements judge = .ok es) :
    es.map (fun e => (e.2.id, e.1)) = f.elements.map fun e => (e.1, e.2.fate) := by
  have hmap : es.map (fun e => (e.2.id, e.1)) =
      f.elements.zipIdx.map fun e => (e.1.1, e.1.2.fate) := by
    refine map_of_mapM h fun x y hxy => ?_
    obtain ⟨el, hel, hxy⟩ := bind_eq_ok.1 hxy
    rw [← Except.ok.inj hxy, id_of_elementOf hel]
  rw [hmap]
  conv_rhs => rw [← List.zipIdx_map_fst 0 f.elements, List.map_map]
  rfl

/-- Every element is listed under what is to happen to it. -/
theorem listed_of_deployment (h : f.deployment judge = .ok d) {id : String} {s : ElementSection}
    (hs : (id, s) ∈ f.elements) : ∃ el, el.id = id ∧
      match s.fate.goal with
      | .deployed => el ∈ d.present
      | .destroyed => el ∈ d.deleted := by
  unfold deployment at h
  obtain ⟨es, hes, h⟩ := bind_eq_ok.1 h
  obtain ⟨actions, -, h⟩ := bind_eq_ok.1 h
  obtain ⟨series, -, h⟩ := bind_eq_ok.1 h
  obtain rfl := Except.ok.inj h
  have hmem : (id, s.fate) ∈ es.map fun e => (e.2.id, e.1) := by
    rw [placedElements_eq hes]
    exact List.mem_map_of_mem hs
  obtain ⟨⟨fate, el⟩, hel, heq⟩ := List.mem_map.1 hmem
  obtain ⟨hid, hfate⟩ := Prod.mk.inj heq
  refine ⟨el, hid, ?_⟩
  -- the three lists of the diff are the elements of the three fates
  have hlisted : el ∈ (es.filter (·.1 = s.fate)).map (·.2) :=
    List.mem_map.2 ⟨(fate, el), List.mem_filter.2 ⟨hel, decide_eq_true hfate⟩, rfl⟩
  cases hcase : s.fate with
  | added =>
    rw [hcase] at hlisted
    exact List.mem_append_left _ hlisted
  | common =>
    rw [hcase] at hlisted
    exact List.mem_append_right _ hlisted
  | deleted =>
    rw [hcase] at hlisted
    exact hlisted

/-- The node of an element has the goal of its section, whatever the goal of the plan is. -/
theorem gives_of_deployment (h : f.deployment judge = .ok d) {goal : Goal}
    (hplan : Deployment.plan { d with goal } = .ok p) {id : String} {s : ElementSection}
    (hs : (id, s) ∈ f.elements) : p.Gives id s.fate.goal := by
  obtain ⟨el, rfl, hlisted⟩ := listed_of_deployment h hs
  obtain ⟨hpresent, hdeleted⟩ := Plan.gives_of_plan hplan
  cases hgoal : s.fate.goal with
  | deployed =>
    rw [hgoal] at hlisted
    exact hpresent el hlisted
  | destroyed =>
    rw [hgoal] at hlisted
    exact hdeleted el hlisted

end PlanFile

end Rollout
