import Rollout.Proofs.Plan.Resolution

/-!
# The goals of elements

The elements that a deployment lists get their nodes first, each with the goal of its list.  An
element that has a node keeps it, so no action and no relation ever gives such an element another
goal (`gives_of_plan`).
-/

namespace Rollout.Plan

variable {p p' : Plan} {d : Deployment} {e : ElementId} {goal : Goal} {es : List Element}

/-- The element has a node, and the node has the goal. -/
def Gives (p : Plan) (e : ElementId) (goal : Goal) : Prop :=
  ∃ n node, p.nodeOf? e = some n ∧ p.nodes[n]? = some node ∧ node.goal = goal

/-- An element keeps its goal while the plan grows. -/
theorem Gives.grows (h : p.Gives e goal) (hp : p.Grows p') : p'.Gives e goal := by
  obtain ⟨n, node, hn, hnode, hgoal⟩ := h
  obtain ⟨node', hnode', hsame, -⟩ := hp.node hnode
  exact ⟨n, node', hp.nodeOf? hn, hnode', hsame.trans hgoal⟩

/-! ## Lists of elements -/

/-- A new element gets the goal that it is added with. -/
theorem gives_withElement {el : Element} (h : p.nodeOf? el.id = none) (goal : Goal) :
    (p.withElement el goal).Gives el.id goal :=
  ⟨p.nodes.length, _, (nodeOf?_withElement h goal el.id).trans (if_pos rfl),
    getElem?_concat.2 (.inr ⟨rfl, rfl⟩), rfl⟩

/-- Adding an element gives a node to no other one. -/
theorem nodeOf?_addElement_of_ne {el : Element} (goal : Goal) (hne : el.id ≠ e)
    (h : p.nodeOf? e = none) : (p.addElement el goal).1.nodeOf? e = none := by
  cases hel : p.nodeOf? el.id with
  | some n =>
    rw [addElement_of_some hel]
    exact h
  | none =>
    rw [addElement_of_none hel, nodeOf?_withElement hel, if_neg hne.symm]
    exact h

/-- Elements of other names do not make it known. -/
theorem nodeOf?_addElements_of_ne (goal : Goal) (hne : ∀ el ∈ es, el.id ≠ e)
    (h : p.nodeOf? e = none) : (Deployment.addElements goal es p).nodeOf? e = none :=
  List.foldlRecOn (motive := fun q : Plan => q.nodeOf? e = none) es _ h
    fun _ hq el hel => nodeOf?_addElement_of_ne goal (hne el hel) hq

theorem grows_addElements (goal : Goal) (es : List Element) (p : Plan) :
    p.Grows (Deployment.addElements goal es p) :=
  List.foldlRecOn (motive := p.Grows) es _ (.refl p)
    fun q hq el _ => hq.trans (grows_addElement q el goal)

/-- Elements that no other goal has been given to have the one of their list. -/
theorem gives_addElements (h : ∀ el ∈ es, p.nodeOf? el.id = none ∨ p.Gives el.id goal) :
    ∀ el ∈ es, (Deployment.addElements goal es p).Gives el.id goal := by
  induction es generalizing p with
  | nil => exact nofun
  | cons first es ih =>
    have hgrows := grows_addElement p first goal
    have hfirst : (p.addElement first goal).1.Gives first.id goal := by
      rcases h first List.mem_cons_self with hnone | hgives
      · rw [addElement_of_none hnone]
        exact gives_withElement hnone goal
      · exact hgives.grows hgrows
    intro el hel
    rcases List.mem_cons.1 hel with rfl | hel
    · exact hfirst.grows (grows_addElements goal es _)
    · refine ih (fun el hel => ?_) el hel
      rcases h el (List.mem_cons_of_mem first hel) with hnone | hgives
      · -- An element may be listed twice.
        by_cases heq : first.id = el.id
        · exact .inr (heq ▸ hfirst)
        · exact .inl (nodeOf?_addElement_of_ne goal heq hnone)
      · exact .inr (hgives.grows hgrows)

/-! ## Deployments -/

/-- In a consistent deployment no element is both to go and to be there. -/
theorem ne_of_ensureConsistent (h : d.ensureConsistent = .ok ()) {el el' : Element}
    (hdeleted : el ∈ d.deleted) (hpresent : el' ∈ d.present) : el'.id ≠ el.id := by
  unfold Deployment.ensureConsistent at h
  cases hfind : d.deleted.find? fun e => d.present.any (·.id == e.id) with
  | some both =>
    rw [hfind] at h
    cases h
  | none =>
    intro heq
    refine List.find?_eq_none.1 hfind el hdeleted (List.any_eq_true.2 ⟨el', hpresent, ?_⟩)
    exact beq_iff_eq.2 heq

/-- A plan grows out of the one that has only elements. -/
theorem grows_of_plan (h : d.plan = .ok p) : (ground d).Grows p := by
  obtain ⟨base, hskeleton, hresolving⟩ := resolving_of_plan h
  obtain ⟨-, hground, -⟩ := skeleton_spec hskeleton
  exact hground.trans hresolving.keeps.toGrows

/-- Whoever builds a plan attaches no tracker to it. -/
theorem unattached_of_plan (h : d.plan = .ok p) : p.context.attached = false := by
  have hpresent := grows_addElements .deployed d.present (Plan.empty d.goal {})
  have hground : (Plan.empty d.goal {}).Grows (ground d) :=
    hpresent.trans (grows_addElements .destroyed d.deleted _)
  exact (hground.trans (grows_of_plan h)).attached

/-- The elements that are to be there have nodes that are to be deployed, and those that are to go
have nodes that are to be destroyed, whatever the actions and the relations ask for, and whatever
the goal of the plan is. -/
theorem gives_of_plan (h : d.plan = .ok p) : (∀ el ∈ d.present, p.Gives el.id .deployed) ∧
    ∀ el ∈ d.deleted, p.Gives el.id .destroyed := by
  have hgrows := grows_of_plan h
  obtain ⟨base, hskeleton, -⟩ := resolving_of_plan h
  unfold Deployment.skeleton at hskeleton
  obtain ⟨⟨⟩, hconsistent, -⟩ := bind_eq_ok.1 hskeleton
  have hnone : ∀ e, (Plan.empty d.goal {}).nodeOf? e = none := fun _ => rfl
  refine ⟨fun el hel => ?_, fun el hel => ?_⟩
  · have hpresent : (Deployment.addElements .deployed d.present (Plan.empty d.goal {})).Gives
        el.id .deployed := gives_addElements (fun el _ => .inl (hnone el.id)) el hel
    exact (hpresent.grows (grows_addElements .destroyed d.deleted _)).grows hgrows
  · -- None of them has got a node as an element that is to be there.
    refine (gives_addElements (fun el hel => .inl ?_) el hel).grows hgrows
    exact nodeOf?_addElements_of_ne .deployed
      (fun el' hel' => ne_of_ensureConsistent hconsistent hel hel') (hnone el.id)

end Rollout.Plan
