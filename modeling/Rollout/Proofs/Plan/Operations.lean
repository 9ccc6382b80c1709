import Rollout.Proofs.Plan.Extension
import Rollout.Proofs.Plan.Skeleton

/-!
# Plans made by operations

Anybody may put a plan together: from an empty plan, on whatever context, by adding nodes and
dependencies, by grouping nodes, and by taking nodes out.  `Made` are the plans that come about in
this way, with or without a deployment that describes them.  The one thing all of them have in
common is that their nodes stand at their own places.
-/

namespace Rollout.Plan

variable {p p' : Plan} {d : Deployment}

/-- The plans that the operations make.  An action that is refused leaves what it has done; every
other operation that is refused leaves the plan as it was. -/
inductive Made : Plan → Prop where
  | empty (goal : Goal) (context : Context) : Made (.empty goal context)
  | addElement {p : Plan} (h : Made p) (e : Element) (goal : Goal) : Made (p.addElement e goal).1
  | addWork {p : Plan} (h : Made p) (w : Work) (goal : Goal) : Made (p.addWork w goal).1
  | addAction {p : Plan} (h : Made p) (a : Action) : Made (p.addAction a).1
  | addDependency {p p' : Plan} (h : Made p) {a b : NodeId} {k : EdgeKind}
      (hadd : p.addDependency a b k = .ok p') : Made p'
  | setGroup {p p' : Plan} (h : Made p) {n l : NodeId} (hgroup : p.setGroup n l = .ok p') : Made p'
  | setCriteria {p p' : Plan} (h : Made p) {n : NodeId} {c : Criteria}
      (hset : Deployment.setCriteria p n c = .ok p') : Made p'
  | removeNode {p p' : Plan} (h : Made p) {n : NodeId} (hremove : p.removeNode n = .ok p') : Made p'

/-! ## What the operations keep -/

/-- A dependency changes the graph alone. -/
theorem addDependency_same {a b : NodeId} {k : EdgeKind} (h : p.addDependency a b k = .ok p') :
    p'.nodes = p.nodes ∧ p'.elementNodes = p.elementNodes := by
  unfold Plan.addDependency at h
  obtain ⟨edge, -, h⟩ := bind_eq_ok.1 h
  cases edge with
  | none =>
    obtain rfl := Except.ok.inj h
    exact ⟨rfl, rfl⟩
  | some edge =>
    obtain rfl := Except.ok.inj h
    exact ⟨rfl, rfl⟩

theorem body?_settled (c : Criteria) (node : Node) : (settled c node).body? = node.body? := by
  unfold settled Node.body?
  cases hrole : node.role with
  | work w => simp [hrole]
  | element e criteria => cases criteria <;> simp [hrole]

/-- Criteria keep nodes in their places. -/
theorem Placed.withCriteria (h : p.Placed) (n : NodeId) (c : Criteria) :
    (Deployment.withCriteria p n c).Placed where
  id_eq hnode := by
    obtain ⟨node, hnode, hid, -⟩ := node_of_withCriteria hnode
    rw [hid]
    exact h.id_eq hnode
  bodiless {e m} hn := by
    obtain ⟨node, hnode, hbody⟩ := h.bodiless hn
    refine ⟨_, node_withCriteria.2 ⟨node, hnode, rfl⟩, ?_⟩
    split
    · rw [body?_settled, hbody]
    · exact hbody

/-- In a plan that was made by the operations nodes are in their places. -/
theorem Made.placed (h : p.Made) : p.Placed := by
  induction h with
  | empty goal context => exact ⟨nofun, nofun⟩
  | addElement _ e goal ih => exact ih.addElement e goal
  | addWork _ w goal ih => exact ih.addWork w goal
  | addAction _ a ih => exact ih.addAction a
  | addDependency _ hadd ih =>
    exact ih.of_same (addDependency_same hadd).1 (addDependency_same hadd).2
  | setGroup _ hgroup ih => exact ih.of_same (setGroup_same hgroup).1 (setGroup_same hgroup).2
  | @setCriteria _ _ _ n c hset ih => exact (setCriteria_eq_ok_iff.1 hset).2 ▸ ih.withCriteria n c
  | removeNode _ hremove ih =>
    exact ih.of_same (removeNode_same hremove).1 (removeNode_same hremove).2

/-! ## Deployments -/

/-- Elements are added by operations. -/
theorem Made.addElements (h : p.Made) (goal : Goal) (es : List Element) :
    (Deployment.addElements goal es p).Made :=
  List.foldlRecOn (motive := Made) es _ h fun _ hp e _ => hp.addElement e goal

/-- An action is added by an operation. -/
theorem Made.tryAction (h : p.Made) {a : Action} {n : NodeId}
    (hadd : Deployment.addAction p a = .ok (p', n)) : p'.Made := by
  have hmade := h.addAction a
  unfold Deployment.addAction at hadd
  split at hadd
  next p₁ n₁ heq =>
    rw [heq] at hmade
    obtain ⟨rfl, -⟩ := Prod.mk.inj (Except.ok.inj hadd)
    exact hmade
  next => cases hadd

/-- What a fold makes is made by the operations if each of its steps is. -/
theorem Made.foldlM (h : p.Made) {α : Type} {f : Plan → α → Except Fault Plan} {xs : List α}
    (hstep : ∀ {p p' : Plan} {x : α}, p.Made → f p x = .ok p' → p'.Made)
    (hfold : xs.foldlM f p = .ok p') : p'.Made := by
  induction xs generalizing p with
  | nil => exact Except.ok.inj hfold ▸ h
  | cons x xs ih =>
    rw [List.foldlM_cons] at hfold
    obtain ⟨p₁, hone, hrest⟩ := bind_eq_ok.1 hfold
    exact ih (hstep h hone) hrest

theorem Made.tryFirst (h : p.Made) {a : Action}
    (hadd : Prod.fst <$> Deployment.addAction p a = .ok p') : p'.Made := by
  cases hone : Deployment.addAction p a with
  | error f =>
    rw [hone] at hadd
    cases hadd
  | ok added =>
    rw [hone] at hadd
    exact Except.ok.inj hadd ▸ h.tryAction hone

/-- A series is added by operations. -/
theorem Made.addSeries (h : p.Made) {before : Option NodeId} {as : List Action}
    (hadd : Deployment.addSeries before as p = .ok p') : p'.Made := by
  induction as generalizing p before with
  | nil => exact Except.ok.inj hadd ▸ h
  | cons a as ih =>
    unfold Deployment.addSeries at hadd
    obtain ⟨⟨p₁, n⟩, hone, hadd⟩ := bind_eq_ok.1 hadd
    have hmade := h.tryAction hone
    cases before with
    | none => exact ih hmade hadd
    | some b =>
      obtain ⟨p₂, hlink, hrest⟩ := bind_eq_ok.1 hadd
      exact ih (hmade.addDependency hlink) hrest

/-- The dependencies of handles are added by operations. -/
theorem Made.addHandles (h : p.Made) {n : NodeId} {goal : Goal} {e : Element} {c : Criteria}
    {hs : List ElementId} (hadd : Deployment.addHandles d n goal e c hs p = .ok p') : p'.Made := by
  induction hs generalizing p with
  | nil => exact Except.ok.inj hadd ▸ h
  | cons handle hs ih =>
    unfold Deployment.addHandles at hadd
    split at hadd
    · cases hadd
    next target _ =>
      obtain ⟨p₁, hlink, hrest⟩ := bind_eq_ok.1 hadd
      exact ih ((h.addElement target goal).addDependency hlink) hrest

/-- A node is resolved by operations. -/
theorem Made.resolve (h : p.Made) {n : NodeId} (hresolve : Deployment.resolve d n p = .ok p') :
    p'.Made := by
  unfold Deployment.resolve at hresolve
  split at hresolve
  · split at hresolve
    · exact Except.ok.inj hresolve ▸ h
    -- the handles come first, and then the criteria, as they do where the plan is built
    next c _ =>
      cases hr : c.relation with
      | none =>
        simp only [hr] at hresolve
        exact h.setCriteria hresolve
      | some r =>
        simp only [hr] at hresolve
        obtain ⟨p₁, hhandles, hset⟩ := bind_eq_ok.1 hresolve
        exact (h.addHandles hhandles).setCriteria hset
  · exact Except.ok.inj hresolve ▸ h

/-- Nodes are resolved one after another by operations. -/
theorem Made.resolveFrom (h : p.Made) {count : Nat} {n : NodeId}
    (hresolve : Deployment.resolveFrom d count n p = .ok p') : p'.Made := by
  induction count generalizing p n with
  | zero => exact Except.ok.inj hresolve ▸ h
  | succ count ih =>
    unfold Deployment.resolveFrom at hresolve
    split at hresolve
    · obtain ⟨p₁, hone, hrest⟩ := bind_eq_ok.1 hresolve
      exact ih (h.resolve hone) hrest
    · exact Except.ok.inj hresolve ▸ h

/-- The plan of a deployment is made by operations. -/
theorem made_of_plan (h : d.plan = .ok p) : p.Made := by
  unfold Deployment.plan at h
  obtain ⟨base, hskeleton, hresolve⟩ := bind_eq_ok.1 h
  unfold Deployment.skeleton at hskeleton
  obtain ⟨-, -, hskeleton⟩ := bind_eq_ok.1 hskeleton
  obtain ⟨p₁, hactions, hseries⟩ := bind_eq_ok.1 hskeleton
  have helements := ((Made.empty d.goal {}).addElements .deployed d.present).addElements .destroyed
    d.deleted
  have hskeleton := (helements.foldlM (fun hp hadd => hp.tryFirst hadd) hactions).foldlM
    (fun hp hadd => hp.addSeries hadd) hseries
  exact hskeleton.resolveFrom hresolve

end Rollout.Plan
