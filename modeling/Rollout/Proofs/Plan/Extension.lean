import Rollout.Proofs.Plan.Growth

/-!
# Extended plans

A plan that has been built may be extended by hand, with pieces of work and with further actions.
Nobody vouches for such a plan, but its nodes still stand at their own places, and those that
elements have been given stand for elements.
-/

namespace Rollout.Plan

variable {p p' : Plan}

/-- A plan with more work and more actions.  An action that is refused leaves what it has done. -/
inductive Extends (p : Plan) : Plan → Prop where
  | refl : Extends p p
  | addWork {p' : Plan} (h : Extends p p') (w : Work) (goal : Goal) : Extends p (p'.addWork w goal).1
  | addAction {p' : Plan} (h : Extends p p') (a : Action) : Extends p (p'.addAction a).1

/-- Nodes stand at their own places, and the node of an element has no body. -/
structure Placed (p : Plan) : Prop where
  id_eq : ∀ {n : NodeId} {node : Node}, p.nodes[n]? = some node → node.id = n
  bodiless : ∀ {e n}, p.nodeOf? e = some n → ∃ node, p.nodes[n]? = some node ∧ node.body? = none

/-- In a sound plan nodes are numbered by their places, and elements have no bodies. -/
theorem Sound.placed (hp : p.Sound) : p.Placed where
  id_eq := hp.id_eq
  bodiless hn := by
    obtain ⟨node, el, hnode, hel, -⟩ := hp.nodeOf?_eq_some_iff.1 hn
    refine ⟨node, hnode, ?_⟩
    unfold Node.element? at hel
    unfold Node.body?
    cases hrole : node.role with
    | element e c => rfl
    | work w =>
      rw [hrole] at hel
      cases hel

/-- What matters here are the nodes and the nodes of elements. -/
theorem Placed.of_same (h : p.Placed) (hnodes : p'.nodes = p.nodes)
    (helements : p'.elementNodes = p.elementNodes) : p'.Placed where
  id_eq hnode := by
    rw [hnodes] at hnode
    exact h.id_eq hnode
  bodiless hn := by
    unfold nodeOf? at hn
    rw [helements] at hn
    rw [hnodes]
    exact h.bodiless hn

theorem Placed.pushNode (h : p.Placed) (label : String) (goal : Goal) (role : Node.Role) :
    (p.pushNode label goal role).1.Placed where
  id_eq hnode := by
    rcases getElem?_concat.1 hnode with hnode | ⟨rfl, rfl⟩
    · exact h.id_eq hnode
    · rfl
  bodiless hn := by
    obtain ⟨node, hnode, hbody⟩ := h.bodiless hn
    exact ⟨node, getElem?_concat.2 (.inl hnode), hbody⟩

theorem Placed.addWork (h : p.Placed) (w : Work) (goal : Goal) : (p.addWork w goal).1.Placed := by
  have hcounted : Placed { p with nextWork := p.nextWork + 1 } := h.of_same rfl rfl
  exact hcounted.pushNode ("W:" ++ toString p.nextWork) goal (.work w)

/-- A new element takes the next place. -/
theorem Placed.addElement (h : p.Placed) (e : Element) (goal : Goal) :
    (p.addElement e goal).1.Placed := by
  cases hn : p.nodeOf? e.id with
  | some n =>
    rw [addElement_of_some hn]
    exact h
  | none =>
    rw [addElement_of_none hn]
    have hpushed := h.pushNode ("E:" ++ e.id) goal (.element e none)
    refine ⟨hpushed.id_eq, fun {e' n} hn' => ?_⟩
    rw [nodeOf?_withElement hn] at hn'
    split at hn'
    · obtain rfl := Option.some.inj hn'
      exact ⟨_, getElem?_concat.2 (.inr ⟨rfl, rfl⟩), rfl⟩
    · exact hpushed.bodiless hn'

/-- To hand edges over changes no nodes. -/
theorem foldl_handOver_same (n l : NodeId) (ds : List (NodeId × EdgeKind)) (p : Plan) :
    (ds.foldl (handOver n l) p).nodes = p.nodes ∧
      (ds.foldl (handOver n l) p).elementNodes = p.elementNodes := by
  induction ds generalizing p with
  | nil => exact ⟨rfl, rfl⟩
  | cons d ds ih => exact ih (handOver n l p d)

/-- Grouping changes the graph and the groups alone. -/
theorem setGroup_same {n l : NodeId} (h : p.setGroup n l = .ok p') :
    p'.nodes = p.nodes ∧ p'.elementNodes = p.elementNodes := by
  unfold setGroup at h
  split at h
  · cases h
  · obtain rfl := Except.ok.inj h
    exact foldl_handOver_same n l (p.graph.outgoing n) p

/-- Taking a node out changes the graph and the list of completed nodes alone. -/
theorem removeNode_same {n : NodeId} (h : p.removeNode n = .ok p') :
    p'.nodes = p.nodes ∧ p'.elementNodes = p.elementNodes := by
  unfold removeNode ensureLive at h
  cases hlive : p.isLive n with
  | true =>
    rw [hlive] at h
    obtain rfl := Except.ok.inj h
    exact ⟨rfl, rfl⟩
  | false =>
    rw [hlive] at h
    cases h

/-- Changes that are adopted keep nodes in their places. -/
theorem Placed.adopt (h : p.Placed) (l : NodeId) (cs : List ElementChange) :
    (adopt l cs p).1.Placed := by
  induction cs generalizing p with
  | nil => exact h
  | cons c cs ih =>
    have hadded := h.addElement c.element c.kind.goal
    unfold Plan.adopt
    simp only
    split
    · split
      · exact ih hadded
      · exact hadded
    · split
      -- a group touches edges and tables only
      next hgroup =>
        obtain ⟨hnodes, helements⟩ := setGroup_same hgroup
        exact ih (hadded.of_same hnodes helements)
      next => exact hadded

/-- An action that is added keeps nodes in their places. -/
theorem Placed.addAction (h : p.Placed) (a : Action) : (p.addAction a).1.Placed := by
  have hwork := h.addWork (workOf a) a.kind.goal
  unfold Plan.addAction
  cases hnew : p.addWork (workOf a) a.kind.goal with
  | mk p₁ n =>
    rw [hnew] at hwork
    have hadopted := hwork.adopt n a.changes
    simp only
    cases hresult : Plan.adopt n a.changes p₁ with
    | mk p₂ fault =>
      rw [hresult] at hadopted
      cases fault with
      | none => exact hadopted
      | some f => exact hadopted

/-- However a plan is extended, nodes stay in their places. -/
theorem Extends.placed (h : p.Extends p') (hp : p.Placed) : p'.Placed := by
  induction h with
  | refl => exact hp
  | addWork h w goal ih => exact ih.addWork w goal
  | addAction h a ih => exact ih.addAction a

end Rollout.Plan
