import Mathlib.Data.List.Perm.Subperm
import Rollout.Proofs.Plan.Skeleton
import Rollout.Proofs.Relation.Readiness

/-!
# The plan of a deployment

Resolving the criteria of an element links it with every element its relation names.  `Built` says
what the finished plan is: `linked` that each of these dependencies is in the graph, where the
direction rule wants it and at the leader of the node that has it, and `edge` that nothing else is.
-/

namespace Rollout.Plan

variable {d : Deployment} {p p' base : Plan} {n : NodeId}

/-- There are no more nodes than the skeleton has and elements are mentioned. -/
theorem bound_of_registered (h : Registered d p) (hworks : p.works = base.works) :
    p.nodes.length ≤ base.nodes.length + d.mentioned.length := by
  have hkeys : (p.elementNodes.map (·.1)).length ≤ (d.mentioned.map (·.id)).length := by
    refine (List.Nodup.subperm h.keys_nodup fun e he => ?_).length_le
    obtain ⟨row, hrow, rfl⟩ := List.mem_map.1 he
    obtain ⟨el, hel, hid⟩ := h.keys_mentioned row hrow
    exact List.mem_map.2 ⟨el, hel, hid⟩
  have hlength : base.works.length ≤ base.nodes.length := List.length_filter_le ..
  rw [List.length_map, List.length_map] at hkeys
  rw [h.length, hworks]
  omega

/-! ## Dependencies of elements -/

/-- The dependency of a node with a goal on an element is in the graph.  A node to be deployed
has the dependency itself, or its leader does, and it cannot have it on one to be destroyed.  A
node to be destroyed is waited for by the element, or its leader, if the element is to be
destroyed as well. -/
def LinkedTo (p : Plan) (y : NodeId) (goal : Goal) (h : ElementId) : Prop :=
  ∃ x nx, p.nodeOf? h = some x ∧ p.nodes[x]? = some nx ∧
    match goal with
    | .deployed => nx.goal = .deployed ∧ (p.graph.edge? (p.lead y) x).isSome = true
    | .destroyed => nx.goal = .destroyed → (p.graph.edge? (p.lead x) y).isSome = true

/-- The edge comes from the relation of an element. -/
def Wanted (p : Plan) (a b : NodeId) : Prop :=
  ∃ (y : NodeId) (ny : Node) (el : Element) (r : Relation) (x : NodeId), p.nodes[y]? = some ny ∧
    ny.element? = some el ∧ el.relation ny.goal = some r ∧
    (∃ h ∈ r.handles, p.nodeOf? h = some x) ∧
    match ny.goal with
    | .deployed => a = p.lead y ∧ b = x
    | .destroyed => a = p.lead x ∧ b = y ∧ ∃ nx, p.nodes[x]? = some nx ∧ nx.goal = .destroyed

/-- What resolving keeps of a plan: it also leaves the groups alone. -/
structure Keeps (p p' : Plan) : Prop extends p.Grows p' where
  leaders : p'.leaders = p.leaders
  followers : p'.followers = p.followers

theorem Keeps.refl (p : Plan) : p.Keeps p := ⟨.refl p, rfl, rfl⟩

theorem Keeps.trans {p'' : Plan} (h : p.Keeps p') (h' : p'.Keeps p'') : p.Keeps p'' :=
  ⟨h.toGrows.trans h'.toGrows, h'.leaders.trans h.leaders, h'.followers.trans h.followers⟩

theorem Keeps.leader?_eq (h : p.Keeps p') (m : NodeId) : p'.leader? m = p.leader? m := by
  unfold Plan.leader?
  rw [h.leaders]

/-- Who speaks for a node stays the same. -/
theorem Keeps.lead_eq (h : p.Keeps p') (m : NodeId) : p'.lead m = p.lead m := by
  unfold lead
  rw [h.leader?_eq]

/-- What is linked stays linked. -/
theorem LinkedTo.keeps {y : NodeId} {goal : Goal} {e : ElementId} (h : p.LinkedTo y goal e)
    (hp : p.Keeps p') : p'.LinkedTo y goal e := by
  obtain ⟨x, nx, hx, hnx, hedge⟩ := h
  obtain ⟨nx', hnx', hgoal, -⟩ := hp.node hnx
  refine ⟨x, nx', hp.nodeOf? hx, hnx', ?_⟩
  cases goal with
  | deployed => exact ⟨hgoal.trans hedge.1, by rw [hp.lead_eq]; exact hp.edge hedge.2⟩
  | destroyed =>
    intro hg
    rw [hp.lead_eq]
    exact hp.edge (hedge (hgoal.symm.trans hg))

/-- What is wanted stays wanted. -/
theorem Wanted.keeps {a b : NodeId} (h : p.Wanted a b) (hp : p.Keeps p') : p'.Wanted a b := by
  obtain ⟨y, ny, el, r, x, hy, hel, hr, ⟨e, he, hx⟩, hab⟩ := h
  obtain ⟨ny', hy', hgoal, hel', -⟩ := hp.node hy
  refine ⟨y, ny', el, r, x, hy', hel'.trans hel, by rw [hgoal, hr], ⟨e, he, hp.nodeOf? hx⟩, ?_⟩
  rw [hgoal]
  cases hg : ny.goal with
  | deployed =>
    rw [hg] at hab
    simp only [hp.lead_eq]
    exact hab
  | destroyed =>
    rw [hg] at hab
    obtain ⟨ha, hb, nx, hnx, hgx⟩ := hab
    obtain ⟨nx', hnx', hgx', -⟩ := hp.node hnx
    exact ⟨by rw [hp.lead_eq]; exact ha, hb, nx', hnx', hgx'.trans hgx⟩

theorem IsWork.keeps {m : NodeId} (h : p.IsWork m) (hp : p.Keeps p') : p'.IsWork m :=
  h.grows hp.toGrows

/-- Where the edges of a plan come from. -/
def Sourced (p : Plan) (a b : NodeId) (k : EdgeKind) : Prop :=
  (k = .hard ∧ (p.leader? a = some b ∨ p.IsWork a ∧ p.IsWork b)) ∨ p.Wanted a b

/-- What has a source keeps it. -/
theorem Sourced.keeps {a b : NodeId} {k : EdgeKind} (h : p.Sourced a b k) (hp : p.Keeps p') :
    p'.Sourced a b k :=
  h.imp (fun h => h.imp_right fun hor => hor.imp (hp.leader? ·)
    fun hworks => ⟨hworks.1.keeps hp, hworks.2.keeps hp⟩) (·.keeps hp)

/-! ## Resolving -/

/-- A plan in which the criteria of the nodes below `n` have been resolved. -/
structure Resolving (d : Deployment) (base : Plan) (n : NodeId) (p : Plan) : Prop
    extends Registered d p where
  keeps : base.Keeps p
  works : p.works = base.works
  le : n ≤ p.nodes.length
  settled : ∀ {m : NodeId} {node : Node} {el : Element}, m < n → p.nodes[m]? = some node →
    node.element? = some el → node.criteria? = el.criteria? node.goal ∧
      ∀ r, el.relation node.goal = some r → ∀ h ∈ r.handles, p.LinkedTo m node.goal h
  bare : ∀ {m : NodeId} {node : Node} {el : Element}, n ≤ m → p.nodes[m]? = some node →
    node.element? = some el → node.role = .element el none
  edge : ∀ {a b k}, p.graph.edge? a b = some k → p.Sourced a b k

/-- To add an element keeps all leaders. -/
theorem keeps_addElement (p : Plan) (e : Element) (goal : Goal) :
    p.Keeps (p.addElement e goal).1 := by
  refine ⟨grows_addElement p e goal, ?_, ?_⟩ <;>
  · cases hnode : p.nodeOf? e.id with
    | some n => rw [addElement_of_some hnode]
    | none => rw [addElement_of_none hnode]; rfl

theorem keeps_link (p : Plan) (a b : NodeId) (k : EdgeKind) : p.Keeps (p.link a b k) :=
  ⟨grows_link p a b k, rfl, rfl⟩

theorem keeps_withCriteria (p : Plan) (n : NodeId) (c : Criteria) :
    p.Keeps (Deployment.withCriteria p n c) :=
  ⟨grows_withCriteria p n c, rfl, rfl⟩

/-- To add an element takes no node away. -/
theorem length_addElement (p : Plan) (e : Element) (goal : Goal) :
    p.nodes.length ≤ (p.addElement e goal).1.nodes.length := by
  cases hnode : p.nodeOf? e.id with
  | some n => rw [addElement_of_some hnode]
  | none =>
    rw [addElement_of_none hnode]
    show p.nodes.length ≤ (p.nodes ++ [_]).length
    rw [List.length_append]
    exact Nat.le_add_right _ _

/-- The resolution goes on when a handle brings a new element. -/
theorem Resolving.addElement (h : Resolving d base n p) {e : Element} (he : e ∈ d.mentioned)
    (goal : Goal) : Resolving d base n (p.addElement e goal).1 where
  toRegistered := h.toRegistered.addElement he goal
  keeps := h.keeps.trans (keeps_addElement p e goal)
  works := (works_addElement p e goal).trans h.works
  le := h.le.trans (length_addElement p e goal)
  settled {m node el} hm hnode hel := by
    rcases node_addElement hnode with hnode | ⟨rfl, -⟩
    · exact (h.settled hm hnode hel).imp_right fun hlinked r hr e' he' =>
        (hlinked r hr e' he').keeps (keeps_addElement p e goal)
    · -- the new node comes after all nodes that have been resolved
      exact absurd hm (Nat.not_lt.2 h.le)
  bare {m node el} hm hnode hel := by
    rcases node_addElement hnode with hnode | ⟨-, -, hrole⟩
    · exact h.bare hm hnode hel
    · have hself : node.element? = some e := by
        unfold Node.element?
        rw [hrole]
      rw [hrole, Option.some.inj (hself.symm.trans hel)]
  edge hk := by
    rw [edge?_addElement] at hk
    exact (h.edge hk).keeps (keeps_addElement p e goal)

/-- The resolution goes on when a wanted edge is drawn. -/
theorem Resolving.link (h : Resolving d base n p) {a b : NodeId} (ha : a < p.nodes.length)
    (hb : b < p.nodes.length) (hab : p.Wanted a b) : Resolving d base n (p.link a b .soft) := by
  have hkeeps := keeps_link p a b .soft
  refine ⟨⟨h.sound.link ha hb .soft, h.length, h.keys_nodup, h.keys_mentioned, h.mentioned⟩,
    h.keeps.trans hkeeps, h.works, h.le, fun hm hnode hel => ?_, h.bare, fun {c e k} hk => ?_⟩
  · exact (h.settled hm hnode hel).imp_right fun hlinked r hr e' he' =>
      (hlinked r hr e' he').keeps hkeeps
  · rw [edge?_link] at hk
    by_cases hce : c = a ∧ e = b
    · obtain ⟨rfl, rfl⟩ := hce
      exact .inr (hab.keeps hkeeps)
    · rw [if_neg hce] at hk
      exact (h.edge hk).keeps hkeeps

/-- A dependency on an element that the relation of a node names.  Afterwards it is in the graph,
unless the direction rule has dropped it. -/
theorem Resolving.addDependency (h : Resolving d base n p) {node : Node} {el : Element}
    {r : Relation} (hnode : p.nodes[n]? = some node) (hel : node.element? = some el)
    (hr : el.relation node.goal = some r) {e : ElementId} (he : e ∈ r.handles) {t : NodeId}
    (hnodeOf : p.nodeOf? e = some t) (hdep : p.addDependency n t .soft = .ok p') :
    Resolving d base n p' ∧ p.Keeps p' ∧ p'.LinkedTo n node.goal e := by
  obtain ⟨tnode, tel, ht, -, -⟩ := h.sound.nodeOf?_eq_some_iff.1 hnodeOf
  have hn := lt_of_node hnode
  have ht' := lt_of_node ht
  rcases addDependency_eq_ok hnode ht hdep with ⟨hg, hgt, rfl⟩ | ⟨hg, hgt, rfl⟩ | ⟨hg, hgt, rfl⟩
  · -- both are to be deployed: the node, or its leader, waits
    have hwanted : p.Wanted (p.lead n) t := by
      refine ⟨n, node, el, r, t, hnode, hel, hr, ⟨e, he, hnodeOf⟩, ?_⟩
      rw [hg]
      exact ⟨rfl, rfl⟩
    refine ⟨h.link (h.sound.lead_lt hn) ht' hwanted, keeps_link .., t, tnode, hnodeOf, ht, ?_⟩
    rw [hg]
    refine ⟨hgt, ?_⟩
    rw [(keeps_link p (p.lead n) t .soft).lead_eq, edge?_link, if_pos ⟨rfl, rfl⟩]
    rfl
  · -- both are to be destroyed: the element, or its leader, waits for the node
    have hwanted : p.Wanted (p.lead t) n := by
      refine ⟨n, node, el, r, t, hnode, hel, hr, ⟨e, he, hnodeOf⟩, ?_⟩
      rw [hg]
      exact ⟨rfl, rfl, tnode, ht, hgt⟩
    refine ⟨h.link (h.sound.lead_lt ht') hn hwanted, keeps_link .., t, tnode, hnodeOf, ht, ?_⟩
    rw [hg]
    intro _
    rw [(keeps_link p (p.lead t) n .soft).lead_eq, edge?_link, if_pos ⟨rfl, rfl⟩]
    rfl
  · -- what is destroyed does not wait for what is deployed
    refine ⟨h, .refl p', t, tnode, hnodeOf, ht, ?_⟩
    rw [hg]
    intro hgt'
    rw [hgt] at hgt'
    cases hgt'

/-- The handles of a relation are linked one after the other. -/
theorem addHandles_spec (h : Resolving d base n p) {node : Node} {el : Element} {r : Relation}
    (hnode : p.nodes[n]? = some node) (hel : node.element? = some el)
    (hr : el.relation node.goal = some r) {c : Criteria} {hs : List ElementId}
    (hhs : ∀ e ∈ hs, e ∈ r.handles)
    (hadd : Deployment.addHandles d n node.goal el c hs p = .ok p') :
    Resolving d base n p' ∧ p.Keeps p' ∧ ∀ e ∈ hs, p'.LinkedTo n node.goal e := by
  induction hs generalizing p node with
  | nil =>
    obtain rfl := Except.ok.inj hadd
    exact ⟨h, .refl p, nofun⟩
  | cons e hs ih =>
    unfold Deployment.addHandles at hadd
    cases hfind : d.find? e with
    | none => rw [hfind] at hadd; cases hadd
    | some target =>
      rw [hfind] at hadd
      have htarget : target ∈ d.mentioned := List.mem_of_find?_eq_some hfind
      have hid : target.id = e := by simpa using List.find?_some hfind
      -- The element gets a node, unless it has one.
      have h₁ := h.addElement htarget node.goal
      have hkeeps₁ := keeps_addElement p target node.goal
      have hnodeOf := nodeOf?_addElement p target node.goal
      rw [hid] at hnodeOf
      obtain ⟨node₁, hnode₁, hgoal₁, hel₁, -⟩ := hkeeps₁.node hnode
      -- Then it is linked with the node that is resolved.
      obtain ⟨p₂, hdep, hadd⟩ : ∃ p₂, (p.addElement target node.goal).1.addDependency n
          (p.addElement target node.goal).2 .soft = .ok p₂ ∧
          Deployment.addHandles d n node.goal el c hs p₂ = .ok p' := bind_eq_ok.1 hadd
      obtain ⟨h₂, hkeeps₂, hlinked⟩ := h₁.addDependency hnode₁ (hel₁.trans hel)
        (by rw [hgoal₁, hr]) (hhs e List.mem_cons_self) hnodeOf hdep
      obtain ⟨node₂, hnode₂, hgoal₂, hel₂, -⟩ := hkeeps₂.node hnode₁
      have hgoal : node₂.goal = node.goal := hgoal₂.trans hgoal₁
      rw [hgoal₁] at hlinked
      rw [← hgoal] at hadd hr hlinked ⊢
      obtain ⟨h₃, hkeeps₃, hrest⟩ := ih h₂ hnode₂ ((hel₂.trans hel₁).trans hel) hr
        (fun e' he' => hhs e' (List.mem_cons_of_mem e he')) hadd
      refine ⟨h₃, (hkeeps₁.trans hkeeps₂).trans hkeeps₃, fun e' he' => ?_⟩
      rcases List.mem_cons.1 he' with rfl | he'
      · exact hlinked.keeps hkeeps₃
      · exact hrest e' he'

/-- The relation of an element is found in its criteria. -/
theorem relation_of_criteria? {el : Element} {goal : Goal} :
    (el.criteria? goal).bind (·.relation) = el.relation goal := by
  unfold Element.criteria?
  cases hr : el.relation goal <;> cases hc : el.check <;> rfl

/-- Once the handles of a node are linked, its criteria settle it. -/
theorem Resolving.withCriteria (h : Resolving d base n p) {node : Node} {el : Element}
    (hnode : p.nodes[n]? = some node) (hel : node.element? = some el) {c : Criteria}
    (hc : el.criteria? node.goal = some c)
    (hlinked : ∀ r, el.relation node.goal = some r → ∀ e ∈ r.handles, p.LinkedTo n node.goal e) :
    Resolving d base (n + 1) (Deployment.withCriteria p n c) := by
  have hkeeps := keeps_withCriteria p n c
  have hlength : (Deployment.withCriteria p n c).nodes.length = p.nodes.length :=
    List.length_modify ..
  refine ⟨⟨h.sound.withCriteria n c, ?_, h.keys_nodup, h.keys_mentioned, fun hm hel' => ?_⟩,
    h.keeps.trans hkeeps, (works_withCriteria p n c).trans h.works, ?_,
    fun {m node' el'} hm hnode' hel' => ?_, fun {m node' el'} hm hnode' hel' => ?_,
    fun hk => (h.edge hk).keeps hkeeps⟩
  · rw [hlength, works_withCriteria]
    exact h.length
  · obtain ⟨old, hold, rfl⟩ := node_withCriteria.1 hm
    refine h.mentioned hold ?_
    split at hel'
    · rwa [(settled_same c old).2.2.1] at hel'
    · exact hel'
  · rw [hlength]
    exact lt_of_node hnode
  · -- the node itself is settled now, and those below it were before
    obtain ⟨old, hold, rfl⟩ := node_withCriteria.1 hnode'
    by_cases hmn : m = n
    · subst hmn
      obtain rfl : node = old := Option.some.inj (hnode.symm.trans hold)
      rw [if_pos rfl] at hel' ⊢
      obtain ⟨-, hgoal, hsame, -⟩ := settled_same c node
      rw [hsame, hel] at hel'
      obtain rfl := Option.some.inj hel'
      rw [hgoal]
      refine ⟨?_, fun r hr e he => (hlinked r hr e he).keeps hkeeps⟩
      rw [hc]
      unfold Plan.settled Node.criteria?
      rw [h.bare (Nat.le_refl m) hnode hel]
    · rw [if_neg hmn] at hel' ⊢
      have hlt : m < n := Nat.lt_of_le_of_ne (Nat.lt_succ_iff.1 hm) hmn
      exact (h.settled hlt hold hel').imp_right fun hl r hr e he =>
        (hl r hr e he).keeps hkeeps
  · obtain ⟨old, hold, rfl⟩ := node_withCriteria.1 hnode'
    rw [if_neg (Nat.ne_of_gt hm)] at hel' ⊢
    exact h.bare (Nat.le_of_succ_le hm) hold hel'

/-- A node with nothing to settle is passed over. -/
theorem Resolving.pass (h : Resolving d base n p) (hn : n < p.nodes.length)
    (hsettled : ∀ {node : Node} {el : Element}, p.nodes[n]? = some node →
      node.element? = some el → el.criteria? node.goal = none) :
    Resolving d base (n + 1) p where
  toRegistered := h.toRegistered
  keeps := h.keeps
  works := h.works
  le := hn
  settled {m node el} hm hnode hel := by
    by_cases hmn : m = n
    · -- the node has no criteria, so there is nothing that it would have to be linked to
      subst hmn
      have hnone := hsettled hnode hel
      refine ⟨?_, fun r hr => ?_⟩
      · rw [hnone]
        unfold Node.criteria?
        rw [h.bare (Nat.le_refl m) hnode hel]
      · rw [← relation_of_criteria?, hnone] at hr
        cases hr
    · exact h.settled (Nat.lt_of_le_of_ne (Nat.lt_succ_iff.1 hm) hmn) hnode hel
  bare hm := h.bare (Nat.le_of_succ_le hm)
  edge := h.edge

/-- Resolving a node comes to nothing if there is nothing to settle, and otherwise to linking the
handles of its relation and to settling its criteria. -/
theorem resolve_eq_ok {node : Node} (hnode : p.nodes[n]? = some node)
    (hbare : ∀ {el}, node.element? = some el → node.role = .element el none)
    (hresolve : Deployment.resolve d n p = .ok p') :
    ((∀ el, node.element? = some el → el.criteria? node.goal = none) ∧ p' = p) ∨
      ∃ el c p₁, node.element? = some el ∧ el.criteria? node.goal = some c ∧
        Deployment.addHandles d n node.goal el c ((c.relation.map (·.handles)).getD []) p =
          .ok p₁ ∧ p' = Deployment.withCriteria p₁ n c := by
  obtain ⟨num, label, goal, role⟩ := node
  unfold Deployment.resolve at hresolve
  rw [hnode] at hresolve
  cases role with
  | work w => exact .inl ⟨nofun, (Except.ok.inj hresolve).symm⟩
  | element el criteria =>
    -- a node that has not been resolved has no criteria yet, so that setting them cannot fail
    obtain ⟨-, rfl⟩ : el = el ∧ criteria = none := by simpa using hbare rfl
    simp only at hresolve
    cases hc : el.criteria? goal with
    | none =>
      rw [hc] at hresolve
      refine .inl ⟨fun el' hel => ?_, (Except.ok.inj hresolve).symm⟩
      obtain rfl := Option.some.inj hel
      exact hc
    | some c =>
      rw [hc] at hresolve
      cases hr : c.relation with
      | none =>
        simp only [hr] at hresolve
        refine .inr ⟨el, c, p, rfl, hc, ?_, (setCriteria_eq_ok_iff.1 hresolve).2⟩
        rw [hr]
        rfl
      | some r =>
        simp only [hr] at hresolve
        obtain ⟨p₁, hadd, hset⟩ := bind_eq_ok.1 hresolve
        refine .inr ⟨el, c, p₁, rfl, hc, ?_, (setCriteria_eq_ok_iff.1 hset).2⟩
        rw [hr]
        exact hadd

/-- To resolve a node settles it. -/
theorem resolve_spec (h : Resolving d base n p) (hn : n < p.nodes.length)
    (hresolve : Deployment.resolve d n p = .ok p') : Resolving d base (n + 1) p' := by
  obtain ⟨node, hnode⟩ := node_of_lt hn
  have hbare : ∀ {el : Element}, node.element? = some el → node.role = .element el none :=
    fun hel => h.bare (Nat.le_refl n) hnode hel
  rcases resolve_eq_ok hnode hbare hresolve with ⟨hnone, rfl⟩ | ⟨el, c, p₁, hel, hc, hadd, rfl⟩
  · refine h.pass hn fun hnode' hel => ?_
    obtain rfl := Option.some.inj (hnode.symm.trans hnode')
    exact hnone _ hel
  · have hrelation : c.relation = el.relation node.goal := by
      rw [← relation_of_criteria?, hc]
      rfl
    rw [hrelation] at hadd
    cases hr : el.relation node.goal with
    | none =>
      rw [hr] at hadd
      obtain rfl := Except.ok.inj hadd
      refine h.withCriteria hnode hel hc fun r hr' => ?_
      rw [hr] at hr'
      cases hr'
    | some r =>
      rw [hr] at hadd
      obtain ⟨h₁, hkeeps, hlinked⟩ := addHandles_spec h hnode hel hr (fun _ h => h) hadd
      obtain ⟨node₁, hnode₁, hgoal₁, hel₁, -⟩ := hkeeps.node hnode
      -- adding the handles has left the goal of the node as it was
      rw [← hgoal₁] at hlinked hc hr
      refine h₁.withCriteria hnode₁ (hel₁.trans hel) hc fun r' hr' => ?_
      obtain rfl := Option.some.inj (hr.symm.trans hr')
      exact hlinked

/-- To resolve all nodes settles them, those included that come in on the way. -/
theorem resolveFrom_spec {count : ℕ} (h : Resolving d base n p)
    (hcount : base.nodes.length + d.mentioned.length = count + n)
    (hresolve : Deployment.resolveFrom d count n p = .ok p') :
    Resolving d base p'.nodes.length p' := by
  induction count generalizing n p with
  | zero =>
    obtain rfl := Except.ok.inj hresolve
    have hbound := bound_of_registered h.toRegistered h.works
    -- The fuel was enough: there is at most one node for each element that is mentioned.
    have heq : n = p.nodes.length := Nat.le_antisymm h.le (by omega)
    exact heq ▸ h
  | succ count ih =>
    unfold Deployment.resolveFrom at hresolve
    by_cases hn : n < p.nodes.length
    · rw [if_pos hn] at hresolve
      obtain ⟨p₁, hone, hrest⟩ := bind_eq_ok.1 hresolve
      exact ih (resolve_spec h hn hone) (hcount.trans (Nat.succ_add_eq_add_succ count n)) hrest
    · rw [if_neg hn] at hresolve
      obtain rfl := Except.ok.inj hresolve
      have heq : n = p.nodes.length := Nat.le_antisymm h.le (Nat.le_of_not_lt hn)
      exact heq ▸ h

/-! ## Built plans -/

/-- What the plan of a deployment is like. -/
structure Built (d : Deployment) (p : Plan) : Prop extends Registered d p where
  acts : ∀ {l : NodeId} {node : Node} {a : ActingFor}, p.nodes[l]? = some node →
    a ∈ node.actsFor → ∃ f, p.leader? f = some l ∧ p.nodeOf? a.element = some f
  criteria : ∀ {n : NodeId} {node : Node} {el : Element}, p.nodes[n]? = some node →
    node.element? = some el → node.criteria? = el.criteria? node.goal
  linked : ∀ {n : NodeId} {node : Node} {el : Element} {r : Relation} {h : ElementId},
    p.nodes[n]? = some node → node.element? = some el → el.relation node.goal = some r →
    h ∈ r.handles → p.LinkedTo n node.goal h
  edge : ∀ {a b k}, p.graph.edge? a b = some k → p.Sourced a b k
  parts : p.works.map (fun n => (n.goal, n.role)) = d.allActions.map partOf
  series : ∀ pre group post, d.series = pre ++ group :: post →
    p.SeriesAt (d.actions.length + pre.flatten.length) group

/-- A plan is its skeleton with all criteria resolved. -/
theorem resolving_of_plan (h : d.plan = .ok p) :
    ∃ base, d.skeleton = .ok base ∧ Resolving d base p.nodes.length p := by
  unfold Deployment.plan at h
  obtain ⟨base, hskeleton, hresolve⟩ := bind_eq_ok.1 h
  obtain ⟨hbase, -⟩ := skeleton_spec hskeleton
  have hstart : Resolving d base 0 base :=
    ⟨hbase.toRegistered, .refl base, rfl, Nat.zero_le _, fun hm => absurd hm (Nat.not_lt_zero _),
      fun _ => hbase.role, fun hk => .inl (hbase.edge hk)⟩
  exact ⟨base, hskeleton, resolveFrom_spec hstart rfl hresolve⟩

/-- A plan that is built has the properties that `Built` lists. -/
theorem built_of_plan (h : d.plan = .ok p) : p.Built d := by
  obtain ⟨base, hskeleton, hdone⟩ := resolving_of_plan h
  obtain ⟨hbase, -, hseries⟩ := skeleton_spec hskeleton
  refine ⟨hdone.toRegistered, fun {l node a} hl ha => ?_,
    fun hn hel => (hdone.settled (lt_of_node hn) hn hel).1,
    fun hn hel hr he => (hdone.settled (lt_of_node hn) hn hel).2 _ hr _ he, hdone.edge, ?_,
    fun pre group post hsplit => (hseries pre group post hsplit).grows hdone.keeps.toGrows⟩
  · -- only work acts for elements, and work has not changed since the skeleton
    have hmem : node ∈ base.works := by
      rw [← hdone.works]
      exact mem_works_iff.2 ⟨List.mem_of_getElem? hl, element?_of_actsFor ha⟩
    have hid := hdone.sound.id_eq hl
    have hnode := (hbase.sound.node_of_mem_works hmem).1
    rw [hid] at hnode
    exact (hbase.acts hnode ha).imp fun f hf =>
      ⟨hdone.keeps.leader? hf.1, hdone.keeps.nodeOf? hf.2⟩
  · rw [hdone.works]
    exact hbase.parts

namespace Built

variable {node : Node}

/-- The node of an element has the element's relation for its goal. -/
theorem relation?_of_element (h : p.Built d) (hn : p.nodes[n]? = some node) {el : Element}
    (hel : node.element? = some el) : node.relation? = el.relation node.goal := by
  unfold Node.relation?
  rw [h.criteria hn hel]
  exact relation_of_criteria?

/-- Work is that of an action. -/
theorem action_of_work (h : p.Built d) (hn : p.nodes[n]? = some node)
    (hwork : node.element? = none) :
    ∃ a ∈ d.allActions, node.goal = a.kind.goal ∧ node.role = .work (workOf a) := by
  have hmem : node ∈ p.works := mem_works_iff.2 ⟨List.mem_of_getElem? hn, hwork⟩
  have hpart : (node.goal, node.role) ∈ d.allActions.map partOf := by
    rw [← h.parts]
    exact List.mem_map.2 ⟨node, hmem, rfl⟩
  obtain ⟨a, ha, heq⟩ := List.mem_map.1 hpart
  obtain ⟨hgoal, hrole⟩ := Prod.mk.inj heq
  exact ⟨a, ha, hgoal.symm, hrole.symm⟩

/-- Work waits for no relation of its own. -/
theorem relation?_of_work (h : p.Built d) (hn : p.nodes[n]? = some node)
    (hwork : node.element? = none) : node.relation? = none := by
  obtain ⟨a, -, -, hrole⟩ := h.action_of_work hn hwork
  unfold Node.relation? Node.criteria?
  rw [hrole]
  rfl

/-- Work is done when its body is. -/
theorem check_of_work (h : p.Built d) (hn : p.nodes[n]? = some node)
    (hwork : node.element? = none) : node.criteria?.bind (·.check) = none := by
  obtain ⟨a, -, -, hrole⟩ := h.action_of_work hn hwork
  unfold Node.criteria?
  rw [hrole]
  rfl

/-- A node that has a relation stands for an element, and the relation is the element's. -/
theorem element_of_relation? (h : p.Built d) (hn : p.nodes[n]? = some node) {r : Relation}
    (hr : node.relation? = some r) :
    ∃ el, node.element? = some el ∧ el.relation node.goal = some r := by
  cases hel : node.element? with
  | none =>
    rw [h.relation?_of_work hn hel] at hr
    cases hr
  | some el =>
    rw [h.relation?_of_element hn hel] at hr
    exact ⟨el, rfl, hr⟩

end Built

end Rollout.Plan
