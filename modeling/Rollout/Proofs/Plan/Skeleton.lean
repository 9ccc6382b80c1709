import Mathlib.Data.List.Chain
import Rollout.Proofs.Plan.Growth

/-!
# The skeleton of a plan

Before any criteria are resolved a plan holds the elements and the actions of a deployment, the
groups, and the dependencies within each series.  `Skeleton` says that the work of the plan is that
of the actions so far, in order, and that all its edges are hard and come from a group or a
series.  `InOrder` is what the direction rule makes of two actions that follow each other.
-/

namespace Rollout

/-- A sequence succeeds if and only if both its parts do. -/
theorem bind_eq_ok {ε α β : Type} {x : Except ε α} {f : α → Except ε β} {b : β} :
    (x >>= f) = .ok b ↔ ∃ a, x = .ok a ∧ f a = .ok b := by
  cases x with
  | error e => exact ⟨nofun, nofun⟩
  | ok a => exact ⟨fun h => ⟨a, rfl, h⟩, fun ⟨_, ha, h⟩ => Except.ok.inj ha ▸ h⟩

namespace Plan

variable {d : Deployment} {p p' : Plan}

/-- The node stands for work. -/
def IsWork (p : Plan) (n : NodeId) : Prop :=
  ∃ node, p.nodes[n]? = some node ∧ node.element? = none

theorem IsWork.grows {n : NodeId} (hn : p.IsWork n) (h : p.Grows p') : p'.IsWork n := by
  obtain ⟨node, hnode, hwork⟩ := hn
  obtain ⟨node', hnode', -, hel, -⟩ := h.node hnode
  exact ⟨node', hnode', hel.trans hwork⟩

/-- Work is not led. -/
theorem IsWork.leader?_eq_none (hp : p.Sound) {n : NodeId} (hn : p.IsWork n) :
    p.leader? n = none := by
  cases hl : p.leader? n with
  | none => rfl
  | some l =>
    obtain ⟨node, hnode, hwork⟩ := hn
    obtain ⟨node', el, hnode', hel⟩ := hp.follower_element hl
    obtain rfl : node = node' := Option.some.inj (hnode.symm.trans hnode')
    rw [hwork] at hel
    cases hel

/-- Every element of the plan is one that the deployment mentions, and has one node. -/
structure Registered (d : Deployment) (p : Plan) : Prop where
  sound : p.Sound
  length : p.nodes.length = p.works.length + p.elementNodes.length
  keys_nodup : (p.elementNodes.map (·.1)).Nodup
  keys_mentioned : ∀ row ∈ p.elementNodes, ∃ el ∈ d.mentioned, el.id = row.1
  mentioned : ∀ {n : NodeId} {node : Node} {el : Element}, p.nodes[n]? = some node →
    node.element? = some el → el ∈ d.mentioned

/-- A plan before criteria are resolved, its work apart. -/
structure Bare (d : Deployment) (p : Plan) : Prop extends Registered d p where
  role : ∀ {n : NodeId} {node : Node} {el : Element}, p.nodes[n]? = some node →
    node.element? = some el → node.role = .element el none
  edge : ∀ {a b k}, p.graph.edge? a b = some k →
    k = .hard ∧ (p.leader? a = some b ∨ p.IsWork a ∧ p.IsWork b)

/-- What a series asks of two actions that follow each other: to be deployed, the second needs
the first; and to be destroyed, the first is made to need the second. -/
def InOrder (p : Plan) (u v : Node) : Prop :=
  (v.goal = .deployed → u.goal = .deployed ∧ p.graph.edge? v.id u.id = some .hard) ∧
    (u.goal = .destroyed → v.goal = .destroyed ∧ p.graph.edge? u.id v.id = some .hard)

theorem InOrder.grows {u v : Node} (h : p.InOrder u v) (hp : p.Grows p') : p'.InOrder u v :=
  ⟨fun hv => (h.1 hv).imp_right hp.hard, fun hu => (h.2 hu).imp_right hp.hard⟩

/-- The goal and the role of the node of an action. -/
def partOf (a : Action) : Goal × Node.Role := (a.kind.goal, .work (workOf a))

/-- The plan of some elements and actions, before criteria are resolved. -/
structure Skeleton (d : Deployment) (as : List Action) (p : Plan) : Prop extends Bare d p where
  parts : p.works.map (fun n => (n.goal, n.role)) = as.map partOf
  acts : ∀ {l : NodeId} {node : Node} {a : ActingFor}, p.nodes[l]? = some node →
    a ∈ node.actsFor → ∃ f, p.leader? f = some l ∧ p.nodeOf? a.element = some f

/-! ## Elements -/

/-- Elements are no work. -/
theorem works_addElement (p : Plan) (e : Element) (goal : Goal) :
    (p.addElement e goal).1.works = p.works := by
  cases hnode : p.nodeOf? e.id with
  | some n => rw [addElement_of_some hnode]
  | none =>
    rw [addElement_of_none hnode]
    show (p.nodes ++ [_]).filter _ = p.nodes.filter _
    rw [List.filter_append]
    exact List.append_nil _

/-- The registry stays in order when an element is added. -/
theorem Registered.addElement (h : Registered d p) {e : Element} (he : e ∈ d.mentioned)
    (goal : Goal) : Registered d (p.addElement e goal).1 := by
  have hsound := h.sound.addElement e goal
  have hworks := works_addElement p e goal
  cases hnode : p.nodeOf? e.id with
  | some n => rw [addElement_of_some hnode]; exact h
  | none =>
    rw [addElement_of_none hnode] at hsound hworks ⊢
    refine ⟨hsound, ?_, ?_, fun row hrow => ?_, fun {n node el} hn hel => ?_⟩
    · rw [hworks]
      show (p.nodes ++ [_]).length = p.works.length + (p.elementNodes ++ [_]).length
      rw [List.length_append, List.length_append, h.length]
      exact Nat.add_assoc _ _ _
    · show ((p.elementNodes ++ [(e.id, p.nodes.length)]).map (·.1)).Nodup
      rw [List.map_append, List.map_singleton]
      refine List.Nodup.append h.keys_nodup (List.nodup_singleton _) ?_
      -- the name is a new one in the table
      rw [List.disjoint_singleton, ← isSome_lookup_iff_mem_keys]
      have hlookup : p.elementNodes.lookup e.id = none := hnode
      simp [hlookup]
    · rcases List.mem_append.1 hrow with hrow | hrow
      · exact h.keys_mentioned row hrow
      · exact ⟨e, he, by rw [List.mem_singleton.1 hrow]⟩
    · rcases getElem?_concat.1 hn with hn | ⟨-, rfl⟩
      · exact h.mentioned hn hel
      · exact Option.some.inj hel ▸ he

/-- To add an element changes no edge. -/
theorem edge?_addElement (p : Plan) (e : Element) (goal : Goal) (a b : NodeId) :
    (p.addElement e goal).1.graph.edge? a b = p.graph.edge? a b := by
  cases hnode : p.nodeOf? e.id with
  | some n => rw [addElement_of_some hnode]
  | none => rw [addElement_of_none hnode]; exact Digraph.edge?_addNode ..

/-- To add an element changes no leader. -/
theorem leader?_addElement (p : Plan) (e : Element) (goal : Goal) (n : NodeId) :
    (p.addElement e goal).1.leader? n = p.leader? n := by
  cases hnode : p.nodeOf? e.id with
  | some n => rw [addElement_of_some hnode]
  | none => rw [addElement_of_none hnode]; rfl

/-- A node of the plan after an element has been added was there before, or is the element's. -/
theorem node_addElement {e : Element} {goal : Goal} {n : NodeId} {node : Node}
    (h : (p.addElement e goal).1.nodes[n]? = some node) :
    p.nodes[n]? = some node ∨
      n = p.nodes.length ∧ node.goal = goal ∧ node.role = .element e none := by
  cases hnode : p.nodeOf? e.id with
  | some n => rw [addElement_of_some hnode] at h; exact .inl h
  | none =>
    rw [addElement_of_none hnode] at h
    rcases getElem?_concat.1 h with h | ⟨hn, rfl⟩
    · exact .inl h
    · exact .inr ⟨hn, rfl, rfl⟩

/-- A plan stays bare when an element is added. -/
theorem Bare.addElement (h : Bare d p) {e : Element} (he : e ∈ d.mentioned) (goal : Goal) :
    Bare d (p.addElement e goal).1 where
  toRegistered := h.toRegistered.addElement he goal
  role {n node el} hn hel := by
    rcases node_addElement hn with hn | ⟨-, -, hrole⟩
    · exact h.role hn hel
    · have hnode : node.element? = some e := by
        unfold Node.element?
        rw [hrole]
      rw [hrole, Option.some.inj (hnode.symm.trans hel)]
  edge hk := by
    have hgrows := grows_addElement p e goal
    rw [edge?_addElement] at hk
    rw [leader?_addElement]
    exact (h.edge hk).imp_right fun hor => hor.imp_right fun hworks =>
      ⟨hworks.1.grows hgrows, hworks.2.grows hgrows⟩

/-- The skeleton stays in order when an element is added. -/
theorem Skeleton.addElement {as : List Action} (h : Skeleton d as p) {e : Element}
    (he : e ∈ d.mentioned) (goal : Goal) : Skeleton d as (p.addElement e goal).1 where
  toBare := h.toBare.addElement he goal
  parts := by rw [works_addElement]; exact h.parts
  acts {l node a} hl ha := by
    have hgrows := grows_addElement p e goal
    rcases node_addElement hl with hl | ⟨-, -, hrole⟩
    · exact (h.acts hl ha).imp fun f hf => ⟨hgrows.leader? hf.1, hgrows.nodeOf? hf.2⟩
    · unfold Node.actsFor at ha
      rw [hrole] at ha
      cases ha

/-- The same for a list of elements. -/
theorem Skeleton.addElements {as : List Action} (h : Skeleton d as p) (goal : Goal)
    {es : List Element} (hes : ∀ e ∈ es, e ∈ d.mentioned) :
    Skeleton d as (Deployment.addElements goal es p) := by
  unfold Deployment.addElements
  induction es generalizing p with
  | nil => exact h
  | cons e es ih =>
    exact ih (h.addElement (hes e List.mem_cons_self) goal)
      fun e' he' => hes e' (List.mem_cons_of_mem e he')

theorem Skeleton.empty (d : Deployment) : Skeleton d [] (Plan.empty d.goal {}) := by
  refine ⟨⟨⟨⟨nofun, .empty, ?_, ?_, ?_, ?_, nofun, nofun, nofun⟩, rfl, List.nodup_nil, nofun,
    nofun⟩, nofun, nofun⟩, rfl, nofun⟩
  · simp [Plan.empty, Digraph.empty, Digraph.contains]
  · simp [Plan.empty, Plan.nodeOf?]
  · simp [Plan.empty, Plan.nodeOf?]
  · simp [Plan.empty, Plan.followersOf, Plan.leader?]

/-! ## Actions -/

/-- New work comes last. -/
theorem works_addWork (p : Plan) (w : Work) (goal : Goal) :
    (p.addWork w goal).1.works = p.works ++
      [⟨p.nodes.length, "W:" ++ toString p.nextWork, goal, .work w⟩] := by
  show (p.nodes ++ [_]).filter _ = p.nodes.filter _ ++ _
  rw [List.filter_append]
  rfl

/-- A plan stays bare when work is added. -/
theorem Bare.addWork (h : Bare d p) (w : Work) (goal : Goal) : Bare d (p.addWork w goal).1 where
  sound := h.sound.addWork w goal
  length := by
    rw [works_addWork, List.length_append]
    show (p.nodes ++ [_]).length = _ + _ + p.elementNodes.length
    rw [List.length_append, h.length]
    exact Nat.add_right_comm _ _ _
  keys_nodup := h.keys_nodup
  keys_mentioned := h.keys_mentioned
  mentioned {n node el} hn hel := by
    rcases getElem?_concat.1 hn with hn | ⟨-, rfl⟩
    · exact h.mentioned hn hel
    · cases hel
  role {n node el} hn hel := by
    rcases getElem?_concat.1 hn with hn | ⟨-, rfl⟩
    · exact h.role hn hel
    · cases hel
  edge {a b k} hk := by
    have hgrows := grows_addWork p w goal
    have hk' : p.graph.edge? a b = some k := (Digraph.edge?_addNode ..).symm.trans hk
    exact (h.edge hk').imp_right fun hor => hor.imp_right fun hworks =>
      ⟨hworks.1.grows hgrows, hworks.2.grows hgrows⟩

/-- An element that is not led has no dependencies yet. -/
theorem Bare.outgoing_eq_nil (h : Bare d p) {n : NodeId} {node : Node} {el : Element}
    (hn : p.nodes[n]? = some node) (hel : node.element? = some el) (hfree : p.leader? n = none) :
    p.graph.outgoing n = [] := by
  rw [List.eq_nil_iff_forall_not_mem]
  rintro ⟨b, k⟩ hmem
  have hedge := h.edge (h.sound.coherent.toTidy.edge?_eq_some.2 hmem)
  rcases hedge.2 with hled | ⟨⟨node', hn', hwork⟩, -⟩
  · rw [hfree] at hled
    cases hled
  · obtain rfl : node = node' := Option.some.inj (hn.symm.trans hn')
    rw [hel] at hwork
    cases hwork

/-- An element joins the group of some work. -/
theorem Bare.join (h : Bare d p) {n l : NodeId} {node : Node} {el : Element}
    (hn : p.nodes[n]? = some node) (hel : node.element? = some el) (hfree : p.leader? n = none)
    (hl : p.IsWork l) : Bare d ((p.link n l .hard).enlist n l) ∧
      p.Grows ((p.link n l .hard).enlist n l) := by
  obtain ⟨lnode, hlnode, hlwork⟩ := hl
  have hlink := h.sound.link (lt_of_node hn) (lt_of_node hlnode) .hard
  have hedge : (p.link n l .hard).graph.edge? n l = some .hard := by
    rw [edge?_link, if_pos ⟨rfl, rfl⟩]
    simp
  have hgrows : p.Grows ((p.link n l .hard).enlist n l) :=
    (grows_link p n l .hard).trans (grows_enlist (p := p.link n l .hard) hfree l)
  refine ⟨⟨⟨hlink.enlist hfree hedge ⟨node, el, hn, hel⟩ ⟨lnode, hlnode, hlwork⟩, h.length,
    h.keys_nodup, h.keys_mentioned, h.mentioned⟩, h.role, fun {a b k} hk => ?_⟩, hgrows⟩
  have hk' : (p.link n l .hard).graph.edge? a b = some k := hk
  have hleader : ∀ f, ((p.link n l .hard).enlist n l).leader? f =
      if f = n then some l else p.leader? f := leader?_enlist (p := p.link n l .hard) hfree l
  rw [edge?_link] at hk'
  -- the new edge goes to the leader, and every other one has the source that it had
  by_cases hab : a = n ∧ b = l
  · rw [if_pos hab] at hk'
    refine ⟨?_, .inl ?_⟩
    · rw [← Option.some.inj hk']
      simp
    · rw [hleader, if_pos hab.1, hab.2]
  · rw [if_neg hab] at hk'
    refine (h.edge hk').imp_right fun hor => hor.imp (hgrows.leader? ·) fun hworks =>
      ⟨hworks.1.grows hgrows, hworks.2.grows hgrows⟩

/-- What adopting some elements comes to: they have nodes that are led by `l`, and no work has come
in. -/
structure Adopted (d : Deployment) (l : NodeId) (cs : List ElementChange) (p p' : Plan) :
    Prop where
  bare : Bare d p'
  grows : p.Grows p'
  works : p'.works = p.works
  led : ∀ c ∈ cs, ∃ f, p'.leader? f = some l ∧ p'.nodeOf? c.element.id = some f
  fresh : ∀ {n : NodeId} {node : Node}, p'.nodes[n]? = some node →
    p.nodes[n]? = some node ∨ node.actsFor = []

/-- Changes are adopted one after another. -/
theorem Adopted.cons {q : Plan} {l : NodeId} {c : ElementChange} {cs : List ElementChange}
    (h : Adopted d l [c] p q) (h' : Adopted d l cs q p') : Adopted d l (c :: cs) p p' where
  bare := h'.bare
  grows := h.grows.trans h'.grows
  works := h'.works.trans h.works
  led c' hc' := by
    rcases List.mem_cons.1 hc' with rfl | hc'
    · obtain ⟨f, hled, hnodeOf⟩ := h.led c' (List.mem_singleton_self c')
      exact ⟨f, h'.grows.leader? hled, h'.grows.nodeOf? hnodeOf⟩
    · exact h'.led c' hc'
  fresh hn := by
    rcases h'.fresh hn with hn | hnone
    · exact h.fresh hn
    · exact .inr hnone

/-- A new element's node acts for nothing. -/
theorem fresh_addElement {e : Element} {goal : Goal} {m : NodeId} {node : Node}
    (hm : (p.addElement e goal).1.nodes[m]? = some node) :
    p.nodes[m]? = some node ∨ node.actsFor = [] := by
  refine (node_addElement hm).imp_right fun ⟨_, _, hrole⟩ => ?_
  unfold Node.actsFor
  rw [hrole]

/-- The first element is adopted unless another action leads it. -/
theorem adopt_cons (h : Bare d p) {l : NodeId} (hl : p.IsWork l) {c : ElementChange}
    {cs : List ElementChange} (hc : c.element ∈ d.mentioned)
    (hadopt : adopt l (c :: cs) p = (p', none)) :
    ∃ q, Adopted d l [c] p q ∧ adopt l cs q = (p', none) := by
  unfold adopt at hadopt
  have hadd := h.addElement hc c.kind.goal
  have hgrows := grows_addElement p c.element c.kind.goal
  have hnodeOf := nodeOf?_addElement p c.element c.kind.goal
  have hworks := works_addElement p c.element c.kind.goal
  have hfresh : ∀ {n : NodeId} {node : Node},
      (p.addElement c.element c.kind.goal).1.nodes[n]? = some node →
      p.nodes[n]? = some node ∨ node.actsFor = [] := fun hn => fresh_addElement hn
  generalize p.addElement c.element c.kind.goal = added at *
  obtain ⟨q, n⟩ := added
  simp only at hadopt hadd hgrows hnodeOf hworks hfresh
  cases hled : q.leader? n with
  | some l' =>
    rw [hled] at hadopt
    by_cases hll : l' = l
    · -- the action leads it already
      simp only [hll, if_true] at hadopt
      refine ⟨q, ⟨hadd, hgrows, hworks, fun c' hc' => ?_, hfresh⟩, hadopt⟩
      obtain rfl := List.mem_singleton.1 hc'
      exact ⟨n, hled.trans (congrArg some hll), hnodeOf⟩
    · simp only [hll, if_false] at hadopt
      cases (Prod.mk.inj hadopt).2
  | none =>
    -- Nobody leads it, and it has no dependencies yet that the action would take over.
    obtain ⟨node, el, hn, hel, -⟩ := hadd.sound.nodeOf?_eq_some_iff.1 hnodeOf
    rw [hled, setGroup_eq_ok hled (hadd.outgoing_eq_nil hn hel hled)] at hadopt
    obtain ⟨hjoin, hgrows'⟩ := hadd.join hn hel hled (hl.grows hgrows)
    refine ⟨_, ⟨hjoin, hgrows.trans hgrows', hworks, fun c' hc' => ?_, hfresh⟩, hadopt⟩
    obtain rfl := List.mem_singleton.1 hc'
    exact ⟨n, (leader?_enlist (p := q.link n l .hard) hled l n).trans (if_pos rfl), hnodeOf⟩

/-- Changes that are adopted without an error are led by the action. -/
theorem adopt_spec (h : Bare d p) {l : NodeId} (hl : p.IsWork l) {cs : List ElementChange}
    (hcs : ∀ c ∈ cs, c.element ∈ d.mentioned) (hadopt : adopt l cs p = (p', none)) :
    Adopted d l cs p p' := by
  induction cs generalizing p with
  | nil =>
    obtain ⟨rfl, -⟩ := Prod.mk.inj hadopt
    exact ⟨h, .refl p, rfl, nofun, .inl⟩
  | cons c cs ih =>
    obtain ⟨q, hone, hrest⟩ := adopt_cons h hl (hcs c List.mem_cons_self) hadopt
    have hcs' := fun c' hc' => hcs c' (List.mem_cons_of_mem c hc')
    exact hone.cons (ih hone.bare (hl.grows hone.grows) hcs' hrest)

/-- What adding an action comes to. -/
theorem Skeleton.addAction {as : List Action} (h : Skeleton d as p) {a : Action}
    (ha : a ∈ d.allActions) {n : NodeId} (hadd : Deployment.addAction p a = .ok (p', n)) :
    Skeleton d (as ++ [a]) p' ∧ p.Grows p' ∧
      ∃ node : Node, p'.works = p.works ++ [node] ∧ node.id = n ∧ p'.IsWork n := by
  unfold Deployment.addAction Plan.addAction at hadd
  have hwork := h.toBare.addWork (workOf a) a.kind.goal
  have hgrows := grows_addWork p (workOf a) a.kind.goal
  have hworks := works_addWork p (workOf a) a.kind.goal
  have hnode : (p.addWork (workOf a) a.kind.goal).1.nodes[p.nodes.length]? =
      some ⟨p.nodes.length, "W:" ++ toString p.nextWork, a.kind.goal, .work (workOf a)⟩ :=
    getElem?_concat.2 (.inr ⟨rfl, rfl⟩)
  have hnew : ∀ {m : NodeId} {node : Node},
      (p.addWork (workOf a) a.kind.goal).1.nodes[m]? = some node →
      p.nodes[m]? = some node ∨ m = p.nodes.length ∧ node.role = .work (workOf a) := by
    intro m node hm
    rcases getElem?_concat.1 hm with hold | ⟨hlast, rfl⟩
    · exact .inl hold
    · exact .inr ⟨hlast, rfl⟩
  have hsnd : (p.addWork (workOf a) a.kind.goal).2 = p.nodes.length := rfl
  generalize p.addWork (workOf a) a.kind.goal = added at *
  obtain ⟨q, m⟩ := added
  simp only at hadd hwork hgrows hworks hnode hnew hsnd
  subst hsnd
  cases hadopt : adopt p.nodes.length a.changes q with
  | mk q' fault =>
    rw [hadopt] at hadd
    cases fault with
    | some f => cases hadd
    | none =>
      -- the action has been adopted without an error, which `Deployment.addAction` passes on
      obtain ⟨rfl, rfl⟩ := Prod.mk.inj (Except.ok.inj hadd)
      have hchanges : ∀ c ∈ a.changes, c.element ∈ d.mentioned := fun c hc =>
        List.mem_append_right _ (List.mem_flatMap.2 ⟨a, ha, List.mem_map_of_mem hc⟩)
      have hisWork : q.IsWork p.nodes.length := ⟨_, hnode, rfl⟩
      have hadopted := adopt_spec hwork hisWork hchanges hadopt
      have hgrows' := hgrows.trans hadopted.grows
      refine ⟨⟨hadopted.bare, ?_, fun {l node b} hl hb => ?_⟩, hgrows', _,
        hadopted.works.trans hworks, rfl, hisWork.grows hadopted.grows⟩
      · rw [hadopted.works, hworks, List.map_append, List.map_append, h.parts]
        rfl
      · rcases hadopted.fresh hl with hl | hnone
        · rcases hnew hl with hl | ⟨rfl, hrole⟩
          · exact (h.acts hl hb).imp fun f hf => ⟨hgrows'.leader? hf.1, hgrows'.nodeOf? hf.2⟩
          · -- The new action acts for the elements that have just been adopted.
            unfold Node.actsFor at hb
            rw [hrole] at hb
            obtain ⟨c, hc, rfl⟩ := List.mem_map.1 hb
            exact hadopted.led c hc
        · rw [hnone] at hb
          cases hb

/-! ## Series -/

/-- The edge that the direction rule allows, if it allows any. -/
theorem addDependency_eq_ok {m n : NodeId} {nm nn : Node} {k : EdgeKind}
    (hm : p.nodes[m]? = some nm) (hn : p.nodes[n]? = some nn)
    (h : p.addDependency m n k = .ok p') :
    (nm.goal = .deployed ∧ nn.goal = .deployed ∧ p' = p.link (p.lead m) n k) ∨
      (nm.goal = .destroyed ∧ nn.goal = .destroyed ∧ p' = p.link (p.lead n) m k) ∨
      (nm.goal = .destroyed ∧ nn.goal = .deployed ∧ p' = p) := by
  unfold Plan.addDependency at h
  obtain ⟨edge, hedge, h⟩ := bind_eq_ok.1 h
  unfold Plan.direction at hedge
  rw [node_eq_ok_iff.2 hm, node_eq_ok_iff.2 hn] at hedge
  cases hgm : nm.goal <;> cases hgn : nn.goal
  · obtain rfl : some (m, n) = edge := by
      simpa [hgm, hgn, bind_eq_ok, pure, Except.pure] using hedge
    exact .inl ⟨rfl, rfl, (Except.ok.inj h).symm⟩
  · simp [hgm, hgn, bind, Except.bind, throw, throwThe, MonadExceptOf.throw] at hedge
  · obtain rfl : none = edge := by
      simpa [hgm, hgn, bind_eq_ok, pure, Except.pure] using hedge
    exact .inr (.inr ⟨rfl, rfl, (Except.ok.inj h).symm⟩)
  · obtain rfl : some (n, m) = edge := by
      simpa [hgm, hgn, bind_eq_ok, pure, Except.pure] using hedge
    exact .inr (.inl ⟨rfl, rfl, (Except.ok.inj h).symm⟩)

/-- A hard edge between two nodes of work keeps the skeleton in order. -/
theorem Skeleton.link {as : List Action} (h : Skeleton d as p) {a b : NodeId} (ha : p.IsWork a)
    (hb : p.IsWork b) : Skeleton d as (p.link a b .hard) := by
  have hgrows := grows_link p a b .hard
  refine ⟨⟨⟨h.sound.link ?_ ?_ .hard, h.length, h.keys_nodup, h.keys_mentioned, h.mentioned⟩,
    h.role, fun {c e k} hk => ?_⟩, h.parts, h.acts⟩
  · obtain ⟨node, hnode, -⟩ := ha
    exact lt_of_node hnode
  · obtain ⟨node, hnode, -⟩ := hb
    exact lt_of_node hnode
  · rw [edge?_link] at hk
    by_cases hce : c = a ∧ e = b
    · rw [if_pos hce] at hk
      refine ⟨?_, .inr ⟨hce.1 ▸ ha.grows hgrows, hce.2 ▸ hb.grows hgrows⟩⟩
      rw [← Option.some.inj hk]
      simp
    · rw [if_neg hce] at hk
      exact (h.edge hk).imp_right fun hor => hor.imp_right fun hworks =>
        ⟨hworks.1.grows hgrows, hworks.2.grows hgrows⟩

/-- An action of a series is put in order with the one before it. -/
theorem Skeleton.addDependency {as : List Action} (h : Skeleton d as p) {u v : Node}
    (hu : p.nodes[u.id]? = some u) (hv : p.nodes[v.id]? = some v) (huwork : u.element? = none)
    (hvwork : v.element? = none) (hadd : p.addDependency v.id u.id .hard = .ok p') :
    Skeleton d as p' ∧ p.Grows p' ∧ p'.works = p.works ∧ p'.InOrder u v := by
  have huW : p.IsWork u.id := ⟨u, hu, huwork⟩
  have hvW : p.IsWork v.id := ⟨v, hv, hvwork⟩
  have hlead : ∀ {n}, p.IsWork n → p.lead n = n := fun hn =>
    lead_of_free (hn.leader?_eq_none h.sound)
  rcases addDependency_eq_ok hv hu hadd with ⟨hgv, hgu, rfl⟩ | ⟨hgv, hgu, rfl⟩ | ⟨hgv, hgu, rfl⟩
  · -- both are to be deployed, and the later one waits
    rw [hlead hvW]
    refine ⟨h.link hvW huW, grows_link .., rfl, fun _ => ⟨hgu, ?_⟩, fun hg => ?_⟩
    · rw [edge?_link, if_pos ⟨rfl, rfl⟩]
      simp
    · rw [hgu] at hg
      cases hg
  · -- both are to be destroyed, and the earlier one waits
    rw [hlead huW]
    refine ⟨h.link huW hvW, grows_link .., rfl, fun hg => ?_, fun _ => ⟨hgv, ?_⟩⟩
    · rw [hgv] at hg
      cases hg
    · rw [edge?_link, if_pos ⟨rfl, rfl⟩]
      simp
  · -- one to be destroyed after one to be deployed: there is no edge, and no order is claimed
    refine ⟨h, .refl p', rfl, fun hg => ?_, fun hg => ?_⟩
    · rw [hgv] at hg
      cases hg
    · rw [hgu] at hg
      cases hg

/-- A node among the work of a plan is in its arena. -/
theorem Sound.node_of_mem_works (hp : p.Sound) {u : Node} (hu : u ∈ p.works) :
    p.nodes[u.id]? = some u ∧ u.element? = none := by
  obtain ⟨hmem, hwork⟩ := mem_works_iff.1 hu
  obtain ⟨n, hn⟩ := List.mem_iff_getElem?.1 hmem
  refine ⟨?_, hwork⟩
  rw [hp.id_eq hn, hn]

/-- An action of a series is put in order with the one before it, if there is one. -/
theorem Skeleton.addOptionalDependency {as : List Action} (h : Skeleton d as p)
    {before : Option Node} {v : Node} (hbefore : ∀ u, before = some u → u ∈ p.works)
    (hv : v ∈ p.works) (hadd : (before.elim (Except.ok p) fun u =>
      p.addDependency v.id u.id .hard) = .ok p') :
    Skeleton d as p' ∧ p.Grows p' ∧ p'.works = p.works ∧
      ∀ u, before = some u → p'.InOrder u v := by
  cases before with
  | none =>
    obtain rfl := Except.ok.inj hadd
    exact ⟨h, .refl p, rfl, nofun⟩
  | some u =>
    obtain ⟨hvnode, hvwork⟩ := h.sound.node_of_mem_works hv
    obtain ⟨hunode, huwork⟩ := h.sound.node_of_mem_works (hbefore u rfl)
    obtain ⟨h', hgrows, hworks, horder⟩ := h.addDependency hunode hvnode huwork hvwork hadd
    exact ⟨h', hgrows, hworks, fun u' hu' => Option.some.inj hu' ▸ horder⟩

/-- The actions of a series get their nodes in order, each in order with the one before it. -/
theorem addSeries_spec {as : List Action} (h : Skeleton d as p) {group : List Action}
    (hgroup : ∀ a ∈ group, a ∈ d.allActions) {before : Option Node}
    (hbefore : ∀ u, before = some u → u ∈ p.works)
    (hadd : Deployment.addSeries (before.map (·.id)) group p = .ok p') :
    Skeleton d (as ++ group) p' ∧ p.Grows p' ∧ ∃ new : List Node, p'.works = p.works ++ new ∧
      new.length = group.length ∧ (before.toList ++ new).IsChain p'.InOrder := by
  induction group generalizing p as before with
  | nil =>
    obtain rfl := Except.ok.inj hadd
    refine ⟨by rw [List.append_nil]; exact h, .refl p, [], by simp, rfl, ?_⟩
    cases before with
    | none => exact .nil
    | some u => exact .singleton u
  | cons a group ih =>
    unfold Deployment.addSeries at hadd
    obtain ⟨⟨p₁, n⟩, hone, hadd⟩ := bind_eq_ok.1 hadd
    obtain ⟨h₁, hgrows₁, v, hworks₁, hid, hnwork⟩ := h.addAction (hgroup a List.mem_cons_self) hone
    have hv : v ∈ p₁.works := by
      rw [hworks₁]
      exact List.mem_append_right _ (List.mem_singleton_self v)
    -- the first action of a series depends on nothing, and each later one on the one before
    obtain ⟨p₂, htwo, hadd⟩ : ∃ p₂, (before.elim (Except.ok p₁) fun u =>
            p₁.addDependency n u.id .hard) = .ok p₂ ∧
          Deployment.addSeries (some n) group p₂ = .ok p' := by
      cases before with
      | none => exact ⟨p₁, rfl, hadd⟩
      | some u => exact bind_eq_ok.1 hadd
    have hbefore₁ : ∀ u, before = some u → u ∈ p₁.works := by
      intro u hu
      rw [hworks₁]
      exact List.mem_append_left _ (hbefore u hu)
    obtain ⟨h₂, hgrows₂, hworks₂, horder⟩ :=
      h₁.addOptionalDependency hbefore₁ hv (by rw [hid]; exact htwo)
    have hadd' : Deployment.addSeries ((some v).map (·.id)) group p₂ = .ok p' := by
      rw [Option.map_some, hid]
      exact hadd
    obtain ⟨h₃, hgrows₃, new, hworks₃, hlength, hchain⟩ :=
      ih h₂ (fun b hb => hgroup b (List.mem_cons_of_mem a hb))
        (fun u hu => by rw [hworks₂, ← Option.some.inj hu]; exact hv) hadd'
    refine ⟨by rw [List.append_cons]; exact h₃, (hgrows₁.trans hgrows₂).trans hgrows₃, v :: new,
      ?_, by rw [List.length_cons, List.length_cons, hlength], ?_⟩
    · rw [hworks₃, hworks₂, hworks₁, List.append_assoc]
      rfl
    · cases before with
      | none => exact hchain
      | some u => exact .cons_cons ((horder u rfl).grows hgrows₃) hchain

/-- Where the nodes of a series are among the work of a plan. -/
def SeriesAt (p : Plan) (k : ℕ) (group : List Action) : Prop :=
  ∃ pre new post : List Node, p.works = pre ++ new ++ post ∧ pre.length = k ∧
    new.length = group.length ∧ new.IsChain p.InOrder

/-- A series stays where it is while the plan grows. -/
theorem SeriesAt.grows {k : ℕ} {group : List Action} (h : p.SeriesAt k group)
    (hp : p.Grows p') : p'.SeriesAt k group := by
  obtain ⟨pre, new, post, hworks, hk, hlength, hchain⟩ := h
  obtain ⟨rest, hrest⟩ := hp.works
  refine ⟨pre, new, post ++ rest, ?_, hk, hlength, hchain.imp fun _ _ h => h.grows hp⟩
  rw [← hrest, hworks, List.append_assoc]

/-- Actions outside every series come in their order. -/
theorem foldlM_addAction_spec {as : List Action} (h : Skeleton d as p) {bs : List Action}
    (hbs : ∀ a ∈ bs, a ∈ d.allActions)
    (hadd : bs.foldlM (fun p a => Prod.fst <$> Deployment.addAction p a) p = .ok p') :
    Skeleton d (as ++ bs) p' ∧ p.Grows p' := by
  induction bs generalizing p as with
  | nil =>
    obtain rfl := Except.ok.inj hadd
    rw [List.append_nil]
    exact ⟨h, .refl p⟩
  | cons a bs ih =>
    rw [List.foldlM_cons] at hadd
    obtain ⟨p₁, hone, hadd⟩ := bind_eq_ok.1 hadd
    cases hone' : Deployment.addAction p a with
    | error f => rw [hone'] at hone; cases hone
    | ok added =>
      rw [hone'] at hone
      obtain rfl := Except.ok.inj hone
      obtain ⟨h₁, hgrows₁, -⟩ := h.addAction (hbs a List.mem_cons_self) hone'
      obtain ⟨h₂, hgrows₂⟩ := ih h₁ (fun b hb => hbs b (List.mem_cons_of_mem a hb)) hadd
      rw [List.append_cons]
      exact ⟨h₂, hgrows₁.trans hgrows₂⟩

/-- The series come after them, one after another, each of them in order. -/
theorem foldlM_addSeries_spec {as : List Action} (h : Skeleton d as p)
    {groups : List (List Action)} (hgroups : ∀ group ∈ groups, ∀ a ∈ group, a ∈ d.allActions)
    (hadd : groups.foldlM (fun p group => Deployment.addSeries none group p) p = .ok p') :
    Skeleton d (as ++ groups.flatten) p' ∧ p.Grows p' ∧ ∀ pre group post,
      groups = pre ++ group :: post → p'.SeriesAt (as.length + pre.flatten.length) group := by
  induction groups generalizing p as with
  | nil =>
    obtain rfl := Except.ok.inj hadd
    refine ⟨?_, .refl p, fun pre group post hsplit => ?_⟩
    · rw [List.flatten_nil, List.append_nil]
      exact h
    · simp at hsplit
  | cons group groups ih =>
    rw [List.foldlM_cons] at hadd
    obtain ⟨p₁, hone, hadd⟩ := bind_eq_ok.1 hadd
    have hnone : ∀ u : Node, none = some u → u ∈ p.works := nofun
    obtain ⟨h₁, hgrows₁, new, hworks, hlength, hchain⟩ :=
      addSeries_spec h (hgroups group List.mem_cons_self) hnone hone
    obtain ⟨h₂, hgrows₂, hseries⟩ :=
      ih h₁ (fun g hg => hgroups g (List.mem_cons_of_mem group hg)) hadd
    refine ⟨by rw [List.flatten_cons, ← List.append_assoc]; exact h₂, hgrows₁.trans hgrows₂,
      fun pre g post hsplit => ?_⟩
    -- The first series follows the work there is already, and the others follow it.
    cases pre with
    | nil =>
      obtain ⟨rfl, -⟩ := List.cons.inj hsplit
      have hcount : p.works.length = as.length := by
        have := congrArg List.length h.parts
        simpa using this
      refine SeriesAt.grows ⟨p.works, new, [], ?_, hcount, hlength, hchain⟩ hgrows₂
      rw [hworks, List.append_nil]
    | cons g' pre =>
      obtain ⟨rfl, hrest⟩ := List.cons.inj hsplit
      have hat := hseries pre g post hrest
      rw [List.length_append] at hat
      rw [List.flatten_cons, List.length_append, ← Nat.add_assoc]
      exact hat

/-- The plan of the elements alone, before any action has come in. -/
def ground (d : Deployment) : Plan :=
  Deployment.addElements .destroyed d.deleted
    (Deployment.addElements .deployed d.present (Plan.empty d.goal {}))

/-- The plan as it stands before criteria are resolved. -/
theorem skeleton_spec (h : d.skeleton = .ok p) : Skeleton d d.allActions p ∧ (ground d).Grows p ∧
    ∀ pre group post, d.series = pre ++ group :: post →
      p.SeriesAt (d.actions.length + pre.flatten.length) group := by
  unfold Deployment.skeleton at h
  obtain ⟨-, -, h⟩ := bind_eq_ok.1 h
  obtain ⟨p₁, hactions, hseries⟩ := bind_eq_ok.1 h
  have hpresent : ∀ e ∈ d.present, e ∈ d.mentioned := fun e he =>
    List.mem_append_left _ (List.mem_append_left _ he)
  have hdeleted : ∀ e ∈ d.deleted, e ∈ d.mentioned := fun e he =>
    List.mem_append_left _ (List.mem_append_right _ he)
  obtain ⟨h₁, hgrows₁⟩ := foldlM_addAction_spec
    (((Skeleton.empty d).addElements .deployed hpresent).addElements .destroyed hdeleted)
    (fun a ha => List.mem_append_left _ ha) hactions
  rw [List.nil_append] at h₁
  obtain ⟨h₂, hgrows₂, hat⟩ := foldlM_addSeries_spec h₁
    (fun group hgroup a ha => List.mem_append_right _ (List.mem_flatten.2 ⟨group, hgroup, ha⟩))
    hseries
  exact ⟨h₂, hgrows₁.trans hgrows₂, hat⟩

end Plan

end Rollout
