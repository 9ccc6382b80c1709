import Rollout.Plan.Deployment
import Rollout.Proofs.Plan.Sound

/-!
# How plans grow

A plan is built by a few operations that only ever add to it.  Each of them keeps a plan sound, and
what it keeps of the plan before is `Grows`: nodes stay, and may at most have their criteria
settled; edges stay, and those that are hard stay hard.
-/

namespace Rollout.Plan

variable {p p' p'' : Plan}

/-- The nodes that stand for work, in order. -/
def works (p : Plan) : List Node := p.nodes.filter (·.isWork)

/-- Whatever has no element is work. -/
theorem mem_works_iff {node : Node} : node ∈ p.works ↔ node ∈ p.nodes ∧ node.element? = none :=
  List.mem_filter.trans (and_congr_right fun _ => Option.isNone_iff_eq_none)

/-- Only work acts for elements. -/
theorem element?_of_actsFor {node : Node} {a : ActingFor} (h : a ∈ node.actsFor) :
    node.element? = none := by
  unfold Node.actsFor at h
  unfold Node.element?
  cases hrole : node.role with
  | work w => rfl
  | element e c =>
    rw [hrole] at h
    cases h

/-- The node that has the dependencies of a node: its leader, if it is led. -/
def lead (p : Plan) (n : NodeId) : NodeId := (p.leader? n).getD n

theorem lead_of_led {f l : NodeId} (h : p.leader? f = some l) : p.lead f = l := by
  unfold lead
  rw [h]
  rfl

theorem lead_of_free {n : NodeId} (h : p.leader? n = none) : p.lead n = n := by
  unfold lead
  rw [h]
  rfl

/-- Whoever speaks for a node has no leader. -/
theorem Sound.leader?_lead (hp : p.Sound) (n : NodeId) : p.leader? (p.lead n) = none := by
  cases hl : p.leader? n with
  | none => rw [lead_of_free hl, hl]
  | some l => rw [lead_of_led hl, hp.leader_free hl]

/-- Whoever speaks for a node is a node of the plan. -/
theorem Sound.lead_lt (hp : p.Sound) {n : NodeId} (hn : n < p.nodes.length) :
    p.lead n < p.nodes.length := by
  cases hl : p.leader? n with
  | none =>
    rw [lead_of_free hl]
    exact hn
  | some l =>
    rw [lead_of_led hl]
    exact hp.target_lt (hp.edge_leader hl)

/-- What an operation keeps of a plan. -/
structure Grows (p p' : Plan) : Prop where
  node : ∀ {n : NodeId} {node : Node}, p.nodes[n]? = some node →
    ∃ node' : Node, p'.nodes[n]? = some node' ∧ node'.goal = node.goal ∧
      node'.element? = node.element? ∧ (node.element? = none → node' = node)
  works : p.works <+: p'.works
  nodeOf? : ∀ {e n}, p.nodeOf? e = some n → p'.nodeOf? e = some n
  leader? : ∀ {f l}, p.leader? f = some l → p'.leader? f = some l
  edge : ∀ {a b}, (p.graph.edge? a b).isSome = true → (p'.graph.edge? a b).isSome = true
  hard : ∀ {a b}, p.graph.edge? a b = some .hard → p'.graph.edge? a b = some .hard
  attached : p'.context.attached = p.context.attached

namespace Grows

/-- A plan that stays as it is counts as grown. -/
theorem refl (p : Plan) : p.Grows p where
  node h := ⟨_, h, rfl, rfl, fun _ => rfl⟩
  works := List.prefix_refl _
  nodeOf? h := h
  leader? h := h
  edge h := h
  hard h := h
  attached := rfl

/-- Plans grow step by step. -/
theorem trans (h : p.Grows p') (h' : p'.Grows p'') : p.Grows p'' where
  node hnode := by
    obtain ⟨node', hnode', hgoal, hel, hwork⟩ := h.node hnode
    obtain ⟨node'', hnode'', hgoal', hel', hwork'⟩ := h'.node hnode'
    refine ⟨node'', hnode'', hgoal'.trans hgoal, hel'.trans hel, fun hnone => ?_⟩
    rw [hwork' (hel.trans hnone), hwork hnone]
  works := h.works.trans h'.works
  nodeOf? hn := h'.nodeOf? (h.nodeOf? hn)
  leader? hl := h'.leader? (h.leader? hl)
  edge he := h'.edge (h.edge he)
  hard he := h'.hard (h.hard he)
  attached := h'.attached.trans h.attached

end Grows

/-! ## Tables -/

/-- The tables of a plan agree: nodes stand at their own places, elements have the nodes that stand
for them, and those who are led are listed with those who lead them. -/
structure Indexed (p : Plan) : Prop where
  id_eq : ∀ {n : NodeId} {node : Node}, p.nodes[n]? = some node → node.id = n
  nodeOf?_eq_some_iff : ∀ {e n}, p.nodeOf? e = some n ↔
    ∃ node el, p.nodes[n]? = some node ∧ node.element? = some el ∧ el.id = e
  mem_followersOf : ∀ {f l}, f ∈ p.followersOf l ↔ p.leader? f = some l

/-- The context knows the nodes of the elements, with their goals. -/
structure Disclosed (p : Plan) : Prop where
  context_iff : ∀ {e n g}, p.context.elements.lookup e = some (n, g) ↔
    p.nodeOf? e = some n ∧ ∃ node, p.nodes[n]? = some node ∧ node.goal = g

theorem Sound.indexed (hp : p.Sound) : p.Indexed :=
  ⟨hp.id_eq, hp.nodeOf?_eq_some_iff, hp.mem_followersOf⟩

theorem Sound.disclosed (hp : p.Sound) : p.Disclosed := ⟨hp.context_iff⟩

/-- A node stands for one element. -/
theorem Indexed.eq_of_nodeOf? (hp : p.Indexed) {e e' : ElementId} {n : NodeId}
    (h : p.nodeOf? e = some n) (h' : p.nodeOf? e' = some n) : e = e' := by
  obtain ⟨node, el, hnode, hel, rfl⟩ := hp.nodeOf?_eq_some_iff.1 h
  obtain ⟨node', el', hnode', hel', rfl⟩ := hp.nodeOf?_eq_some_iff.1 h'
  obtain rfl := Option.some.inj (hnode.symm.trans hnode')
  rw [Option.some.inj (hel.symm.trans hel')]

/-! ## New nodes -/

/-- With one more node, the live graph has all nodes up to it. -/
theorem contains_addNode_length (hp : p.Sound) {n : NodeId} :
    (p.graph.addNode p.nodes.length).contains n = true ↔ n < p.nodes.length + 1 := by
  rw [Digraph.contains_addNode, Bool.or_eq_true, hp.contains_iff, beq_iff_eq]
  exact Nat.lt_succ_iff_lt_or_eq.symm

/-- Work that is added leaves the entries of elements alone. -/
theorem Indexed.addWork (hp : p.Indexed) (w : Work) (goal : Goal) :
    (p.addWork w goal).1.Indexed where
  id_eq h := by
    rcases getElem?_concat.1 h with h | ⟨rfl, rfl⟩
    · exact hp.id_eq h
    · rfl
  nodeOf?_eq_some_iff {e n} := by
    refine (hp.nodeOf?_eq_some_iff (e := e) (n := n)).trans ?_
    constructor
    · rintro ⟨node, el, h, hel⟩
      exact ⟨node, el, getElem?_concat.2 (.inl h), hel⟩
    · rintro ⟨node, el, h, hel, rfl⟩
      rcases getElem?_concat.1 h with h | ⟨rfl, rfl⟩
      · exact ⟨node, el, h, hel, rfl⟩
      · cases hel
  mem_followersOf := hp.mem_followersOf

/-- Work is not known to the context. -/
theorem Disclosed.addWork (h : p.Disclosed) (hp : p.Indexed) (w : Work) (goal : Goal) :
    (p.addWork w goal).1.Disclosed := by
  refine ⟨fun {e n g} => ?_⟩
  refine (h.context_iff (e := e) (n := n) (g := g)).trans (and_congr_right fun hn => ?_)
  obtain ⟨node, -, hnode, -⟩ := hp.nodeOf?_eq_some_iff.1 hn
  have hnode' : (p.addWork w goal).1.nodes[n]? = some node := getElem?_concat.2 (.inl hnode)
  rw [hnode, hnode']

/-- A plan stays sound when work is added. -/
theorem Sound.addWork (hp : p.Sound) (w : Work) (goal : Goal) : (p.addWork w goal).1.Sound where
  id_eq := (hp.indexed.addWork w goal).id_eq
  coherent := hp.coherent.addNode _
  contains_iff := by
    refine (contains_addNode_length hp).trans ?_
    simp [Plan.addWork, pushNode]
  nodeOf?_eq_some_iff := (hp.indexed.addWork w goal).nodeOf?_eq_some_iff
  context_iff := (hp.disclosed.addWork hp.indexed w goal).context_iff
  mem_followersOf := hp.mem_followersOf
  edge_leader h := (Digraph.edge?_addNode ..).trans (hp.edge_leader h)
  follower_element h := by
    obtain ⟨node, el, hnode, hel⟩ := hp.follower_element h
    exact ⟨node, el, getElem?_concat.2 (.inl hnode), hel⟩
  leader_work h := by
    obtain ⟨node, hnode, hwork⟩ := hp.leader_work h
    exact ⟨node, getElem?_concat.2 (.inl hnode), hwork⟩

theorem grows_addWork (p : Plan) (w : Work) (goal : Goal) : p.Grows (p.addWork w goal).1 where
  node h := ⟨_, getElem?_concat.2 (.inl h), rfl, rfl, fun _ => rfl⟩
  works := by
    show p.nodes.filter _ <+: (p.nodes ++ [_]).filter _
    rw [List.filter_append]
    exact List.prefix_append _ _
  nodeOf? h := h
  leader? h := h
  edge h := by
    show ((p.graph.addNode _).edge? _ _).isSome = true
    rw [Digraph.edge?_addNode]
    exact h
  hard h := (Digraph.edge?_addNode ..).trans h
  attached := rfl

/-- The plan with a new node for an element. -/
def withElement (p : Plan) (e : Element) (goal : Goal) : Plan :=
  { p with
    nodes := p.nodes ++ [⟨p.nodes.length, "E:" ++ e.id, goal, .element e none⟩]
    graph := p.graph.addNode p.nodes.length
    elementNodes := p.elementNodes ++ [(e.id, p.nodes.length)]
    context := p.context.register e.id p.nodes.length goal }

/-- An element that is registered does not attach the context. -/
theorem attached_withElement (p : Plan) (e : Element) (goal : Goal) :
    (p.withElement e goal).context.attached = p.context.attached := by
  show (p.context.register e.id p.nodes.length goal).attached = _
  unfold Context.register
  split <;> rfl

/-- An element that has no node yet gets the next one. -/
theorem addElement_of_none {e : Element} (h : p.nodeOf? e.id = none) (goal : Goal) :
    p.addElement e goal = (p.withElement e goal, p.nodes.length) := by
  unfold Plan.addElement
  rw [h]
  rfl

/-- An element that is known keeps its node. -/
theorem addElement_of_some {e : Element} {n : NodeId} (h : p.nodeOf? e.id = some n)
    (goal : Goal) : p.addElement e goal = (p, n) := by
  unfold Plan.addElement
  rw [h]

/-- A new element gets the next node. -/
theorem nodeOf?_withElement {e : Element} (h : p.nodeOf? e.id = none) (goal : Goal)
    (e' : ElementId) : (p.withElement e goal).nodeOf? e' =
      if e' = e.id then some p.nodes.length else p.nodeOf? e' :=
  lookup_concat h

/-- The context takes an element that has no node yet. -/
theorem Disclosed.lookup_withElement (h : p.Disclosed) {e : Element}
    (hfresh : p.nodeOf? e.id = none) (goal : Goal) (e' : ElementId) :
    (p.withElement e goal).context.elements.lookup e' =
      if e' = e.id then some (p.nodes.length, goal) else p.context.elements.lookup e' := by
  -- the context knows only elements that have nodes
  have hctx : p.context.elements.lookup e.id = none := by
    cases hc : p.context.elements.lookup e.id with
    | none => rfl
    | some entry =>
      have hsome := (h.context_iff.1 hc).1
      rw [hfresh] at hsome
      cases hsome
  have hrows : (p.withElement e goal).context.elements =
      p.context.elements ++ [(e.id, p.nodes.length, goal)] := by
    show (p.context.register e.id p.nodes.length goal).elements = _
    unfold Context.register
    simp [hctx]
  rw [hrows]
  exact lookup_concat hctx

/-- A new element has its entry. -/
theorem Indexed.withElement (hp : p.Indexed) {e : Element} (h : p.nodeOf? e.id = none)
    (goal : Goal) : (p.withElement e goal).Indexed where
  id_eq hn := by
    rcases getElem?_concat.1 hn with hn | ⟨rfl, rfl⟩
    · exact hp.id_eq hn
    · rfl
  nodeOf?_eq_some_iff {e' n} := by
    rw [nodeOf?_withElement h]
    constructor
    · by_cases he : e' = e.id
      · rw [if_pos he]
        intro hn
        exact ⟨_, e, getElem?_concat.2 (.inr ⟨(Option.some.inj hn).symm, rfl⟩), rfl, he.symm⟩
      · rw [if_neg he, hp.nodeOf?_eq_some_iff]
        rintro ⟨node, el, hn, hel⟩
        exact ⟨node, el, getElem?_concat.2 (.inl hn), hel⟩
    · rintro ⟨node, el, hn, hel, rfl⟩
      rcases getElem?_concat.1 hn with hn | ⟨rfl, rfl⟩
      · -- the element had a node before, so it is another one than `e`
        have hold : p.nodeOf? el.id = some n := hp.nodeOf?_eq_some_iff.2 ⟨node, el, hn, hel, rfl⟩
        rw [if_neg ?_, hold]
        intro he
        rw [he, h] at hold
        cases hold
      · obtain rfl : e = el := Option.some.inj hel
        rw [if_pos rfl]
  mem_followersOf := hp.mem_followersOf

/-- A new element is known to the context, with its node and its goal. -/
theorem Disclosed.withElement (h : p.Disclosed) (hp : p.Indexed) {e : Element}
    (hfresh : p.nodeOf? e.id = none) (goal : Goal) : (p.withElement e goal).Disclosed := by
  refine ⟨fun {e' n g} => ?_⟩
  rw [h.lookup_withElement hfresh, nodeOf?_withElement hfresh]
  unfold Plan.withElement
  by_cases he : e' = e.id
  · simp only [he, if_true, Option.some.injEq, Prod.mk.injEq]
    refine and_congr_right fun hn => ?_
    subst hn
    simp
  · simp only [he, if_false]
    refine h.context_iff.trans (and_congr_right fun hn => ?_)
    obtain ⟨node, -, hnode, -⟩ := hp.nodeOf?_eq_some_iff.1 hn
    rw [hnode, List.getElem?_append_left (lt_of_node hnode), hnode]

/-- A plan stays sound when a new element is added. -/
theorem Sound.withElement (hp : p.Sound) {e : Element} (h : p.nodeOf? e.id = none)
    (goal : Goal) : (p.withElement e goal).Sound where
  id_eq := (hp.indexed.withElement h goal).id_eq
  coherent := hp.coherent.addNode _
  contains_iff := by
    intro n
    refine (contains_addNode_length hp).trans ?_
    unfold Plan.withElement
    simp
  nodeOf?_eq_some_iff := (hp.indexed.withElement h goal).nodeOf?_eq_some_iff
  context_iff := (hp.disclosed.withElement hp.indexed h goal).context_iff
  mem_followersOf := hp.mem_followersOf
  edge_leader hl := (Digraph.edge?_addNode ..).trans (hp.edge_leader hl)
  follower_element hl := by
    obtain ⟨node, el, hnode, hel⟩ := hp.follower_element hl
    exact ⟨node, el, getElem?_concat.2 (.inl hnode), hel⟩
  leader_work hl := by
    obtain ⟨node, hnode, hwork⟩ := hp.leader_work hl
    exact ⟨node, getElem?_concat.2 (.inl hnode), hwork⟩

/-- A plan stays sound when an element is added, be it new or not. -/
theorem Sound.addElement (hp : p.Sound) (e : Element) (goal : Goal) :
    (p.addElement e goal).1.Sound := by
  cases hnode : p.nodeOf? e.id with
  | some n =>
    rw [addElement_of_some hnode]
    exact hp
  | none =>
    rw [addElement_of_none hnode]
    exact hp.withElement hnode goal

/-- To add an element makes a plan grow. -/
theorem grows_addElement (p : Plan) (e : Element) (goal : Goal) :
    p.Grows (p.addElement e goal).1 := by
  cases hnode : p.nodeOf? e.id with
  | some n => rw [addElement_of_some hnode]; exact .refl p
  | none =>
    rw [addElement_of_none hnode]
    refine ⟨fun h => ⟨_, getElem?_concat.2 (.inl h), rfl, rfl, fun _ => rfl⟩, ?_,
      fun {e' n} h => ?_, fun h => h, fun h => ?_, fun h => (Digraph.edge?_addNode ..).trans h,
      attached_withElement p e goal⟩
    · show p.nodes.filter _ <+: (p.nodes ++ [_]).filter _
      rw [List.filter_append]
      exact List.prefix_append _ _
    · -- an element with a node is not the one that is new
      have hne : e' ≠ e.id := by
        rintro rfl
        rw [hnode] at h
        cases h
      exact (nodeOf?_withElement hnode goal e').trans ((if_neg hne).trans h)
    · show ((p.graph.addNode _).edge? _ _).isSome = true
      rw [Digraph.edge?_addNode]
      exact h

/-- The node that `addElement` answers with is the element's node. -/
theorem nodeOf?_addElement (p : Plan) (e : Element) (goal : Goal) :
    (p.addElement e goal).1.nodeOf? e.id = some (p.addElement e goal).2 := by
  cases hnode : p.nodeOf? e.id with
  | some n => rw [addElement_of_some hnode]; exact hnode
  | none =>
    rw [addElement_of_none hnode]
    exact (nodeOf?_withElement hnode goal e.id).trans (if_pos rfl)

/-! ## Edges -/

/-- To link two nodes sets their edge; once hard, it stays so. -/
theorem edge?_link (p : Plan) (a b c e : NodeId) (k : EdgeKind) :
    (p.link a b k).graph.edge? c e =
      if c = a ∧ e = b then some (if p.graph.edge? a b = some .hard then .hard else k)
      else p.graph.edge? c e :=
  Digraph.edge?_addEdge ..

/-- A link that is there already stays as hard as it is. -/
theorem edge?_link_hard (a b : NodeId) (k : EdgeKind) {c e : NodeId}
    (h : p.graph.edge? c e = some .hard) : (p.link a b k).graph.edge? c e = some .hard := by
  rw [edge?_link]
  by_cases hce : c = a ∧ e = b
  · obtain ⟨rfl, rfl⟩ := hce
    simp [h]
  · rw [if_neg hce, h]

/-- A plan stays sound when two of its nodes are linked. -/
theorem Sound.link (hp : p.Sound) {a b : NodeId} (ha : a < p.nodes.length)
    (hb : b < p.nodes.length) (k : EdgeKind) : (p.link a b k).Sound where
  id_eq := hp.id_eq
  coherent := hp.coherent.addEdge a b _
  contains_iff {n} := by
    show (p.graph.addEdge a b _).contains n = true ↔ n < p.nodes.length
    rw [hp.coherent.contains_addEdge, Bool.or_eq_true, Bool.or_eq_true, beq_iff_eq, beq_iff_eq,
      hp.contains_iff]
    refine ⟨?_, fun h => .inl (.inl h)⟩
    rintro ((h | rfl) | rfl) <;> assumption
  nodeOf?_eq_some_iff := hp.nodeOf?_eq_some_iff
  context_iff := hp.context_iff
  mem_followersOf := hp.mem_followersOf
  edge_leader h := edge?_link_hard a b k (hp.edge_leader h)
  follower_element := hp.follower_element
  leader_work := hp.leader_work

/-- To link two nodes makes a plan grow. -/
theorem grows_link (p : Plan) (a b : NodeId) (k : EdgeKind) : p.Grows (p.link a b k) where
  node h := ⟨_, h, rfl, rfl, fun _ => rfl⟩
  works := List.prefix_refl _
  nodeOf? h := h
  leader? h := h
  edge {c e} h := by
    rw [edge?_link]
    by_cases hce : c = a ∧ e = b
    · rw [if_pos hce]
      rfl
    · rw [if_neg hce]
      exact h
  hard h := edge?_link_hard a b k h
  attached := rfl

/-! ## Groups -/

/-- A node that is enlisted has its leader, and the others have theirs. -/
theorem leader?_enlist {n : NodeId} (h : p.leader? n = none) (l f : NodeId) :
    (p.enlist n l).leader? f = if f = n then some l else p.leader? f :=
  lookup_concat h

/-- A node that is enlisted comes last among the followers of its leader. -/
theorem followersOf_enlist (p : Plan) (n l m : NodeId) :
    (p.enlist n l).followersOf m =
      if m = l then p.followersOf m ++ [n] else p.followersOf m := by
  unfold Plan.followersOf Plan.enlist
  -- the leader's row is begun with this follower, or the follower is put at its end
  cases hl : p.followers.lookup l with
  | none =>
    simp only [Option.isSome_none, Bool.false_eq_true, if_false]
    rw [lookup_concat hl]
    by_cases hm : m = l
    · rw [if_pos hm, if_pos hm, hm, hl]
      rfl
    · rw [if_neg hm, if_neg hm]
  | some row =>
    simp only [Option.isSome_some, if_true]
    rw [lookup_map_row p.followers l m (· ++ [n])]
    by_cases hm : m = l
    · rw [if_pos hm, hm, hl]
      simp
    · have hne : (m == l) = false := by simpa using hm
      rw [if_neg hm, hne]
      simp

theorem mem_followersOf_enlist (p : Plan) (n l f m : NodeId) :
    f ∈ (p.enlist n l).followersOf m ↔ f ∈ p.followersOf m ∨ m = l ∧ f = n := by
  rw [followersOf_enlist]
  by_cases hm : m = l <;> simp [hm]

/-- The two tables of leaders and followers agree when a node is enlisted. -/
theorem Indexed.enlist (hp : p.Indexed) {n : NodeId} (h : p.leader? n = none) (l : NodeId) :
    (p.enlist n l).Indexed where
  id_eq := hp.id_eq
  nodeOf?_eq_some_iff := hp.nodeOf?_eq_some_iff
  mem_followersOf {f m} := by
    -- Both tables get the same new pair.
    rw [mem_followersOf_enlist, leader?_enlist h, hp.mem_followersOf]
    by_cases hf : f = n
    · subst hf
      simp [h, eq_comm]
    · simp [hf]

/-- An element joins the group of a piece of work. -/
theorem Sound.enlist (hp : p.Sound) {n l : NodeId} (h : p.leader? n = none)
    (hedge : p.graph.edge? n l = some .hard)
    (hn : ∃ node el, p.nodes[n]? = some node ∧ node.element? = some el)
    (hl : ∃ node, p.nodes[l]? = some node ∧ node.element? = none) : (p.enlist n l).Sound where
  id_eq := hp.id_eq
  coherent := hp.coherent
  contains_iff := hp.contains_iff
  nodeOf?_eq_some_iff := hp.nodeOf?_eq_some_iff
  context_iff := hp.context_iff
  mem_followersOf := (hp.indexed.enlist h l).mem_followersOf
  -- of the table of leaders, only the row of `n` is new
  edge_leader {f m} hf := by
    rw [leader?_enlist h] at hf
    by_cases hfn : f = n
    · rw [if_pos hfn] at hf
      obtain rfl := Option.some.inj hf
      rw [hfn]
      exact hedge
    · rw [if_neg hfn] at hf
      exact hp.edge_leader hf
  follower_element {f m} hf := by
    rw [leader?_enlist h] at hf
    by_cases hfn : f = n
    · rw [hfn]
      exact hn
    · rw [if_neg hfn] at hf
      exact hp.follower_element hf
  leader_work {f m} hf := by
    rw [leader?_enlist h] at hf
    by_cases hfn : f = n
    · rw [if_pos hfn] at hf
      obtain rfl := Option.some.inj hf
      exact hl
    · rw [if_neg hfn] at hf
      exact hp.leader_work hf

/-- To enlist a node without a leader makes a plan grow. -/
theorem grows_enlist {n : NodeId} (h : p.leader? n = none) (l : NodeId) :
    p.Grows (p.enlist n l) where
  node h := ⟨_, h, rfl, rfl, fun _ => rfl⟩
  works := List.prefix_refl _
  nodeOf? h := h
  leader? {f m} hf := by
    have hne : f ≠ n := by
      rintro rfl
      rw [h] at hf
      cases hf
    rw [leader?_enlist h, if_neg hne, hf]
  edge h := h
  hard h := h
  attached := rfl

/-- A node without dependencies hands none over when it joins a group. -/
theorem setGroup_eq_ok {n : NodeId} (h : p.leader? n = none) (hout : p.graph.outgoing n = [])
    (l : NodeId) : p.setGroup n l = .ok ((p.link n l .hard).enlist n l) := by
  unfold Plan.setGroup
  rw [h]
  simp only [hout]
  rfl

/-! ## Criteria -/

/-- Settling the criteria of one node. -/
def settled (c : Criteria) (node : Node) : Node :=
  match node.role with
  | .element e none => { node with role := .element e (some c) }
  | _ => node

/-- Criteria change nothing else about a node, and nothing at all about work. -/
theorem settled_same (c : Criteria) (node : Node) :
    (settled c node).id = node.id ∧ (settled c node).goal = node.goal ∧
      (settled c node).element? = node.element? ∧
      (node.element? = none → settled c node = node) := by
  unfold settled Node.element?
  cases hrole : node.role with
  | work w => simp [hrole]
  | element e criteria => cases criteria <;> simp [hrole]

/-- Criteria can be settled of a node of an element that has none yet, and of no other one. -/
theorem setCriteria_eq_ok_iff {n : NodeId} {c : Criteria} {q : Plan} :
    Deployment.setCriteria p n c = .ok q ↔
      (∃ node e, p.nodes[n]? = some node ∧ node.role = .element e none) ∧
        q = Deployment.withCriteria p n c := by
  unfold Deployment.setCriteria Plan.node
  cases hnode : p.nodes[n]? with
  | none => exact ⟨nofun, fun ⟨⟨_, _, hnone, _⟩, _⟩ => nomatch hnone⟩
  | some node =>
    show (match node.role with
      | .element _ none => _
      | _ => _) = _ ↔ _
    cases hrole : node.role with
    | work w =>
      refine ⟨nofun, ?_⟩
      rintro ⟨⟨_, e, heq, hbare⟩, -⟩
      rw [← Option.some.inj heq, hrole] at hbare
      cases hbare
    | element e criteria =>
      cases criteria with
      | none => exact ⟨fun h => ⟨⟨node, e, rfl, hrole⟩, (Except.ok.inj h).symm⟩, fun h => h.2 ▸ rfl⟩
      -- criteria that are there already are a defect
      | some c' =>
        refine ⟨nofun, ?_⟩
        rintro ⟨⟨_, e', heq, hbare⟩, -⟩
        rw [← Option.some.inj heq, hrole] at hbare
        cases hbare

/-- Criteria are set for one node. -/
theorem getElem?_withCriteria (p : Plan) (n : NodeId) (c : Criteria) (m : NodeId) :
    (Deployment.withCriteria p n c).nodes[m]? =
      if m = n then (p.nodes[m]?).map (settled c) else p.nodes[m]? := by
  show (p.nodes.modify n _)[m]? = _
  rw [List.getElem?_modify]
  by_cases hm : n = m
  · subst hm
    simp only [if_true]
    rfl
  · simp [hm, Ne.symm hm]

/-- A node with settled criteria has the identity, the goal and the element it had before. -/
theorem node_withCriteria {n m : NodeId} {c : Criteria} {node' : Node} :
    (Deployment.withCriteria p n c).nodes[m]? = some node' ↔
      ∃ node, p.nodes[m]? = some node ∧ node' = if m = n then settled c node else node := by
  rw [getElem?_withCriteria]
  by_cases hm : m = n
  · simp only [if_pos hm]
    rw [Option.map_eq_some_iff]
    exact exists_congr fun node => and_congr_right fun _ => eq_comm
  · simp [hm]

theorem settled_if_same (c : Criteria) (node : Node) (m n : NodeId) :
    (if m = n then settled c node else node).id = node.id ∧
      (if m = n then settled c node else node).goal = node.goal ∧
      (if m = n then settled c node else node).element? = node.element? := by
  obtain ⟨hid, hgoal, hel, -⟩ := settled_same c node
  split
  · exact ⟨hid, hgoal, hel⟩
  · exact ⟨rfl, rfl, rfl⟩

/-- What a sound plan knows of a node is not changed by settling it. -/
theorem node_of_withCriteria {n m : NodeId} {c : Criteria} {node' : Node}
    (h : (Deployment.withCriteria p n c).nodes[m]? = some node') :
    ∃ node, p.nodes[m]? = some node ∧ node'.id = node.id ∧ node'.goal = node.goal ∧
      node'.element? = node.element? := by
  obtain ⟨node, hnode, rfl⟩ := node_withCriteria.1 h
  exact ⟨node, hnode, settled_if_same c node m n⟩

theorem node_in_withCriteria {m : NodeId} {node : Node} (h : p.nodes[m]? = some node) (n : NodeId)
    (c : Criteria) : ∃ node', (Deployment.withCriteria p n c).nodes[m]? = some node' ∧
      node'.goal = node.goal ∧ node'.element? = node.element? :=
  ⟨_, node_withCriteria.2 ⟨node, h, rfl⟩, (settled_if_same c node m n).2⟩

/-- Criteria leave the entries of elements alone. -/
theorem Indexed.withCriteria (hp : p.Indexed) (n : NodeId) (c : Criteria) :
    (Deployment.withCriteria p n c).Indexed := by
  refine ⟨fun h => ?_, fun {e m} => ?_, hp.mem_followersOf⟩
  · obtain ⟨node, hnode, hid, -⟩ := node_of_withCriteria h
    rw [hid, hp.id_eq hnode]
  · refine hp.nodeOf?_eq_some_iff.trans ⟨?_, ?_⟩
    · rintro ⟨node, el, hnode, hel, hid⟩
      obtain ⟨node', hnode', -, hel'⟩ := node_in_withCriteria hnode n c
      exact ⟨node', el, hnode', hel'.trans hel, hid⟩
    · rintro ⟨node', el, hnode', hel', hid⟩
      obtain ⟨node, hnode, -, -, hel⟩ := node_of_withCriteria hnode'
      exact ⟨node, el, hnode, hel.symm.trans hel', hid⟩

/-- Criteria leave the context alone. -/
theorem Disclosed.withCriteria (h : p.Disclosed) (n : NodeId) (c : Criteria) :
    (Deployment.withCriteria p n c).Disclosed := by
  refine ⟨fun {e m g} => h.context_iff.trans (and_congr_right fun _ => ⟨?_, ?_⟩)⟩
  · rintro ⟨node, hnode, hgoal⟩
    obtain ⟨node', hnode', hgoal', -⟩ := node_in_withCriteria hnode n c
    exact ⟨node', hnode', hgoal'.trans hgoal⟩
  · rintro ⟨node', hnode', hgoal'⟩
    obtain ⟨node, hnode, -, hgoal, -⟩ := node_of_withCriteria hnode'
    exact ⟨node, hnode, hgoal.symm.trans hgoal'⟩

/-- A plan stays sound when criteria are set. -/
theorem Sound.withCriteria (hp : p.Sound) (n : NodeId) (c : Criteria) :
    (Deployment.withCriteria p n c).Sound := by
  have hindexed := hp.indexed.withCriteria n c
  refine ⟨hindexed.id_eq, hp.coherent, fun {m} => ?_, hindexed.nodeOf?_eq_some_iff,
    (hp.disclosed.withCriteria n c).context_iff, hp.mem_followersOf, hp.edge_leader, fun h => ?_,
    fun h => ?_⟩
  · refine hp.contains_iff.trans ?_
    show _ ↔ m < (p.nodes.modify n _).length
    rw [List.length_modify]
  · obtain ⟨node, el, hnode, hel⟩ := hp.follower_element h
    obtain ⟨node', hnode', -, hel'⟩ := node_in_withCriteria hnode n c
    exact ⟨node', el, hnode', hel'.trans hel⟩
  · obtain ⟨node, hnode, hwork⟩ := hp.leader_work h
    obtain ⟨node', hnode', -, hel'⟩ := node_in_withCriteria hnode n c
    exact ⟨node', hnode', hel'.trans hwork⟩

/-- Criteria leave work alone. -/
theorem works_withCriteria (p : Plan) (n : NodeId) (c : Criteria) :
    (Deployment.withCriteria p n c).works = p.works := by
  show (p.nodes.modify n (settled c)).filter _ = p.nodes.filter _
  induction p.nodes generalizing n with
  | nil => cases n <;> rfl
  | cons node nodes ih =>
    cases n with
    | zero =>
      obtain ⟨-, -, hel, hwork⟩ := settled_same c node
      rw [List.modify_zero_cons, List.filter_cons, List.filter_cons]
      have hsame : (settled c node).isWork = node.isWork := by
        unfold Node.isWork
        rw [hel]
      rw [hsame]
      -- a node of work is left as it is
      by_cases hnode : node.isWork = true
      · rw [if_pos hnode, if_pos hnode, hwork (by simpa [Node.isWork] using hnode)]
      · rw [if_neg hnode, if_neg hnode]
    | succ n =>
      rw [List.modify_succ_cons, List.filter_cons, List.filter_cons, ih]

/-- To set criteria makes a plan grow. -/
theorem grows_withCriteria (p : Plan) (n : NodeId) (c : Criteria) :
    p.Grows (Deployment.withCriteria p n c) where
  node {m node} h := by
    refine ⟨_, node_withCriteria.2 ⟨node, h, rfl⟩, ?_⟩
    obtain ⟨-, hgoal, hel, hwork⟩ := settled_same c node
    split
    · exact ⟨hgoal, hel, hwork⟩
    · exact ⟨rfl, rfl, fun _ => rfl⟩
  works := ⟨[], by rw [List.append_nil, works_withCriteria]⟩
  nodeOf? h := h
  leader? h := h
  edge h := h
  hard h := h
  attached := rfl

end Rollout.Plan
