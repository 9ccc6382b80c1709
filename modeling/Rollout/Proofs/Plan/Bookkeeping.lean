import Mathlib
import Rollout.Proofs.Plan.History
import Rollout.Proofs.Plan.Roster

/-!
# The bookkeeping of a plan

The arena, the nodes of elements, the groups and the context are filled by separate statements of
several operations, some of which may be refused half-way.  Whatever is done to a plan, in whatever
order, these tables agree with each other (`Consistent`), and nothing they have said about a node is
taken back (`Retains`).
-/

namespace Rollout.Plan

variable {p p' p'' : Plan} {n : NodeId} {node : Node}

/-! ## Tables that agree -/

/-- What operations keep on any context: the tables of nodes and groups agree, labels tell what a
node stands for, and nobody is listed twice in a group. -/
structure Kept (p : Plan) : Prop extends Indexed p where
  labelled : p.Labelled
  followersOf_nodup : ∀ l, (p.followersOf l).Nodup

/-- There is nothing to keep of an empty plan. -/
theorem Kept.empty (goal : Goal) (context : Context) : (empty goal context).Kept where
  id_eq := nofun
  nodeOf?_eq_some_iff := iff_of_false nofun nofun
  mem_followersOf := iff_of_false nofun nofun
  labelled := ⟨nofun, rfl⟩
  followersOf_nodup _ := .nil

/-- An element that is added has its entry. -/
theorem Indexed.addElement (hp : p.Indexed) (e : Element) (goal : Goal) :
    (p.addElement e goal).1.Indexed := by
  cases hn : p.nodeOf? e.id with
  | some n =>
    rw [addElement_of_some hn]
    exact hp
  | none =>
    rw [addElement_of_none hn]
    exact hp.withElement hn goal

/-- The books are kept when an element is added. -/
theorem Kept.addElement (h : p.Kept) (e : Element) (goal : Goal) :
    (p.addElement e goal).1.Kept where
  toIndexed := h.toIndexed.addElement e goal
  labelled := h.labelled.addElement e goal
  followersOf_nodup l := by
    cases hn : p.nodeOf? e.id with
    | some n =>
      rw [addElement_of_some hn]
      exact h.followersOf_nodup l
    | none =>
      rw [addElement_of_none hn]
      exact h.followersOf_nodup l

/-- The books are kept when a node gets its first leader. -/
theorem Kept.enlist (h : p.Kept) (hfree : p.leader? n = none) (l : NodeId) :
    (p.enlist n l).Kept where
  toIndexed := h.toIndexed.enlist hfree l
  labelled := h.labelled.of_alike ⟨rfl, rfl, rfl⟩
  followersOf_nodup m := by
    rw [followersOf_enlist]
    split
    · refine List.Nodup.append (h.followersOf_nodup m) (List.nodup_singleton n) ?_
      rw [List.disjoint_singleton, h.mem_followersOf, hfree]
      exact nofun
    · exact h.followersOf_nodup m

/-- What the graph is does not matter. -/
theorem Kept.of_graph (h : p.Kept) (graph : Digraph) (completed : List NodeId) :
    { p with graph, completed }.Kept where
  id_eq := h.id_eq
  nodeOf?_eq_some_iff := h.nodeOf?_eq_some_iff
  mem_followersOf := h.mem_followersOf
  labelled := h.labelled.of_alike ⟨rfl, rfl, rfl⟩
  followersOf_nodup := h.followersOf_nodup

theorem Kept.withCriteria (h : p.Kept) (n : NodeId) (c : Criteria) :
    (Deployment.withCriteria p n c).Kept :=
  ⟨h.toIndexed.withCriteria n c, h.labelled.withCriteria n c, h.followersOf_nodup⟩

/-- The books are kept by every call, whether it fails or not. -/
theorem Kept.run (h : p.Kept) (op : Op) : (op.run p).Kept :=
  op.run_induction (motive := Kept)
    (fun _ e goal hq => hq.addElement e goal)
    (fun _ w goal hq =>
      ⟨hq.toIndexed.addWork w goal, hq.labelled.addWork w goal, hq.followersOf_nodup⟩)
    (fun _ _ l hfree hq => hq.enlist hfree l)
    (fun _ n c hq => hq.withCriteria n c)
    (fun _ graph completed hq => hq.of_graph graph completed)
    h

/-- The books are kept by any calls one after another. -/
theorem Kept.after (h : p.Kept) (ops : List Op) : (p.after ops).Kept :=
  after_induction (fun _ op hq => hq.run op) h ops

theorem Made.kept (h : p.Made) : p.Kept := by
  obtain ⟨goal, context, ops, rfl⟩ := made_iff_after.1 h
  exact (Kept.empty goal context).after ops

/-- An element that is added is known to the context as well. -/
theorem Disclosed.addElement (h : p.Disclosed) (hp : p.Indexed) (e : Element) (goal : Goal) :
    (p.addElement e goal).1.Disclosed := by
  cases hn : p.nodeOf? e.id with
  | some n =>
    rw [addElement_of_some hn]
    exact h
  | none =>
    rw [addElement_of_none hn]
    exact h.withElement hp hn goal

/-- A context that is the plan's own goes on to know its elements. -/
theorem Disclosed.run (h : p.Disclosed) (hp : p.Kept) (op : Op) : (op.run p).Disclosed := by
  refine (op.run_induction (motive := fun q => q.Kept ∧ q.Disclosed) ?_ ?_ ?_ ?_ ?_ ⟨hp, h⟩).2
  · exact fun _ e goal hq => ⟨hq.1.addElement e goal, hq.2.addElement hq.1.toIndexed e goal⟩
  · exact fun q w goal hq => ⟨hq.1.run (.call (.work w goal)), hq.2.addWork hq.1.toIndexed w goal⟩
  · exact fun _ _ l hfree hq => ⟨hq.1.enlist hfree l, ⟨hq.2.context_iff⟩⟩
  · exact fun q n c hq => ⟨hq.1.withCriteria n c, hq.2.withCriteria n c⟩
  · exact fun _ _ _ hq => ⟨hq.1.of_graph _ _, ⟨hq.2.context_iff⟩⟩

/-! ## Labels -/

theorem label_of_node (h : p.nodes[n]? = some node) : p.label n = node.label := by
  unfold label
  rw [h]
  rfl

/-- The label of a piece of work is its number. -/
theorem Labelled.exists_number (h : p.Labelled) (hnode : node ∈ p.nodes)
    (hwork : node.element? = none) : ∃ k : ℕ, node.label = "W:" ++ toString k := by
  have hmem : node.label ∈ p.works.map (·.label) :=
    List.mem_map_of_mem (mem_works_iff.2 ⟨hnode, hwork⟩)
  rw [h.work] at hmem
  obtain ⟨k, -, hk⟩ := List.mem_map.1 hmem
  exact ⟨k, hk.symm⟩

/-- The label of an element is never one of work. -/
theorem element_label_ne (e : ElementId) (k : ℕ) : "E:" ++ e ≠ "W:" ++ toString k := by
  intro h
  have hchars := congrArg String.toList h
  simp at hchars

/-- Labels of work with the same text have the same number. -/
theorem number_injective {i k : ℕ} (h : "W:" ++ toString i = "W:" ++ toString k) : i = k :=
  Nat.repr_inj.1 ((String.append_right_inj "W:").1 h)

/-- No label is given twice. -/
theorem Kept.labels_nodup (h : p.Kept) : (p.nodes.map (·.label)).Nodup := by
  have hworks : p.works.Pairwise fun a b => a.label ≠ b.label := by
    refine List.pairwise_map.1 ?_
    rw [h.labelled.work]
    exact List.nodup_range.map fun _ _ => number_injective
  have hnodes := List.pairwise_iff_getElem.1 (List.pairwise_filter.1 hworks)
  refine List.pairwise_map.2 (List.pairwise_iff_getElem.2 fun i k hi hk hik heq => ?_)
  have hiwork := h.labelled.exists_number (List.getElem_mem hi)
  have hkwork := h.labelled.exists_number (List.getElem_mem hk)
  cases hei : p.nodes[i].element? with
  | none =>
    cases hek : p.nodes[k].element? with
    | none =>
      exact hnodes i k hi hk hik (by simp [Node.isWork, hei]) (by simp [Node.isWork, hek]) heq
    | some el =>
      obtain ⟨x, hx⟩ := hiwork hei
      rw [hx, h.labelled.element (List.getElem_mem hk) hek] at heq
      exact element_label_ne _ _ heq.symm
  | some el =>
    cases hek : p.nodes[k].element? with
    | none =>
      obtain ⟨x, hx⟩ := hkwork hek
      rw [hx, h.labelled.element (List.getElem_mem hi) hei] at heq
      exact element_label_ne _ _ heq
    | some el' =>
      -- Two nodes of one element would both be the node of it.
      rw [h.labelled.element (List.getElem_mem hi) hei,
        h.labelled.element (List.getElem_mem hk) hek] at heq
      have hid := (String.append_right_inj "E:").1 heq
      have hni := h.nodeOf?_eq_some_iff.2 ⟨_, el, List.getElem?_eq_getElem hi, hei, hid⟩
      have hnk := h.nodeOf?_eq_some_iff.2 ⟨_, el', List.getElem?_eq_getElem hk, hek, rfl⟩
      exact absurd (Option.some.inj (hni.symm.trans hnk)) (Nat.ne_of_lt hik)

/-- A label leads to its node. -/
theorem Kept.nodeLabelled?_label (h : p.Kept) (hn : n < p.nodes.length) :
    p.nodeLabelled? (p.label n) = some n := by
  obtain ⟨node, hnode⟩ := node_of_lt hn
  have hmem := List.mem_of_getElem? hnode
  unfold nodeLabelled?
  rw [label_of_node hnode]
  cases hfind : p.nodes.find? (·.label == node.label) with
  | none => exact absurd (List.find?_eq_none.1 hfind node hmem) (by simp)
  | some found =>
    have hsame : found.label = node.label := by simpa using List.find?_some hfind
    have heq := List.inj_on_of_nodup_map h.labels_nodup (List.mem_of_find?_eq_some hfind) hmem hsame
    rw [heq, Option.map_some, h.id_eq hnode]

/-- No node has the label that stands for an unknown one. -/
theorem Labelled.label_ne_unknown (h : p.Labelled) (hnode : node ∈ p.nodes) :
    node.label ≠ "?" := by
  have hne : ∀ c tail, c ≠ '?' → String.ofList [c, ':'] ++ tail ≠ "?" := by
    intro c tail hc heq
    have hchars := congrArg String.toList heq
    simp at hchars
  cases hel : node.element? with
  | none =>
    obtain ⟨k, hk⟩ := h.exists_number hnode hel
    exact hk ▸ hne 'W' (toString k) (by decide)
  | some el => exact h.element hnode hel ▸ hne 'E' el.id (by decide)

/-- A label belongs to one node. -/
theorem Kept.label_injective (h : p.Kept) {m : NodeId} (hn : n < p.nodes.length)
    (hlabel : p.label m = p.label n) : m = n := by
  obtain ⟨node, hnode⟩ := node_of_lt hn
  by_cases hm : m < p.nodes.length
  · have hfound := h.nodeLabelled?_label hn
    rw [← hlabel, h.nodeLabelled?_label hm] at hfound
    exact Option.some.inj hfound
  · refine absurd ?_ (h.labelled.label_ne_unknown (List.mem_of_getElem? hnode))
    rw [← label_of_node hnode, ← hlabel]
    unfold label
    rw [List.getElem?_eq_none (Nat.le_of_not_lt hm)]
    rfl

/-! ## What is said for good -/

/-- Nothing that a plan has said about its nodes is taken back. -/
structure Retains (p p' : Plan) : Prop where
  node : ∀ {n : NodeId} {node : Node}, p.nodes[n]? = some node →
    ∃ node', p'.nodes[n]? = some node' ∧ node'.id = node.id ∧ node'.label = node.label ∧
      node'.goal = node.goal ∧ node'.element? = node.element?
  nodeOf? : ∀ {e n}, p.nodeOf? e = some n → p'.nodeOf? e = some n
  leader? : ∀ {f l}, p.leader? f = some l → p'.leader? f = some l

namespace Retains

theorem refl (p : Plan) : p.Retains p where
  node h := ⟨_, h, rfl, rfl, rfl, rfl⟩
  nodeOf? h := h
  leader? h := h

theorem trans (h : p.Retains p') (h' : p'.Retains p'') : p.Retains p'' where
  node hnode := by
    obtain ⟨node', hnode', hid, hlabel, hgoal, hel⟩ := h.node hnode
    obtain ⟨node'', hnode'', hid', hlabel', hgoal', hel'⟩ := h'.node hnode'
    exact ⟨node'', hnode'', hid'.trans hid, hlabel'.trans hlabel, hgoal'.trans hgoal,
      hel'.trans hel⟩
  nodeOf? hn := h'.nodeOf? (h.nodeOf? hn)
  leader? hl := h'.leader? (h.leader? hl)

/-- Nodes that come last change nothing about those before. -/
theorem of_concat {node : Node} (hnodes : p'.nodes = p.nodes ++ [node])
    (hnodeOf : ∀ {e n}, p.nodeOf? e = some n → p'.nodeOf? e = some n)
    (hleader : ∀ f, p'.leader? f = p.leader? f) : p.Retains p' where
  node h := ⟨_, by rw [hnodes]; exact getElem?_concat.2 (.inl h), rfl, rfl, rfl, rfl⟩
  nodeOf? := hnodeOf
  leader? h := (hleader _).trans h

/-- What is there is retained when an element is added. -/
theorem addElement (p : Plan) (e : Element) (goal : Goal) : p.Retains (p.addElement e goal).1 := by
  cases hn : p.nodeOf? e.id with
  | some n =>
    rw [addElement_of_some hn]
    exact .refl p
  | none =>
    have hgrows := grows_addElement p e goal
    rw [addElement_of_none hn] at hgrows ⊢
    exact .of_concat rfl hgrows.nodeOf? fun _ => rfl

/-- What is there is retained when criteria are set. -/
theorem withCriteria (p : Plan) (n : NodeId) (c : Criteria) :
    p.Retains (Deployment.withCriteria p n c) where
  node {m node} h := by
    obtain ⟨hid, hgoal, hel⟩ := settled_if_same c node m n
    refine ⟨_, node_withCriteria.2 ⟨node, h, rfl⟩, hid, ?_, hgoal, hel⟩
    split
    · exact label_settled c node
    · rfl
  nodeOf? h := h
  leader? h := h

/-- What is there is retained when a node gets its first leader. -/
theorem enlist (hfree : p.leader? n = none) (l : NodeId) : p.Retains (p.enlist n l) where
  node h := ⟨_, h, rfl, rfl, rfl, rfl⟩
  nodeOf? h := h
  leader? h := (grows_enlist hfree l).leader? h

/-- What is there is retained by every call, whether it fails or not. -/
theorem run (p : Plan) (op : Op) : p.Retains (op.run p) :=
  op.run_induction (motive := p.Retains)
    (fun q e goal hq => hq.trans (.addElement q e goal))
    (fun _ _ _ hq => hq.trans (.of_concat rfl (fun h => h) fun _ => rfl))
    (fun _ _ l hfree hq => hq.trans (.enlist hfree l))
    (fun q n c hq => hq.trans (.withCriteria q n c))
    (fun _ _ _ hq => hq.trans ⟨fun h => ⟨_, h, rfl, rfl, rfl, rfl⟩, fun h => h, fun h => h⟩)
    (.refl p)

/-- What is there is retained by any calls one after another. -/
theorem after (p : Plan) (ops : List Op) : p.Retains (p.after ops) :=
  after_induction (motive := p.Retains) (fun q op hq => hq.trans (.run q op)) (.refl p) ops

end Retains

/-! ## Plans with contexts of their own -/

/-- The tables of a plan and of its context agree with each other. -/
structure Consistent (p : Plan) : Prop where
  id_eq : ∀ {n : NodeId} {node : Node}, p.nodes[n]? = some node → node.id = n
  labels_nodup : (p.nodes.map (·.label)).Nodup
  nodeLabelled?_label : ∀ {n}, n < p.nodes.length → p.nodeLabelled? (p.label n) = some n
  nodeOf?_eq_some_iff : ∀ {e n}, p.nodeOf? e = some n ↔
    ∃ node el, p.nodes[n]? = some node ∧ node.element? = some el ∧ el.id = e
  context_iff : ∀ {e n g}, p.context.elements.lookup e = some (n, g) ↔
    p.nodeOf? e = some n ∧ ∃ node, p.nodes[n]? = some node ∧ node.goal = g
  leader?_eq_some_iff : ∀ {f l}, p.leader? f = some l ↔ f ∈ p.followersOf l
  followersOf_nodup : ∀ l, (p.followersOf l).Nodup

/-- Whatever is done to a plan that began without nodes on a context of its own, its tables agree,
and whatever is done after that takes back nothing that they say. -/
theorem bookkeeping_consistent_and_stable (goal : Goal) (attached : Bool) (ops more : List Op) :
    (after (.empty goal { attached }) ops).Consistent ∧
      (after (.empty goal { attached }) ops).Retains
        (after (.empty goal { attached }) (ops ++ more)) := by
  have hstart : (empty goal { attached }).Kept ∧ (empty goal { attached }).Disclosed :=
    ⟨.empty goal _, ⟨iff_of_false nofun nofun⟩⟩
  obtain ⟨hkept, hdisclosed⟩ := after_induction (motive := fun q => q.Kept ∧ q.Disclosed)
    (fun _ op hq => ⟨hq.1.run op, hq.2.run hq.1 op⟩) hstart ops
  refine ⟨⟨hkept.id_eq, hkept.labels_nodup, hkept.nodeLabelled?_label, hkept.nodeOf?_eq_some_iff,
    hdisclosed.context_iff, hkept.mem_followersOf.symm, hkept.followersOf_nodup⟩, ?_⟩
  rw [after_append]
  exact .after _ more

end Rollout.Plan
