import Rollout.Proofs.Plan.Refusal

/-!
# A plan says what its deployment says

`Renders` describes the plan of a deployment from the deployment alone: its nodes with their labels,
goals and criteria, who leads whom, and its edges with their kinds.  Everything in the plan is
described, so nothing is lost, doubled or turned round on the way (`renders_of_plan`).
-/

namespace Rollout.Plan

open Deployment (Changes)

variable {d : Deployment} {p base : Plan} {a b l n : NodeId} {k : EdgeKind}

/-- Neighbours in a series ask for an edge, if they are to be deployed from the second to the first,
and if they are to be destroyed the other way round. -/
def SeriesEdge (d : Deployment) (p : Plan) (a b : NodeId) : Prop :=
  ∃ i u v, d.Neighbours i ∧ p.works[i]? = some u ∧ p.works[i + 1]? = some v ∧
    ((u.goal = .deployed ∧ v.goal = .deployed ∧ a = v.id ∧ b = u.id) ∨
      (u.goal = .destroyed ∧ v.goal = .destroyed ∧ a = u.id ∧ b = v.id))

/-- An element `y` that names an element `x` asks for an edge, if both are to be deployed from `y`,
or its leader, to `x`, and if both are to be destroyed from `x`, or its leader, to `y`. -/
def RelationEdge (p : Plan) (a b : NodeId) : Prop :=
  ∃ (y x : NodeId) (ny nx : Node) (el : Element) (r : Relation) (h : ElementId),
    p.nodes[y]? = some ny ∧ ny.element? = some el ∧ el.relation ny.goal = some r ∧ h ∈ r.handles ∧
    p.nodeOf? h = some x ∧ p.nodes[x]? = some nx ∧
      ((ny.goal = .deployed ∧ nx.goal = .deployed ∧ a = p.lead y ∧ b = x) ∨
        (ny.goal = .destroyed ∧ nx.goal = .destroyed ∧ a = p.lead x ∧ b = y))

/-- The plan says exactly what the deployment says. -/
structure Renders (d : Deployment) (p : Plan) : Prop where
  /-- An element that is mentioned has one node. -/
  element : ∀ el ∈ d.mentioned, ∃! n, p.nodeOf? el.id = some n
  /-- The node of an element, of which there is one only, stands for the first one mentioned with
  its name, and has the goal of its list, or else of its first change. -/
  node : ∀ {n : NodeId} {node : Node} {el : Element}, p.nodes[n]? = some node →
    node.element? = some el →
    p.nodeOf? el.id = some n ∧ d.find? el.id = some el ∧ d.goalOf? el.id = some node.goal ∧
      node.label = "E:" ++ el.id
  /-- The other nodes are those of the actions, in order. -/
  work : p.works.map (fun node => (node.label, node.goal, node.role)) =
    d.allActions.mapIdx fun i a => ("W:" ++ toString i, a.kind.goal, .work (workOf a))
  /-- The elements that an action changes are led by its node, and nobody else is led. -/
  leader : ∀ {f l : NodeId}, p.leader? f = some l ↔ ∃ i a e, d.allActions[i]? = some a ∧
    p.workAt? i = some l ∧ Changes a e ∧ p.nodeOf? e = some f
  /-- An element has criteria if it declares a relation or a check. -/
  criteria : ∀ {n : NodeId} {node : Node} {el : Element}, p.nodes[n]? = some node →
    node.element? = some el →
    node.criteria? = el.criteria? node.goal ∧
      (node.criteria?.isSome = true ↔
        (el.relation node.goal).isSome = true ∨ el.check.isSome = true)
  /-- There is a hard edge from each element that is led to its leader, and one for the neighbours
  in a series, and there is a soft edge for what relations name. -/
  edge : ∀ {a b : NodeId} {k : EdgeKind}, p.graph.edge? a b = some k ↔
    (k = .hard ∧ (p.leader? a = some b ∨ SeriesEdge d p a b)) ∨ k = .soft ∧ p.RelationEdge a b

/-! ## Nodes -/

/-- An element has criteria if it has a relation or a completion check. -/
theorem isSome_criteria? {el : Element} {goal : Goal} : (el.criteria? goal).isSome = true ↔
    (el.relation goal).isSome = true ∨ el.check.isSome = true := by
  unfold Element.criteria?
  cases el.relation goal <;> cases el.check <;> simp

/-- Resolving gives no further element a node. -/
theorem nodeOf?_eq_of_roster (hbase : base.Sound) (hp : p.Sound) (hgrows : base.Grows p)
    (hroster : p.roster = base.roster) (e : ElementId) : p.nodeOf? e = base.nodeOf? e := by
  cases hn : base.nodeOf? e with
  | some n => exact hgrows.nodeOf? hn
  | none =>
    cases hn' : p.nodeOf? e with
    | none => rfl
    | some n =>
      have hsome : (p.nodeOf? e).isSome = true := by rw [hn']; rfl
      rw [hp.nodeOf?_isSome_iff, hroster, ← hbase.nodeOf?_isSome_iff, hn] at hsome
      cases hsome

/-- The nodes of work, in their order, are those of the actions, in theirs. -/
theorem Outline.works_eq (h : Outline d d.listed d.steps p) :
    p.works.map (fun node => (node.label, node.goal, node.role)) =
      d.allActions.mapIdx fun i a => ("W:" ++ toString i, a.kind.goal, .work (workOf a)) := by
  refine List.ext_getElem? fun i => ?_
  rw [List.getElem?_map, List.getElem?_mapIdx]
  cases hi : p.works[i]? with
  | none =>
    have hlength : d.allActions.length = p.works.length := by
      rw [h.length_works, ← Deployment.map_snd_steps, List.length_map]
    rw [List.getElem?_eq_none (by rw [hlength]; exact List.getElem?_eq_none_iff.1 hi)]
    rfl
  | some node =>
    obtain ⟨s, hs, hgoal, hrole⟩ := h.part hi
    rw [Deployment.action_of_step hs, Option.map_some, Option.map_some, h.label_of_work hi, hgoal,
      hrole]

/-- A node of work leads the elements that its action changes. -/
theorem Outline.leader?_eq_some_iff_changes (h : Outline d d.listed d.steps p) {f : NodeId} :
    p.leader? f = some l ↔ ∃ i a e, d.allActions[i]? = some a ∧ p.workAt? i = some l ∧
      Changes a e ∧ p.nodeOf? e = some f := by
  rw [h.leader?_eq_some_iff]
  constructor
  · rintro ⟨i, s, hs, hl, c, hc, hf⟩
    exact ⟨i, s.2, _, Deployment.action_of_step hs, hl, ⟨c, hc, rfl⟩, hf⟩
  · rintro ⟨i, a, _, ha, hl, ⟨c, hc, rfl⟩, hf⟩
    obtain ⟨follows, hs⟩ := Deployment.step_of_action ha
    exact ⟨i, (follows, a), hs, hl, c, hc, hf⟩

/-! ## Edges -/

/-- The node of an action is a node of work and has no leader. -/
theorem node_of_workAt? (hp : p.Sound) {i : ℕ} (h : p.workAt? i = some n) :
    ∃ node, p.works[i]? = some node ∧ node.id = n ∧ p.nodes[n]? = some node ∧ p.lead n = n := by
  obtain ⟨node, hnode, rfl⟩ := Option.map_eq_some_iff.1 h
  obtain ⟨hmem, hwork⟩ := hp.node_of_mem_works (List.mem_of_getElem? hnode)
  exact ⟨node, hnode, rfl, hmem, lead_of_free (IsWork.leader?_eq_none hp ⟨node, hmem, hwork⟩)⟩

/-- A hard edge is due to a group or to a series. -/
theorem Settling.due_hard_iff (h : Settling d n p) :
    p.Due (p.Requested d.steps n) a b .hard ↔ p.leader? a = some b ∨ SeriesEdge d p a b := by
  constructor
  · intro hdue
    cases hdue with
    | led hled => exact .inl hled
    | asked hasked hdirection hlead =>
      rcases hasked with ⟨-, i, hfollows, hm, hn⟩ | ⟨hk, -⟩
      · -- neighbours of a series are nodes of work, which have no leader, so the edge starts where
        -- it was asked to
        obtain ⟨v, hv, rfl, hvnode, hvlead⟩ := node_of_workAt? h.sound hm
        obtain ⟨u, hu, rfl, hunode, hulead⟩ := node_of_workAt? h.sound hn
        obtain ⟨v', u', hv', hu', hgoals⟩ := direction_eq_some_iff.1 hdirection
        obtain rfl := Option.some.inj (hvnode.symm.trans hv')
        obtain rfl := Option.some.inj (hunode.symm.trans hu')
        refine .inr ⟨i, u, v, (Deployment.follows_iff d i).1 hfollows, hu, hv, ?_⟩
        rcases hgoals with ⟨hgv, hgu, rfl, rfl⟩ | ⟨hgv, hgu, rfl, rfl⟩
        · exact .inl ⟨hgu, hgv, by rw [← hlead, hvlead], rfl⟩
        · exact .inr ⟨hgu, hgv, by rw [← hlead, hulead], rfl⟩
      · cases hk
  · rintro (hled | ⟨i, u, v, hneighbours, hu, hv, hgoals⟩)
    · exact .led hled
    · have hm := workAt?_of_works hv
      have hn := workAt?_of_works hu
      obtain ⟨u', hu', -, hunode, hulead⟩ := node_of_workAt? h.sound hn
      obtain ⟨v', hv', -, hvnode, hvlead⟩ := node_of_workAt? h.sound hm
      obtain rfl := Option.some.inj (hu.symm.trans hu')
      obtain rfl := Option.some.inj (hv.symm.trans hv')
      have hasked : p.Requested d.steps n v.id u.id .hard :=
        .inl ⟨rfl, i, (Deployment.follows_iff d i).2 hneighbours, hm, hn⟩
      rcases hgoals with ⟨hgu, hgv, rfl, rfl⟩ | ⟨hgu, hgv, rfl, rfl⟩
      · exact .asked hasked (direction_eq_some_iff.2
          ⟨v, u, hvnode, hunode, .inl ⟨hgv, hgu, rfl, rfl⟩⟩) hvlead
      · exact .asked hasked (direction_eq_some_iff.2
          ⟨v, u, hvnode, hunode, .inr ⟨hgv, hgu, rfl, rfl⟩⟩) hulead

/-- The elements that a node names are the handles of its relation. -/
theorem mem_named_iff {node : Node} {h : ElementId} : h ∈ named node ↔
    ∃ el r, node.element? = some el ∧ el.relation node.goal = some r ∧ h ∈ r.handles := by
  unfold named
  cases node.element? with
  | none => simp
  | some el =>
    show h ∈ ((el.relation node.goal).map (·.handles)).getD [] ↔ _
    cases hr : el.relation node.goal <;> simp [hr]

/-- A soft edge is due to a relation. -/
theorem due_soft_iff :
    p.Due (p.Requested d.steps p.nodes.length) a b .soft ↔ p.RelationEdge a b := by
  constructor
  · intro hdue
    cases hdue with
    | asked hasked hdirection hlead =>
      rcases hasked with ⟨hk, -⟩ | ⟨-, -, ny, hny, e, he, hx⟩
      · cases hk
      · obtain ⟨el, r, hel, hr, hmem⟩ := mem_named_iff.1 he
        obtain ⟨ny', nx, hny', hnx, hgoals⟩ := direction_eq_some_iff.1 hdirection
        obtain rfl := Option.some.inj (hny.symm.trans hny')
        refine ⟨_, _, ny, nx, el, r, e, hny, hel, hr, hmem, hx, hnx, ?_⟩
        rcases hgoals with ⟨hgy, hgx, rfl, rfl⟩ | ⟨hgy, hgx, rfl, rfl⟩
        · exact .inl ⟨hgy, hgx, hlead.symm, rfl⟩
        · exact .inr ⟨hgy, hgx, hlead.symm, rfl⟩
  · rintro ⟨y, x, ny, nx, el, r, e, hny, hel, hr, hmem, hx, hnx, hgoals⟩
    have hasked : p.Requested d.steps p.nodes.length y x .soft :=
      .inr ⟨rfl, lt_of_node hny, ny, hny, e, mem_named_iff.2 ⟨el, r, hel, hr, hmem⟩, hx⟩
    rcases hgoals with ⟨hgy, hgx, rfl, rfl⟩ | ⟨hgy, hgx, rfl, rfl⟩
    · exact .asked hasked (direction_eq_some_iff.2
        ⟨ny, nx, hny, hnx, .inl ⟨hgy, hgx, rfl, rfl⟩⟩) rfl
    · exact .asked hasked (direction_eq_some_iff.2
        ⟨ny, nx, hny, hnx, .inr ⟨hgy, hgx, rfl, rfl⟩⟩) rfl

/-- What relations ask for leads to elements, and hard edges lead to work. -/
theorem Sound.not_relationEdge (hp : p.Sound) (h : p.leader? a = some b ∨ SeriesEdge d p a b) :
    ¬ p.RelationEdge a b := by
  -- hard edges end at work, and those of relations at elements
  have hwork : p.IsWork b := by
    rcases h with hled | ⟨i, u, v, -, hu, hv, hgoals⟩
    · exact hp.leader_work hled
    · have hmem := fun {i : ℕ} {w : Node} (hw : p.works[i]? = some w) =>
        hp.node_of_mem_works (List.mem_of_getElem? hw)
      rcases hgoals with ⟨-, -, -, rfl⟩ | ⟨-, -, -, rfl⟩
      · exact ⟨u, hmem hu⟩
      · exact ⟨v, hmem hv⟩
  obtain ⟨node, hnode, hnone⟩ := hwork
  rintro ⟨y, x, ny, nx, el, r, e, hny, hel, -, -, hx, -, ⟨-, -, -, rfl⟩ | ⟨-, -, -, rfl⟩⟩
  · obtain ⟨node', el', hnode', hel', -⟩ := hp.nodeOf?_eq_some_iff.1 hx
    obtain rfl := Option.some.inj (hnode.symm.trans hnode')
    rw [hnone] at hel'
    cases hel'
  · obtain rfl := Option.some.inj (hnode.symm.trans hny)
    rw [hnone] at hel
    cases hel

/-- Hard edges come from leaders and series, and soft ones from relations; no edge is due as both.
-/
theorem Settling.edge?_eq_some_iff (h : Settling d p.nodes.length p) :
    p.graph.edge? a b = some k ↔ (k = .hard ∧ (p.leader? a = some b ∨ SeriesEdge d p a b)) ∨
      k = .soft ∧ p.RelationEdge a b := by
  rw [h.drawn.edge?_eq_some_iff, h.due_hard_iff]
  cases k with
  | hard => simp [h.due_hard_iff]
  | soft =>
    rw [due_soft_iff]
    simp only [forall_const, reduceCtorEq, false_and, true_and, false_or, and_iff_left_iff_imp]
    exact fun hrelation hhard => h.sound.not_relationEdge hhard hrelation

/-! ## The whole plan -/

/-- A plan that is built is one in which all has been settled. -/
theorem settling_of_plan (h : d.plan = .ok p) : Settling d p.nodes.length p := by
  have hmeets := plan_meets d
  rw [h] at hmeets
  exact hmeets.2

/-- A plan has one node of work for each action, in the order of the actions. -/
theorem works_of_plan (h : d.plan = .ok p) :
    p.works.map (fun node => (node.label, node.goal, node.role)) =
      d.allActions.mapIdx fun i a => ("W:" ++ toString i, a.kind.goal, .work (workOf a)) := by
  obtain ⟨base, hbase, hresolving⟩ := outline_of_plan h
  rw [hresolving.works]
  exact hbase.works_eq

/-- In a plan the work of an action leads the elements that the action changes. -/
theorem leader?_of_plan (h : d.plan = .ok p) {f : NodeId} : p.leader? f = some l ↔
    ∃ i a e, d.allActions[i]? = some a ∧ p.workAt? i = some l ∧ Changes a e ∧
      p.nodeOf? e = some f := by
  obtain ⟨base, hbase, hresolving⟩ := outline_of_plan h
  have hp := settling_of_plan h
  have hnodeOf := nodeOf?_eq_of_roster hbase.sound hp.sound hresolving.keeps.toGrows
    (hp.roster.trans hbase.roster.symm)
  rw [hresolving.keeps.leader?_eq, hbase.leader?_eq_some_iff_changes]
  simp only [hnodeOf, workAt?_congr hresolving.works]

/-- The node of an element stands for the first one that is mentioned with its name. -/
theorem first_of_node (h : d.plan = .ok p) {node : Node} {el : Element}
    (hnode : p.nodes[n]? = some node) (hel : node.element? = some el) :
    d.find? el.id = some el ∧ d.goalOf? el.id = some node.goal := by
  rw [← Deployment.mem_firsts_listed_iff, ← (settling_of_plan h).roster]
  exact mem_roster_iff.2 ⟨n, node, hnode, hel, rfl⟩

/-- The plan of a deployment says exactly what the deployment says. -/
theorem renders_of_plan (h : d.plan = .ok p) : p.Renders d :=
  have hp := settling_of_plan h
  { element := fun el hel => by
      rw [← Deployment.map_fst_listed] at hel
      obtain ⟨x, hx, rfl⟩ := List.mem_map.1 hel
      obtain ⟨y, hy⟩ := Option.isSome_iff_exists.1
        (List.find?_isSome.2 ⟨x, hx, beq_self_eq_true x.1.id⟩ :
          (d.listed.find? (·.1.id == x.1.id)).isSome = true)
      obtain ⟨-, t, -, ht, -⟩ := hp.sound.node_of_listed hp.roster hy
      exact ⟨t, ht, fun t' ht' => Option.some.inj (ht'.symm.trans ht)⟩
    node := fun {n node el} hnode hel => by
      obtain ⟨hfind, hgoal⟩ := first_of_node h hnode hel
      exact ⟨hp.sound.nodeOf?_eq_some_iff.2 ⟨node, el, hnode, hel, rfl⟩, hfind, hgoal,
        hp.labelled.element (List.mem_of_getElem? hnode) hel⟩
    work := works_of_plan h
    leader := leader?_of_plan h
    criteria := fun {n node el} hnode hel => by
      have hcriteria := (built_of_plan h).criteria hnode hel
      exact ⟨hcriteria, by rw [hcriteria, isSome_criteria?]⟩
    edge := hp.edge?_eq_some_iff }

/-- One element is installed on another one, a third one goes, and two actions follow each
other. -/
def refit : Deployment :=
  let base : Element := { id := "base", component := "test" }
  let top : Element :=
    { id := "top", component := "test", relation := fun _ => some (.edge "top" "base") }
  let old : Element := { id := "old", component := "test", check := some 0 }
  { added := [base, top]
    deleted := [old]
    actions := [⟨.create, "install", [⟨.create, top, "install"⟩], 1⟩]
    series := [[⟨.modify, "prepare", [], 2⟩, ⟨.modify, "finish", [], 3⟩]] }

/-- The action that installs depends on the base, and the second action of the series on the
first. -/
theorem refit_is_rendered : ∃ p, refit.plan = .ok p ∧ p.Renders refit ∧
    p.graph.edge? 3 0 = some .soft ∧ p.graph.edge? 1 3 = some .hard ∧
    p.graph.edge? 5 4 = some .hard := by
  obtain ⟨p, hp⟩ : ∃ p, refit.plan = .ok p := ⟨_, rfl⟩
  refine ⟨p, hp, renders_of_plan hp, ?_⟩
  obtain rfl := Except.ok.inj hp
  exact ⟨rfl, rfl, rfl⟩

end Rollout.Plan
