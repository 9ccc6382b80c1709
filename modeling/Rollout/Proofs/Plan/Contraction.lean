import Rollout.Proofs.Digraph.Acyclic
import Rollout.Proofs.Plan.Account

/-!
# Which deployments are refused as cyclic

The nodes of the elements that an action changes wait for the node of the action, and the action
waits for what they need.  So an action and its elements come to one `Agent`, and a plan has a cycle
if and only if an agent waits for itself (`Knotted`), as can be read off the deployment.

Of the edges of a plan those from an element to its leader stay within an agent and end at once,
since nobody leads a leader.  All others leave a node that is not led, and they reach an agent at
one of its nodes; going on to the node that leads this one is a step of `Relies`, and the steps of
`Relies` are those of `Awaits`, from node to node in place of agent to agent.
-/

namespace Rollout

/-! ## What a deployment says -/

/-- What has to be waited for: an action, or an element that no action changes. -/
inductive Agent where
  | action (i : ℕ)
  | element (e : ElementId)
deriving DecidableEq, Repr

namespace Deployment

/-- The action that changes the element, or else the element. -/
def agentOf (d : Deployment) (e : ElementId) : Agent :=
  match d.allActions.findIdx? fun a => a.changes.any (·.element.id == e) with
  | some i => .action i
  | none => .element e

/-- The first agent waits for the second one. -/
inductive Awaits (d : Deployment) : Agent → Agent → Prop where
  /-- An element that is to be there waits for those that its relation names. -/
  | needs {y : Element} {r : Relation} {x : ElementId} (hy : d.NamesUnder y .deployed r x)
    (hx : d.goalOf? x = some .deployed) : Awaits d (d.agentOf y.id) (d.agentOf x)
  /-- An element that is to go waits for those whose relations name it. -/
  | needed {y : Element} {r : Relation} {x : ElementId} (hy : d.NamesUnder y .destroyed r x)
    (hx : d.goalOf? x = some .destroyed) : Awaits d (d.agentOf x) (d.agentOf y.id)
  /-- Of two neighbours in a series that deploy the second waits for the first. -/
  | follows {i : ℕ} {a b : Action} (hi : d.Neighbours i) (ha : d.allActions[i]? = some a)
    (hb : d.allActions[i + 1]? = some b) (hgoal : a.kind.goal = .deployed)
    (hgoal' : b.kind.goal = .deployed) : Awaits d (.action (i + 1)) (.action i)
  /-- Of two neighbours in a series that destroy the first waits for the second. -/
  | precedes {i : ℕ} {a b : Action} (hi : d.Neighbours i) (ha : d.allActions[i]? = some a)
    (hb : d.allActions[i + 1]? = some b) (hgoal : a.kind.goal = .destroyed)
    (hgoal' : b.kind.goal = .destroyed) : Awaits d (.action i) (.action (i + 1))

/-- Some agent waits for itself, at once or by way of others. -/
def Knotted (d : Deployment) : Prop := ∃ u, Relation.TransGen d.Awaits u u

/-- The agent of an element is the first action that changes it, or else the element itself. -/
theorem agentOf_cases (d : Deployment) (e : ElementId) :
    (∃ i a, d.allActions[i]? = some a ∧ Changes a e ∧ d.agentOf e = .action i) ∨
      (∀ a ∈ d.allActions, ¬Changes a e) ∧ d.agentOf e = .element e := by
  have hany : ∀ a : Action, a.changes.any (·.element.id == e) = true ↔ Changes a e := by
    simp [Changes]
  unfold agentOf
  cases hfind : d.allActions.findIdx? fun a => a.changes.any (·.element.id == e) with
  | some i =>
    obtain ⟨hi, hchanges, -⟩ := List.findIdx?_eq_some_iff_getElem.1 hfind
    exact .inl ⟨i, _, List.getElem?_eq_getElem hi, (hany _).1 hchanges, rfl⟩
  | none =>
    refine .inr ⟨fun a ha hchanges => ?_, rfl⟩
    have hnot := List.findIdx?_eq_none_iff.1 hfind a ha
    rw [(hany a).2 hchanges] at hnot
    cases hnot

end Deployment

namespace Plan

open Deployment (Changes agentOf_cases)

variable {d : Deployment} {p : Plan} {a b l m n : NodeId} {u v : Agent}

/-! ## Agents and nodes -/

/-- The node that an agent waits with. -/
def agentNode? (p : Plan) : Agent → Option NodeId
  | .action i => p.workAt? i
  | .element e => p.nodeOf? e

/-- No node of work is listed twice. -/
theorem Sound.works_nodup (hp : p.Sound) : p.works.Nodup := by
  refine List.Nodup.filter _ (List.nodup_iff_getElem?_ne_getElem?.2 fun i j hij hj heq => ?_)
  have hnode := List.getElem?_eq_getElem hj
  exact Nat.ne_of_lt hij ((hp.id_eq (heq.trans hnode)).symm.trans (hp.id_eq hnode))

/-- A node is the node of one action. -/
theorem Sound.eq_of_workAt? (hp : p.Sound) {i j : ℕ} (hi : p.workAt? i = some n)
    (hj : p.workAt? j = some n) : i = j := by
  obtain ⟨node, hnode, -, hn, -⟩ := node_of_workAt? hp hi
  obtain ⟨node', hnode', -, hn', -⟩ := node_of_workAt? hp hj
  obtain rfl := Option.some.inj (hn.symm.trans hn')
  exact (List.getElem?_inj (List.getElem?_eq_some_iff.1 hnode).1 hp.works_nodup).1
    (hnode.trans hnode'.symm)

theorem Sound.lead_of_workAt? (hp : p.Sound) {i : ℕ} (hi : p.workAt? i = some n) :
    p.lead n = n := by
  obtain ⟨-, -, -, -, hlead⟩ := node_of_workAt? hp hi
  exact hlead

/-- A node that stands for work stands for no element. -/
theorem Sound.nodeOf?_ne_work (hp : p.Sound) {i : ℕ} {e : ElementId} (hi : p.workAt? i = some n) :
    p.nodeOf? e ≠ some n := by
  intro he
  obtain ⟨node, hnode, hid, hn, -⟩ := node_of_workAt? hp hi
  obtain ⟨node', el, hn', hel, -⟩ := hp.nodeOf?_eq_some_iff.1 he
  obtain rfl := Option.some.inj (hn.symm.trans hn')
  rw [(hp.node_of_mem_works (List.mem_of_getElem? hnode)).2] at hel
  cases hel

/-- Different agents have different nodes. -/
theorem Sound.agentNode?_inj (hp : p.Sound) (hu : p.agentNode? u = some n)
    (hv : p.agentNode? v = some n) : u = v := by
  cases u with
  | action i =>
    cases v with
    | action j => rw [hp.eq_of_workAt? hu hv]
    | element e => exact absurd hv (hp.nodeOf?_ne_work hu)
  | element e =>
    cases v with
    | action j => exact absurd hu (hp.nodeOf?_ne_work hv)
    | element e' => rw [hp.indexed.eq_of_nodeOf? hu hv]

/-- There is work for each action, with the same goal. -/
theorem work_iff_action (h : d.plan = .ok p) {i : ℕ} {goal : Goal} :
    (∃ node, p.works[i]? = some node ∧ node.goal = goal) ↔
      ∃ a, d.allActions[i]? = some a ∧ a.kind.goal = goal := by
  have hwork := congrArg (fun rows => (rows[i]?).map (·.2.1)) (works_of_plan h)
  simp only [List.getElem?_map, List.getElem?_mapIdx, Option.map_map] at hwork
  rw [← Option.map_eq_some_iff, ← Option.map_eq_some_iff]
  exact iff_of_eq (congrArg (· = some goal) hwork)

/-- The agent of an element waits with the leader of its node. -/
theorem agentNode?_agentOf (h : d.plan = .ok p) {e : ElementId} (he : p.nodeOf? e = some n) :
    p.agentNode? (d.agentOf e) = some (p.lead n) := by
  have hsound := (settling_of_plan h).sound
  rcases agentOf_cases d e with ⟨i, a, ha, hchanges, hagent⟩ | ⟨hnone, hagent⟩
  · obtain ⟨node, hnode, -⟩ := (work_iff_action h).2 ⟨_, ha, rfl⟩
    have hwork := workAt?_of_works hnode
    rw [hagent, lead_of_led ((leader?_of_plan h).2 ⟨i, a, e, ha, hwork, hchanges, he⟩)]
    exact hwork
  · have hfree : p.leader? n = none := by
      refine Option.eq_none_iff_forall_ne_some.2 fun l hl => ?_
      obtain ⟨i, a, e', ha, -, hchanges, he'⟩ := (leader?_of_plan h).1 hl
      obtain rfl := hsound.indexed.eq_of_nodeOf? he he'
      exact hnone a (List.mem_of_getElem? ha) hchanges
    rw [hagent, lead_of_free hfree]
    exact he

/-! ## Cycles through nodes that are not led -/

/-- A node that is not led has an edge to the other one, or to a node that the other one leads. -/
def Relies (p : Plan) (a b : NodeId) : Prop :=
  p.leader? a = none ∧ ∃ x, p.graph.Edge a x ∧ p.lead x = b

/-- A node that is led has an edge to its leader only. -/
theorem Settling.eq_of_led (h : Settling d p.nodes.length p) (hled : p.leader? a = some l)
    (hab : p.graph.Edge a b) : b = l := by
  obtain ⟨k, hk⟩ := Digraph.mem_successors_iff_edge.1 hab
  cases (h.drawn.edge?_eq_some_iff.1 hk).1 with
  | led hleader => exact Option.some.inj (hleader.symm.trans hled)
  | asked _ _ hlead =>
    have hfree := hlead ▸ h.sound.leader?_lead _
    rw [hled] at hfree
    cases hfree

/-- A way through the graph goes from a node to its leader and no further, or from the leader of its
first node it comes to that of its last. -/
theorem Settling.relies_of_path (h : Settling d p.nodes.length p)
    (hab : Relation.TransGen p.graph.Edge a b) :
    p.leader? a = some b ∨ Relation.TransGen p.Relies (p.lead a) (p.lead b) := by
  have hstep : ∀ {a b}, p.graph.Edge a b → p.leader? a = none → p.Relies (p.lead a) (p.lead b) :=
    fun {a b} hedge hfree => ⟨h.sound.leader?_lead a, b, (lead_of_free hfree).symm ▸ hedge, rfl⟩
  induction hab with
  | single hedge =>
    cases hled : p.leader? a with
    | none => exact .inr (.single (hstep hedge hled))
    | some l => exact .inl (by rw [h.eq_of_led hled hedge])
  | @tail m b _ hedge ih =>
    rcases ih with hled | hrelies
    · -- Nobody leads a leader, so the way goes on to another agent.
      have hm := h.sound.leader_free hled
      rw [lead_of_led hled]
      exact .inr (lead_of_free hm ▸ .single (hstep hedge hm))
    · cases hled : p.leader? m with
      | none => exact .inr (.tail hrelies (hstep hedge hled))
      | some l =>
        -- The last step stays with the agent that has been reached.
        obtain rfl := h.eq_of_led hled hedge
        rw [lead_of_led hled] at hrelies
        rw [lead_of_free (h.sound.leader_free hled)]
        exact .inr hrelies

/-- To rely on a node is to have a path to it. -/
theorem Relies.path (hp : p.Sound) (h : p.Relies a b) : Relation.TransGen p.graph.Edge a b := by
  obtain ⟨-, x, hedge, rfl⟩ := h
  cases hled : p.leader? x with
  | none =>
    rw [lead_of_free hled]
    exact .single hedge
  | some l =>
    rw [lead_of_led hled]
    exact .tail (.single hedge) (Digraph.mem_successors_of_edge (hp.edge_leader hled))

/-- The graph has a cycle if and only if nodes without leaders rely on one another in a circle. -/
theorem Settling.cyclic_iff (h : Settling d p.nodes.length p) :
    p.graph.Cyclic ↔ ∃ n, Relation.TransGen p.Relies n n := by
  constructor
  · rintro ⟨n, hn⟩
    rcases h.relies_of_path hn with hled | hrelies
    · have hfree := h.sound.leader_free hled
      rw [hled] at hfree
      cases hfree
    · exact ⟨p.lead n, hrelies⟩
  · rintro ⟨n, hn⟩
    exact ⟨n, Relation.TransGen.closed (fun _ _ hstep => hstep.path h.sound) n n hn⟩

/-! ## Waiting from node to node -/

/-- An element that has a goal has a node. -/
theorem node_of_goal (h : d.plan = .ok p) {e : ElementId} {goal : Goal}
    (he : d.goalOf? e = some goal) : ∃ n, p.nodeOf? e = some n := by
  have hp := settling_of_plan h
  rw [Deployment.goalOf?_eq] at he
  obtain ⟨row, hrow, -⟩ := Option.map_eq_some_iff.1 he
  obtain ⟨-, n, -, hn, -⟩ := hp.sound.node_of_listed hp.roster hrow
  exact ⟨n, hn⟩

/-- The node of an element stands for the one that has the name, and for its goal. -/
theorem first_of_nodeOf? (h : d.plan = .ok p) {e : ElementId} (he : p.nodeOf? e = some n) :
    ∃ node el, p.nodes[n]? = some node ∧ node.element? = some el ∧ d.find? e = some el ∧
      d.goalOf? e = some node.goal := by
  obtain ⟨node, el, hnode, hel, rfl⟩ := (settling_of_plan h).sound.nodeOf?_eq_some_iff.1 he
  exact ⟨node, el, hnode, hel, first_of_node h hnode hel⟩

/-- The edges that relations ask for, as the deployment has them. -/
theorem relationEdge_iff (h : d.plan = .ok p) : p.RelationEdge a b ↔
    ∃ y goal r x m n, d.NamesUnder y goal r x ∧ d.goalOf? x = some goal ∧
      p.nodeOf? y.id = some m ∧ p.nodeOf? x = some n ∧
      ((goal = .deployed ∧ a = p.lead m ∧ b = n) ∨ goal = .destroyed ∧ a = p.lead n ∧ b = m) := by
  have hsound := (settling_of_plan h).sound
  constructor
  · rintro ⟨m, n, nm, nn, y, r, x, hnm, hy, hr, hmem, hn, hnn, hgoals⟩
    obtain ⟨hfind, hgoal⟩ := first_of_node h hnm hy
    have hm := hsound.nodeOf?_eq_some_iff.2 ⟨nm, y, hnm, hy, rfl⟩
    obtain ⟨nn', -, hnn', -, -, hx⟩ := first_of_nodeOf? h hn
    obtain rfl := Option.some.inj (hnn.symm.trans hnn')
    refine ⟨y, nm.goal, r, x, m, n, ⟨hfind, hgoal, hr, hmem⟩, ?_, hm, hn, ?_⟩
    · rcases hgoals with ⟨hgm, hgn, -⟩ | ⟨hgm, hgn, -⟩
      · rw [hx, hgm, hgn]
      · rw [hx, hgm, hgn]
    · exact hgoals.imp (fun hgoals => ⟨hgoals.1, hgoals.2.2⟩) fun hgoals => ⟨hgoals.1, hgoals.2.2⟩
  · rintro ⟨y, goal, r, x, m, n, ⟨hfind, hgoal, hr, hmem⟩, hx, hm, hn, hgoals⟩
    obtain ⟨nm, y', hnm, hy, hfind', hgoal'⟩ := first_of_nodeOf? h hm
    obtain rfl := Option.some.inj (hfind.symm.trans hfind')
    obtain rfl := Option.some.inj (hgoal.symm.trans hgoal')
    obtain ⟨nn, -, hnn, -, -, hx'⟩ := first_of_nodeOf? h hn
    -- the two ends have the same goal, which is what gives the relation an edge
    have hsame : nn.goal = nm.goal := Option.some.inj (hx'.symm.trans hx)
    refine ⟨m, n, nm, nn, y, r, x, hnm, hy, hr, hmem, hn, hnn, ?_⟩
    rw [hsame]
    exact hgoals.imp (fun hgoals => ⟨hgoals.1, hgoals⟩) fun hgoals => ⟨hgoals.1, hgoals⟩

/-- An edge that comes from a relation makes one agent's node rely on the other's. -/
theorem Settling.relies_of_relation (h : Settling d p.nodes.length p)
    (hab : p.RelationEdge (p.lead a) b) : p.Relies (p.lead a) (p.lead b) := by
  have hk := h.edge?_eq_some_iff.2 (.inr ⟨rfl, hab⟩)
  exact ⟨h.sound.leader?_lead a, b, Digraph.mem_successors_of_edge hk, rfl⟩

/-- Work relies on the work that it has a series edge to, for neither is led. -/
theorem Settling.relies_of_series (h : Settling d p.nodes.length p) {i j : ℕ}
    (hi : p.workAt? i = some a) (hj : p.workAt? j = some b) (hab : SeriesEdge d p a b) :
    p.Relies a b := by
  have hfree := h.sound.leader?_lead a
  rw [h.sound.lead_of_workAt? hi] at hfree
  have hk := h.edge?_eq_some_iff.2 (.inl ⟨rfl, .inr hab⟩)
  exact ⟨hfree, b, Digraph.mem_successors_of_edge hk, h.sound.lead_of_workAt? hj⟩

/-- An agent that waits for another one does so with its node, which relies on that of the other
one. -/
theorem relies_of_awaits (h : d.plan = .ok p) (hawaits : d.Awaits u v) :
    ∃ a b, p.agentNode? u = some a ∧ p.agentNode? v = some b ∧ p.Relies a b := by
  have hp := settling_of_plan h
  cases hawaits with
  | needs hy hx =>
    obtain ⟨m, hm⟩ := node_of_goal h hy.2.1
    obtain ⟨n, hn⟩ := node_of_goal h hx
    have hedge : p.RelationEdge (p.lead m) n :=
      (relationEdge_iff h).2 ⟨_, _, _, _, m, n, hy, hx, hm, hn, .inl ⟨rfl, rfl, rfl⟩⟩
    exact ⟨_, _, agentNode?_agentOf h hm, agentNode?_agentOf h hn,
      hp.relies_of_relation hedge⟩
  -- an edge of two elements that are to go is turned round
  | needed hy hx =>
    obtain ⟨m, hm⟩ := node_of_goal h hy.2.1
    obtain ⟨n, hn⟩ := node_of_goal h hx
    have hedge : p.RelationEdge (p.lead n) m :=
      (relationEdge_iff h).2 ⟨_, _, _, _, m, n, hy, hx, hm, hn, .inr ⟨rfl, rfl, rfl⟩⟩
    exact ⟨_, _, agentNode?_agentOf h hn, agentNode?_agentOf h hm,
      hp.relies_of_relation hedge⟩
  | @follows i _ _ hi ha hb hgoal hgoal' =>
    obtain ⟨u, hu, hug⟩ := (work_iff_action h).2 ⟨_, ha, rfl⟩
    obtain ⟨v, hv, hvg⟩ := (work_iff_action h).2 ⟨_, hb, rfl⟩
    have hn := workAt?_of_works hu
    have hm := workAt?_of_works hv
    exact ⟨v.id, u.id, hm, hn, hp.relies_of_series hm hn
      ⟨i, u, v, hi, hu, hv, .inl ⟨hug.trans hgoal, hvg.trans hgoal', rfl, rfl⟩⟩⟩
  | @precedes i _ _ hi ha hb hgoal hgoal' =>
    obtain ⟨u, hu, hug⟩ := (work_iff_action h).2 ⟨_, ha, rfl⟩
    obtain ⟨v, hv, hvg⟩ := (work_iff_action h).2 ⟨_, hb, rfl⟩
    have hn := workAt?_of_works hu
    have hm := workAt?_of_works hv
    exact ⟨u.id, v.id, hn, hm, hp.relies_of_series hn hm
      ⟨i, u, v, hi, hu, hv, .inr ⟨hug.trans hgoal, hvg.trans hgoal', rfl, rfl⟩⟩⟩

/-- A node relies on another one because the agent of the one waits for that of the other. -/
theorem awaits_of_relies (h : d.plan = .ok p) (hrelies : p.Relies a b) :
    ∃ u v, p.agentNode? u = some a ∧ p.agentNode? v = some b ∧ d.Awaits u v := by
  have hp := settling_of_plan h
  obtain ⟨hfree, x, hedge, rfl⟩ := hrelies
  obtain ⟨k, hk⟩ := Digraph.mem_successors_iff_edge.1 hedge
  -- a node without a leader has edges of series and relations only
  rcases hp.edge?_eq_some_iff.1 hk with ⟨-, hled | hseries⟩ | ⟨-, hrelation⟩
  · rw [hfree] at hled
    cases hled
  · obtain ⟨i, u, v, hi, hu, hv, hgoals⟩ := hseries
    obtain ⟨a, ha, hag⟩ := (work_iff_action h).1 ⟨u, hu, rfl⟩
    obtain ⟨b, hb, hbg⟩ := (work_iff_action h).1 ⟨v, hv, rfl⟩
    have hn := workAt?_of_works hu
    have hm := workAt?_of_works hv
    rcases hgoals with ⟨hug, hvg, rfl, rfl⟩ | ⟨hug, hvg, rfl, rfl⟩
    · rw [hp.sound.lead_of_workAt? hn]
      exact ⟨.action (i + 1), .action i, hm, hn,
        .follows hi ha hb (hag.trans hug) (hbg.trans hvg)⟩
    · rw [hp.sound.lead_of_workAt? hm]
      exact ⟨.action i, .action (i + 1), hn, hm,
        .precedes hi ha hb (hag.trans hug) (hbg.trans hvg)⟩
  · obtain ⟨y, goal, r, e, m, n, hy, he, hm, hn, ⟨rfl, rfl, rfl⟩ | ⟨rfl, rfl, rfl⟩⟩ :=
      (relationEdge_iff h).1 hrelation
    · exact ⟨_, _, agentNode?_agentOf h hm, agentNode?_agentOf h hn, .needs hy he⟩
    · exact ⟨_, _, agentNode?_agentOf h hn, agentNode?_agentOf h hm, .needed hy he⟩

/-- If every step of one relation stands for a step of another one, and nothing stands for two
things, then a cycle stands for a cycle. -/
theorem exists_cycle {α β : Type} {r : α → α → Prop} {s : β → β → Prop} {R : α → β → Prop}
    (hunique : ∀ {x y y'}, R x y → R x y' → y = y')
    (hstep : ∀ {x x'}, r x x' → ∃ y y', R x y ∧ R x' y' ∧ s y y') {x : α}
    (h : Relation.TransGen r x x) : ∃ y, Relation.TransGen s y y := by
  have hpath : ∀ {x x'}, Relation.TransGen r x x' →
      ∃ y y', R x y ∧ R x' y' ∧ Relation.TransGen s y y' := by
    intro x x' hxx'
    induction hxx' with
    | single hone =>
      obtain ⟨y, y', hy, hy', hs⟩ := hstep hone
      exact ⟨y, y', hy, hy', .single hs⟩
    | tail _ hlast ih =>
      obtain ⟨y, y', hy, hy', hpath⟩ := ih
      obtain ⟨z, z', hz, hz', hs⟩ := hstep hlast
      -- the step goes on from where the path has come to, since it has only one image
      obtain rfl := hunique hy' hz
      exact ⟨y, z', hy, hz', .tail hpath hs⟩
  obtain ⟨y, y', hy, hy', hs⟩ := hpath h
  obtain rfl := hunique hy hy'
  exact ⟨y, hs⟩

/-- Agents wait for themselves with nodes that rely on themselves. -/
theorem knotted_iff (h : d.plan = .ok p) :
    d.Knotted ↔ ∃ n, Relation.TransGen p.Relies n n := by
  constructor
  · rintro ⟨u, hu⟩
    exact exists_cycle (R := fun u n => p.agentNode? u = some n)
      (fun ha hb => Option.some.inj (ha.symm.trans hb)) (relies_of_awaits h) hu
  · rintro ⟨n, hn⟩
    exact exists_cycle (R := fun n u => p.agentNode? u = some n)
      (settling_of_plan h).sound.agentNode?_inj (awaits_of_relies h) hn

/-- The agent of an element is any action that changes it, as there is one at most. -/
theorem agentOf_of_changes (h : d.plan = .ok p) {i : ℕ} {a : Action} {e : ElementId} {goal : Goal}
    (ha : d.allActions[i]? = some a) (hchanges : Changes a e) (he : d.goalOf? e = some goal) :
    d.agentOf e = .action i := by
  obtain ⟨n, hn⟩ := node_of_goal h he
  obtain ⟨node, hnode, -⟩ := (work_iff_action h).2 ⟨_, ha, rfl⟩
  have hwork := workAt?_of_works hnode
  have hagent := agentNode?_agentOf h hn
  rw [lead_of_led ((leader?_of_plan h).2 ⟨i, a, e, ha, hwork, hchanges, hn⟩)] at hagent
  exact (settling_of_plan h).sound.agentNode?_inj hagent (v := .action i) hwork

/-- A plan is accepted if and only if no agent of its deployment waits for itself, and so it is not
if an element depends on one that the same action changes. -/
theorem accepted_iff_not_knotted (h : d.plan = .ok p) :
    (p.check = .ok () ↔ ¬d.Knotted) ∧
      ∀ (i : ℕ) (a : Action) (y : Element) (goal : Goal) (r : Relation) (x : ElementId),
        d.allActions[i]? = some a → Changes a y.id → Changes a x → d.NamesUnder y goal r x →
          d.goalOf? x = some goal → p.check ≠ .ok () := by
  have hp := settling_of_plan h
  have hiff : p.check = .ok () ↔ ¬d.Knotted := by
    rw [check_eq_ok_iff hp.sound.coherent, hp.cyclic_iff, knotted_iff h]
  refine ⟨hiff, fun i a y goal r x ha hy hx hnames hgoal hok => hiff.1 hok ?_⟩
  have hyi := agentOf_of_changes h ha hy hnames.2.1
  have hxi := agentOf_of_changes h ha hx hgoal
  refine ⟨.action i, .single ?_⟩
  cases goal with
  | deployed => simpa only [hyi, hxi] using Deployment.Awaits.needs hnames hgoal
  | destroyed => simpa only [hyi, hxi] using Deployment.Awaits.needed hnames hgoal

/-- One action moves a volume and a server; a client is installed on the volume, and the server
depends on something. -/
def moved (x : ElementId) : Deployment :=
  let host : Element := { id := "host", component := "test" }
  let volume : Element := { id := "volume", component := "test" }
  let server : Element :=
    { id := "server", component := "test", relation := fun _ => some (.edge "server" x) }
  let client : Element :=
    { id := "client", component := "test", relation := fun _ => some (.edge "client" "volume") }
  { added := [volume, server, client]
    kept := [host]
    actions := [⟨.modify, "move", [⟨.modify, volume, "move"⟩, ⟨.modify, server, "move"⟩], 1⟩] }

/-- The move can be made if the server depends on the host.  It waits for itself if the server
depends on the client, though no element does, and if the server depends on the volume. -/
theorem moved_is_refused :
    (∃ p, (moved "host").plan = .ok p ∧ p.check = .ok () ∧ ¬(moved "host").Knotted) ∧
      (∃ p, (moved "client").plan = .ok p ∧ (moved "client").Knotted ∧ p.check ≠ .ok ()) ∧
      ∃ p, (moved "volume").plan = .ok p ∧ p.check ≠ .ok () := by
  obtain ⟨p, hp⟩ : ∃ p, (moved "host").plan = .ok p := ⟨_, rfl⟩
  obtain ⟨q, hq⟩ : ∃ q, (moved "client").plan = .ok q := ⟨_, rfl⟩
  obtain ⟨s, hs⟩ : ∃ s, (moved "volume").plan = .ok s := ⟨_, rfl⟩
  refine ⟨⟨p, hp, ?_⟩, ⟨q, hq, ?_⟩, s, hs, ?_⟩
  · have hok : p.check = .ok () := by
      obtain rfl := Except.ok.inj hp
      rfl
    exact ⟨hok, (accepted_iff_not_knotted hp).1.1 hok⟩
  · have hserver : (moved "client").Awaits (.action 0) (.element "client") :=
      .needs (y := (moved "client").added[1]) (x := "client") ⟨rfl, rfl, rfl, by decide⟩ rfl
    have hclient : (moved "client").Awaits (.element "client") (.action 0) :=
      .needs (y := (moved "client").added[2]) (x := "volume") ⟨rfl, rfl, rfl, by decide⟩ rfl
    have hknotted : (moved "client").Knotted := ⟨.action 0, .tail (.single hserver) hclient⟩
    exact ⟨hknotted, fun hok => (accepted_iff_not_knotted hq).1.1 hok hknotted⟩
  · exact (accepted_iff_not_knotted hs).2 0 (moved "volume").actions[0]
      (moved "volume").added[1] .deployed _ "volume" rfl ⟨_, .tail _ (.head _), rfl⟩
      ⟨_, .head _, rfl⟩ ⟨rfl, rfl, rfl, by decide⟩ rfl

end Plan

end Rollout
