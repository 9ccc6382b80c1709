import Rollout.Proofs.Plan.Outline
import Rollout.Proofs.Plan.Resolution

/-!
# Settling criteria, with all that can go wrong

Every element that a deployment mentions has a node before the first relation is looked at, so
resolving relations makes no nodes.  It asks for one dependency after the other (`Requested`), and
it fails at the first handle that names nothing, or that a node to be there cannot depend on.
-/

namespace Rollout.Plan

open Problem (Meets)

variable {d : Deployment} {p p' q : Plan} {steps : List (Bool × Action)} {asked : Asked}
  {n : ℕ}

/-! ## What nodes name -/

/-- The elements that the relation of a node names. -/
def named (node : Node) : List ElementId :=
  ((node.element?.bind (·.relation node.goal)).map (·.handles)).getD []

/-- The relation of a node names the element of another one. -/
def Mentions (p : Plan) (m x : NodeId) : Prop :=
  ∃ node, p.nodes[m]? = some node ∧ ∃ h ∈ named node, p.nodeOf? h = some x

/-- What is asked for by the series, and by the relations of the nodes below `n`. -/
def Requested (steps : List (Bool × Action)) (n : NodeId) (p : Plan) : Asked := fun m x k =>
  p.Chained steps m x k ∨ k = .soft ∧ m < n ∧ p.Mentions m x

/-- What the relation of a node makes problems of. -/
def nodeProblems (d : Deployment) (node : Node) : List Problem :=
  match node.element? with
  | none => []
  | some el => d.relationProblems (el, node.goal)

theorem named_congr {node node' : Node} (hgoal : node'.goal = node.goal)
    (hel : node'.element? = node.element?) : named node' = named node := by
  unfold named
  rw [hgoal, hel]

/-- The problems of the roster are those of the nodes. -/
theorem flatMap_roster (p : Plan) :
    p.roster.flatMap d.relationProblems = p.nodes.flatMap (nodeProblems d) := by
  unfold roster nodeProblems
  induction p.nodes with
  | nil => rfl
  | cons node nodes ih =>
    rw [List.filterMap_cons, List.flatMap_cons, ← ih]
    cases node.element? with
    | none => rfl
    | some el => rfl

/-! ## Elements are found -/

/-- An element is found where it is listed first. -/
theorem find?_eq (d : Deployment) (e : ElementId) :
    d.find? e = (d.listed.find? (·.1.id == e)).map (·.1) := by
  unfold Deployment.find?
  rw [← Deployment.map_fst_listed, List.find?_map]
  rfl

/-- An element that is mentioned has a node, with the goal of its first entry. -/
theorem Sound.node_of_listed (hp : p.Sound) (hroster : p.roster = firsts d.listed)
    {e : ElementId} {x : Element × Goal} (hx : d.listed.find? (·.1.id == e) = some x) :
    x.1.id = e ∧ ∃ t node, p.nodeOf? e = some t ∧ p.nodes[t]? = some node ∧
      node.element? = some x.1 ∧ node.goal = x.2 := by
  have hid : x.1.id = e := by simpa using List.find?_some hx
  refine ⟨hid, ?_⟩
  have hmem : x ∈ p.roster := by
    rw [hroster, mem_firsts_iff, hid, hx]
  obtain ⟨t, node, hnode, hel, hgoal⟩ := mem_roster_iff.1 hmem
  exact ⟨t, node, hp.nodeOf?_eq_some_iff.2 ⟨node, x.1, hnode, hel, hid⟩, hnode, hel, hgoal⟩

/-- A plan stays sound when a dependency of its nodes is added. -/
theorem Sound.addDependency (hp : p.Sound) {m : NodeId} {nm nn : Node} {k : EdgeKind}
    (hm : p.nodes[m]? = some nm) (hn : p.nodes[n]? = some nn)
    (h : p.addDependency m n k = .ok q) : q.Sound := by
  rcases addDependency_eq_ok hm hn h with ⟨-, -, rfl⟩ | ⟨-, -, rfl⟩ | ⟨-, -, rfl⟩
  · exact hp.link (hp.lead_lt (lt_of_node hm)) (lt_of_node hn) k
  · exact hp.link (hp.lead_lt (lt_of_node hn)) (lt_of_node hm) k
  · exact hp

/-! ## Handles -/

/-- The handles of a relation meet their problems one after the other, and ask for one dependency
each. -/
theorem addHandles_meets (hp : p.Sound) (hroster : p.roster = firsts d.listed)
    (hlabelled : p.Labelled) (hdrawn : Drawn asked p) {node : Node} {el : Element}
    (hnode : p.nodes[n]? = some node) (hel : node.element? = some el) {r : Relation} {c : Criteria}
    (hc : c.description = r.description) (hs : List ElementId) :
    Meets (hs.filterMap (d.handleProblem? el node.goal r))
      (fun q => q = { p with graph := q.graph } ∧ q.Sound ∧
        Drawn (fun m x k => asked m x k ∨ m = n ∧ k = .soft ∧ ∃ h ∈ hs, p.nodeOf? h = some x) q)
      (Deployment.addHandles d n node.goal el c hs p) := by
  induction hs generalizing p asked with
  | nil => exact ⟨rfl, rfl, hp, hdrawn.congr fun m x k => by simp⟩
  | cons h hs ih =>
    unfold Deployment.addHandles
    rw [List.filterMap_cons, find?_eq, Deployment.handleProblem?, Deployment.goalOf?_eq]
    cases hx : d.listed.find? (·.1.id == h) with
    -- a handle that names nothing is the first problem, and ends the resolution
    | none =>
      refine ⟨_, rfl, ?_⟩
      rw [hc]
      rfl
    | some x =>
      obtain ⟨hid, t, tnode, hnodeOf, htnode, htel, htgoal⟩ := hp.node_of_listed hroster hx
      -- the element is registered already, so that adding it finds its node
      have hadd : p.addElement x.1 node.goal = (p, t) :=
        addElement_of_some (by rw [hid, hnodeOf]) node.goal
      simp only [Option.map_some, hadd]
      rcases addDependency_outcome hnode htnode .soft with ⟨hg, hgt, herror⟩ | ⟨hfine, q, hok⟩
      · rw [herror, if_pos ⟨hg, htgoal ▸ hgt⟩]
        refine ⟨_, rfl, ?_⟩
        rw [hlabelled.element (List.mem_of_getElem? hnode) hel,
          hlabelled.element (List.mem_of_getElem? htnode) htel, hid]
        rfl
      · rw [hok, if_neg (by rwa [← htgoal])]
        have hsame := addDependency_eq hok
        have hq := hdrawn.addDependency (lt_of_node hnode) (lt_of_node htnode) .soft
        rw [hok] at hq
        have hrest := ih (hp.addDependency hnode htnode hok) (by rw [hsame]; exact hroster)
          (by rw [hsame]; exact hlabelled.of_alike ⟨rfl, rfl, rfl⟩) hq (by rw [hsame]; exact hnode)
        refine hrest.mono fun q' hq' => ?_
        obtain ⟨hsame', hsound, hdrawn'⟩ := hq'
        refine ⟨?_, hsound, hdrawn'.congr ?_⟩
        · rw [hsame', hsame]
        · intro m x k
          have hnodeOfq : ∀ e, q.nodeOf? e = p.nodeOf? e := fun e => by
            rw [hsame]
            rfl
          simp only [hnodeOfq, List.mem_cons, exists_eq_or_imp, hnodeOf, Option.some.injEq]
          unfold Asked.and
          rw [eq_comm (a := t)]
          tauto

/-! ## Nodes -/

/-- A plan in which the criteria of the nodes below `n` have been settled. -/
structure Settling (d : Deployment) (n : NodeId) (p : Plan) : Prop where
  sound : p.Sound
  roster : p.roster = firsts d.listed
  labelled : p.Labelled
  bare : ∀ {m : NodeId} {node : Node} {el : Element}, n ≤ m → p.nodes[m]? = some node →
    node.element? = some el → node.role = .element el none
  drawn : Drawn (p.Requested d.steps n) p

/-- To resolve a node is to add the dependencies of its handles and then to set its criteria. -/
theorem resolve_eq {node : Node} (hnode : p.nodes[n]? = some node)
    (hbare : ∀ {el}, node.element? = some el → node.role = .element el none) :
    Deployment.resolve d n p = match node.element? with
      | none => .ok p
      | some el => match el.criteria? node.goal with
        | none => .ok p
        | some c =>
          Deployment.addHandles d n node.goal el c ((c.relation.map (·.handles)).getD []) p >>=
            fun q => Deployment.setCriteria q n c := by
  obtain ⟨num, label, goal, role⟩ := node
  unfold Deployment.resolve
  rw [hnode]
  cases role with
  | work w => rfl
  | element el criteria =>
    obtain ⟨-, rfl⟩ : el = el ∧ criteria = none := by simpa using hbare rfl
    show (match el.criteria? goal with
      | none => _
      | some c => _) = match el.criteria? goal with
      | none => _
      | some c => _
    cases el.criteria? goal with
    | none => rfl
    | some c => cases hr : c.relation <;> simp only [hr] <;> rfl

/-- Criteria that come of a relation are described by it. -/
theorem description_of_criteria? {el : Element} {goal : Goal} {c : Criteria} {r : Relation}
    (hc : el.criteria? goal = some c) (hr : el.relation goal = some r) :
    c.description = r.description := by
  unfold Element.criteria? at hc
  rw [hr] at hc
  obtain rfl := Option.some.inj hc
  rfl

/-- Criteria leave the roster alone. -/
theorem roster_withCriteria (p : Plan) (n : NodeId) (c : Criteria) :
    (Deployment.withCriteria p n c).roster = p.roster := by
  show (p.nodes.modify n (settled c)).filterMap _ = p.nodes.filterMap _
  induction p.nodes generalizing n with
  | nil => cases n <;> rfl
  | cons node nodes ih =>
    cases n with
    | zero =>
      obtain ⟨-, hgoal, hel, -⟩ := settled_same c node
      rw [List.modify_zero_cons, List.filterMap_cons, List.filterMap_cons, hel, hgoal]
    | succ n => rw [List.modify_succ_cons, List.filterMap_cons, List.filterMap_cons, ih]

/-- Criteria leave alone what nodes mention. -/
theorem mentions_withCriteria (p : Plan) (n : NodeId) (c : Criteria) (m x : NodeId) :
    (Deployment.withCriteria p n c).Mentions m x ↔ p.Mentions m x := by
  constructor
  · rintro ⟨node, hnode, h, hh, hx⟩
    obtain ⟨old, hold, -, hgoal, hel⟩ := node_of_withCriteria hnode
    exact ⟨old, hold, h, named_congr hgoal hel ▸ hh, hx⟩
  · rintro ⟨node, hnode, h, hh, hx⟩
    obtain ⟨node', hnode', hgoal, hel⟩ := node_in_withCriteria hnode n c
    exact ⟨node', hnode', h, (named_congr hgoal hel).symm ▸ hh, hx⟩

/-- What the node at `n` names is asked for when it is settled. -/
theorem requested_succ {node : Node} (hnode : p.nodes[n]? = some node) (m x : NodeId)
    (k : EdgeKind) : p.Requested steps (n + 1) m x k ↔
      p.Requested steps n m x k ∨ m = n ∧ k = .soft ∧ ∃ h ∈ named node, p.nodeOf? h = some x := by
  have hnames : p.Mentions n x ↔ ∃ h ∈ named node, p.nodeOf? h = some x := by
    unfold Mentions
    rw [hnode]
    simp
  unfold Requested
  rw [← hnames, Nat.lt_succ_iff_lt_or_eq]
  constructor
  · rintro (hchained | ⟨hk, hm | rfl, hx⟩)
    · exact .inl (.inl hchained)
    · exact .inl (.inr ⟨hk, hm, hx⟩)
    · exact .inr ⟨rfl, hk, hx⟩
  · rintro ((hchained | ⟨hk, hm, hx⟩) | ⟨rfl, hk, hx⟩)
    · exact .inl hchained
    · exact .inr ⟨hk, .inl hm, hx⟩
    · exact .inr ⟨hk, .inr rfl, hx⟩

/-- A node that names nothing is passed over. -/
theorem Settling.pass (h : Settling d n p) {node : Node} (hnode : p.nodes[n]? = some node)
    (hnamed : named node = []) : Settling d (n + 1) p where
  sound := h.sound
  roster := h.roster
  labelled := h.labelled
  bare hm := h.bare (Nat.le_of_succ_le hm)
  drawn := h.drawn.congr fun m x k => by
    rw [requested_succ hnode, hnamed]
    simp

/-- The criteria of a node are settled once what it names has been asked for. -/
theorem Settling.withCriteria (h : Settling d n p) {node : Node} (hnode : p.nodes[n]? = some node)
    (hsame : q = { p with graph := q.graph }) (hsound : q.Sound)
    (hdrawn : Drawn (fun m x k => p.Requested d.steps n m x k ∨
      m = n ∧ k = .soft ∧ ∃ h ∈ named node, p.nodeOf? h = some x) q) (c : Criteria) :
    Settling d (n + 1) (Deployment.withCriteria q n c) ∧
      (Deployment.withCriteria q n c).nodes.drop (n + 1) = p.nodes.drop (n + 1) ∧
      (Deployment.withCriteria q n c).nodes.length = p.nodes.length := by
  have hnodes : q.nodes = p.nodes := by rw [hsame]
  -- later nodes are not touched, so they are as bare as before
  have hlater : ∀ m, n < m → (Deployment.withCriteria q n c).nodes[m]? = p.nodes[m]? := by
    intro m hm
    rw [getElem?_withCriteria, if_neg (Nat.ne_of_gt hm), hnodes]
  refine ⟨⟨hsound.withCriteria n c, ?_, ?_, fun {m node' el} hm hnode' hel => ?_, ?_⟩, ?_, ?_⟩
  · rw [roster_withCriteria, roster_congr hnodes, h.roster]
  · have halike : q.Alike p := by
      rw [hsame]
      exact ⟨rfl, rfl, rfl⟩
    exact (h.labelled.of_alike halike).withCriteria n c
  · rw [hlater m hm] at hnode'
    exact h.bare (Nat.le_of_succ_le hm) hnode' hel
  · have hgrown := hdrawn.of_grows (grows_withCriteria q n c) hdrawn.coherent (fun _ _ => rfl)
      fun _ => rfl
    refine hgrown.congr fun m x k => ?_
    rw [← requested_succ hnode]
    unfold Requested
    rw [mentions_withCriteria, chained_congr (works_withCriteria q n c), hsame]
    rfl
  · refine List.ext_getElem? fun i => ?_
    rw [List.getElem?_drop, List.getElem?_drop, hlater (n + 1 + i) (by omega)]
  · show (q.nodes.modify n _).length = _
    rw [List.length_modify, hnodes]

/-- A node names the handles of the relation of its element. -/
theorem named_of_element {node : Node} {el : Element} (hel : node.element? = some el) :
    named node = ((el.relation node.goal).map (·.handles)).getD [] := by
  unfold named
  rw [hel]
  rfl

/-- Adding the dependencies that the relation of a node asks for meets the problems of the
relation. -/
theorem Settling.addNamed (h : Settling d n p) {node : Node} {el : Element} {c : Criteria}
    (hnode : p.nodes[n]? = some node) (hel : node.element? = some el)
    (hc : el.criteria? node.goal = some c) :
    Meets (d.relationProblems (el, node.goal))
      (fun q => q = { p with graph := q.graph } ∧ q.Sound ∧ Drawn (fun m x k =>
        p.Requested d.steps n m x k ∨ m = n ∧ k = .soft ∧ ∃ h ∈ named node, p.nodeOf? h = some x) q)
      (Deployment.addHandles d n node.goal el c ((c.relation.map (·.handles)).getD []) p) := by
  have hrelation : c.relation = el.relation node.goal := by
    rw [← relation_of_criteria?, hc]
    rfl
  rw [named_of_element hel, hrelation]
  unfold Deployment.relationProblems
  cases hr : el.relation node.goal with
  | none => exact ⟨rfl, rfl, h.sound, h.drawn.congr fun m x k => by simp⟩
  | some r =>
    exact addHandles_meets h.sound h.roster h.labelled h.drawn hnode hel
      (description_of_criteria? hc hr) r.handles

/-- Resolving a node meets the problems of its relation. -/
theorem Settling.resolve (h : Settling d n p) {node : Node} (hnode : p.nodes[n]? = some node) :
    Meets (nodeProblems d node) (fun q => Settling d (n + 1) q ∧
        q.nodes.drop (n + 1) = p.nodes.drop (n + 1) ∧ q.nodes.length = p.nodes.length)
      (Deployment.resolve d n p) := by
  rw [resolve_eq hnode fun hel => h.bare (Nat.le_refl n) hnode hel]
  unfold nodeProblems
  cases hel : node.element? with
  | none =>
    have hnamed : named node = [] := by
      unfold named
      rw [hel]
      rfl
    exact ⟨rfl, h.pass hnode hnamed, rfl, rfl⟩
  | some el =>
    simp only
    cases hc : el.criteria? node.goal with
    | none =>
      -- without criteria there is no relation
      have hrelation : el.relation node.goal = none := by
        rw [← relation_of_criteria?, hc]
        rfl
      have hnamed : named node = [] := by rw [named_of_element hel, hrelation]; rfl
      unfold Deployment.relationProblems
      rw [hrelation]
      exact ⟨rfl, h.pass hnode hnamed, rfl, rfl⟩
    | some c =>
      rw [← List.append_nil (d.relationProblems _)]
      refine (h.addNamed hnode hel hc).bind fun q hq => ?_
      obtain ⟨hsame, hsound, hdrawn⟩ := hq
      -- The node is still there, and nothing has been settled of it in the meantime.
      have hset : Deployment.setCriteria q n c = .ok (Deployment.withCriteria q n c) := by
        refine setCriteria_eq_ok_iff.2 ⟨⟨node, el, ?_, h.bare (Nat.le_refl n) hnode hel⟩, rfl⟩
        rw [hsame]
        exact hnode
      rw [hset]
      exact ⟨rfl, h.withCriteria hnode hsame hsound hdrawn c⟩

/-- Resolving the nodes from some place on meets the problems of their relations. -/
theorem Settling.resolveFrom (h : Settling d n p) {count : ℕ} (hn : n ≤ p.nodes.length)
    (hcount : p.nodes.length ≤ n + count) :
    Meets ((p.nodes.drop n).flatMap (nodeProblems d))
      (fun q => Settling d q.nodes.length q) (Deployment.resolveFrom d count n p) := by
  -- there is no node left to resolve
  have hdone : n = p.nodes.length → Meets ((p.nodes.drop n).flatMap (nodeProblems d))
      (fun q => Settling d q.nodes.length q) (.ok p) := by
    rintro rfl
    rw [List.drop_length]
    exact ⟨rfl, h⟩
  induction count generalizing n p with
  | zero => exact hdone (by omega)
  | succ count ih =>
    unfold Deployment.resolveFrom
    by_cases hlt : n < p.nodes.length
    · rw [if_pos hlt, List.drop_eq_getElem_cons hlt, List.flatMap_cons]
      refine (h.resolve (List.getElem?_eq_getElem hlt)).bind fun q hresolved => ?_
      obtain ⟨hq, hdrop, hlength⟩ := hresolved
      rw [← hdrop]
      refine ih hq (by omega) (by omega) fun hend => ?_
      rw [hend] at hq ⊢
      rw [List.drop_length]
      exact ⟨rfl, hq⟩
    · rw [if_neg hlt]
      exact hdone (by omega)

/-- Before the first node is resolved, nothing is settled. -/
theorem Outline.settling (h : Outline d d.listed d.steps p) : Settling d 0 p where
  sound := h.sound
  roster := h.roster
  labelled := h.labelled
  bare _ := h.role
  drawn := h.drawn.congr fun m x k => by simp [Requested]

/-- The plan of a deployment fails with the first of its problems, and otherwise everything has been
settled. -/
theorem plan_meets (d : Deployment) :
    Meets d.problems (fun p => Settling d p.nodes.length p) d.plan := by
  unfold Deployment.problems Deployment.plan
  rw [← List.append_assoc]
  refine (skeleton_meets d).bind fun p hp => ?_
  have hcount : p.nodes.length ≤ 0 + (p.nodes.length + d.mentioned.length) := by omega
  have hall := hp.settling.resolveFrom (Nat.zero_le _) hcount
  rw [List.drop_zero, ← flatMap_roster, hp.roster] at hall
  exact hall

/-- A plan is an outline of all elements and steps with all criteria resolved. -/
theorem outline_of_plan (h : d.plan = .ok p) :
    ∃ base, Outline d d.listed d.steps base ∧ Resolving d base p.nodes.length p := by
  obtain ⟨base, hskeleton, hresolving⟩ := resolving_of_plan h
  have hmeets := skeleton_meets d
  rw [hskeleton] at hmeets
  exact ⟨base, hmeets.2, hresolving⟩

/-- Whoever leads an element acts for it. -/
theorem actsFor_of_plan (h : d.plan = .ok p) {f l : NodeId} (hf : p.leader? f = some l) :
    p.ActsFor l f := by
  obtain ⟨base, hbase, hresolving⟩ := outline_of_plan h
  rw [hresolving.keeps.leader?_eq] at hf
  exact hresolving.keeps.toGrows.actsFor (hbase.led hf)

end Rollout.Plan
