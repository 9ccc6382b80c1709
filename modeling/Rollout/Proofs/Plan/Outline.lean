import Rollout.Proofs.Plan.Adoption
import Rollout.Proofs.Plan.Problems

/-!
# What stands in a plan before its criteria are resolved

The actions of a deployment are one row of steps, each of which may follow the one before it in a
series.  `Outline` says what a plan is after some elements and some steps have come in: which
elements it has, in which order and with which goals, which pieces of work, who leads whom, and
which edges there are.
-/

namespace Rollout

namespace Deployment

/-- Put the node of an action that has been added behind the one before it, if it is to follow
that one. -/
def follow (before : Option NodeId) (follows : Bool) (added : Plan × NodeId) : Except Fault Plan :=
  match before with
  | some b => if follows then added.1.addDependency added.2 b .hard else .ok added.1
  | none => .ok added.1

/-- Add the action of a step to a plan, given the node of the action before it. -/
def addStep (state : Plan × Option NodeId) (s : Bool × Action) :
    Except Fault (Plan × Option NodeId) :=
  addAction state.1 s.2 >>= fun added =>
    (fun p => (p, some added.2)) <$> follow state.2 s.1 added

/-- A series that goes on is a fold in which every step follows the one before. -/
theorem addSeries_some_eq (b : NodeId) (as : List Action) (p : Plan) :
    addSeries (some b) as p = Prod.fst <$> (as.map (true, ·)).foldlM addStep (p, some b) := by
  induction as generalizing b p with
  | nil => rfl
  | cons a as ih =>
    rw [List.map_cons, List.foldlM_cons, addSeries, addStep]
    cases addAction p a with
    | error f => rfl
    | ok added =>
      show (added.1.addDependency added.2 b .hard >>= fun p => addSeries (some added.2) as p) =
        Prod.fst <$> (((fun p => (p, some added.2)) <$> added.1.addDependency added.2 b .hard) >>=
          (as.map (true, ·)).foldlM addStep)
      cases added.1.addDependency added.2 b .hard with
      | error f => rfl
      | ok p₂ => exact ih added.2 p₂

/-- A step that follows nothing adds its action. -/
theorem addStep_false (p : Plan) (before : Option NodeId) (a : Action) :
    addStep (p, before) (false, a) = (fun added => (added.1, some added.2)) <$> addAction p a := by
  unfold addStep
  cases addAction p a with
  | error f => rfl
  | ok added => cases before <;> rfl

/-- A series that begins is a fold in which all steps but the first follow. -/
theorem addSeries_none_eq (as : List Action) (p : Plan) (before : Option NodeId) :
    addSeries none as p = Prod.fst <$> (chain as).foldlM addStep (p, before) := by
  cases as with
  | nil => rfl
  | cons a as =>
    rw [chain, List.foldlM_cons, addSeries, addStep_false]
    cases addAction p a with
    | error f => rfl
    | ok added => exact addSeries_some_eq added.2 as added.1

/-- Actions outside every series are a fold in which no step follows. -/
theorem foldlM_addAction_eq (as : List Action) (p : Plan) (before : Option NodeId) :
    as.foldlM (fun p a => Prod.fst <$> addAction p a) p =
      Prod.fst <$> (as.map (false, ·)).foldlM addStep (p, before) := by
  induction as generalizing p before with
  | nil => rfl
  | cons a as ih =>
    rw [List.map_cons, List.foldlM_cons, List.foldlM_cons, addStep_false]
    cases addAction p a with
    | error f => rfl
    | ok added => exact ih added.1 (some added.2)

/-- All series together are one fold. -/
theorem foldlM_addSeries_eq (groups : List (List Action)) (p : Plan) (before : Option NodeId) :
    groups.foldlM (fun p group => addSeries none group p) p =
      Prod.fst <$> (groups.flatMap chain).foldlM addStep (p, before) := by
  induction groups generalizing p before with
  | nil => rfl
  | cons group groups ih =>
    rw [List.foldlM_cons, List.flatMap_cons, List.foldlM_append,
      addSeries_none_eq group p before]
    cases (chain group).foldlM addStep (p, before) with
    | error f => rfl
    | ok state => exact ih state.1 state.2

/-- The plan before its criteria are resolved comes of one row of steps. -/
theorem skeleton_eq (d : Deployment) : d.skeleton = d.ensureConsistent >>= fun _ =>
    Prod.fst <$> d.steps.foldlM addStep (Plan.ground d, none) := by
  show (d.ensureConsistent >>= fun _ =>
    d.actions.foldlM (fun p a => Prod.fst <$> addAction p a) (Plan.ground d) >>= fun p =>
      d.series.foldlM (fun p group => addSeries none group p) p) = _
  congr 1
  funext _
  rw [foldlM_addAction_eq d.actions _ none, steps, List.foldlM_append]
  cases (d.actions.map (false, ·)).foldlM addStep (Plan.ground d, none) with
  | error f => rfl
  | ok state => exact foldlM_addSeries_eq d.series state.1 state.2

end Deployment

namespace Plan

open Deployment (listedBy addStep follow changedBy changeProblems stepProblems stepsProblems
  TurnsBack)
open Problem (Meets)

variable {d : Deployment} {p p' q : Plan} {es : List (Element × Goal)}
  {steps : List (Bool × Action)} {a : Action} {l n : NodeId}

/-! ## Work that acts for elements -/

/-- A node acts for the element of another one. -/
def ActsFor (p : Plan) (l f : NodeId) : Prop :=
  ∃ (node : Node) (a : ActingFor), p.nodes[l]? = some node ∧ a ∈ node.actsFor ∧
    p.nodeOf? a.element = some f

/-- Work goes on acting for its elements while the plan grows. -/
theorem Grows.actsFor (h : p.Grows p') {f : NodeId} (hf : p.ActsFor l f) : p'.ActsFor l f := by
  obtain ⟨node, b, hnode, hb, hnodeOf⟩ := hf
  obtain ⟨node', hnode', -, -, hsame⟩ := h.node hnode
  exact ⟨node', b, hnode', hsame (element?_of_actsFor hb) ▸ hb, h.nodeOf? hnodeOf⟩

/-! ## Outlines -/

/-- The node of the action at a place. -/
def workAt? (p : Plan) (i : ℕ) : Option NodeId := (p.works[i]?).map (·.id)

theorem workAt?_of_works {i : ℕ} {node : Node} (h : p.works[i]? = some node) :
    p.workAt? i = some node.id := by
  unfold workAt?
  rw [h]
  rfl

/-- What series ask for: each step that follows another one depends on it. -/
def Chained (steps : List (Bool × Action)) (p : Plan) : Asked := fun m n k =>
  k = .hard ∧ ∃ i, (steps[i + 1]?).map (·.1) = some true ∧ p.workAt? (i + 1) = some m ∧
    p.workAt? i = some n

/-- The plan of some elements and steps, before criteria are resolved. -/
structure Outline (d : Deployment) (es : List (Element × Goal)) (steps : List (Bool × Action))
    (p : Plan) : Prop extends Skeleton d (steps.map (·.2)) p where
  roster : p.roster = firsts es
  labelled : p.Labelled
  nextWork : p.nextWork = p.works.length
  led : ∀ {f l}, p.leader? f = some l → p.ActsFor l f
  drawn : Drawn (p.Chained steps) p

/-- There is one node of work for each step. -/
theorem Outline.length_works (h : Outline d es steps p) : p.works.length = steps.length := by
  have := congrArg List.length h.parts
  simpa using this

/-- The work at a place is that of the action there. -/
theorem Outline.part (h : Outline d es steps p) {i : ℕ} {node : Node}
    (hnode : p.works[i]? = some node) : ∃ s, steps[i]? = some s ∧ node.goal = s.2.kind.goal ∧
      node.role = .work (workOf s.2) := by
  have hpart : (p.works.map fun n => (n.goal, n.role))[i]? =
      ((steps.map (·.2)).map partOf)[i]? := by rw [h.parts]
  rw [List.getElem?_map, List.getElem?_map, List.getElem?_map, hnode] at hpart
  obtain ⟨b, hb, heq⟩ := Option.map_eq_some_iff.1 hpart.symm
  obtain ⟨s, hs, rfl⟩ := Option.map_eq_some_iff.1 hb
  obtain ⟨hgoal, hrole⟩ := Prod.mk.inj heq
  exact ⟨s, hs, hgoal.symm, hrole.symm⟩

/-- The elements that an action changes have nodes that its node leads. -/
theorem Outline.adopted (h : Outline d es steps p) {i : ℕ} {s : Bool × Action}
    (hs : steps[i]? = some s) {c : ElementChange} (hc : c ∈ s.2.changes) :
    ∃ f l, p.workAt? i = some l ∧ p.leader? f = some l ∧ p.nodeOf? c.element.id = some f := by
  have hlt : i < p.works.length := by
    rw [h.length_works]
    exact (List.getElem?_eq_some_iff.1 hs).1
  obtain ⟨node, hnode⟩ : ∃ node, p.works[i]? = some node := ⟨_, List.getElem?_eq_getElem hlt⟩
  obtain ⟨s', hs', -, hrole⟩ := h.part hnode
  obtain rfl := Option.some.inj (hs.symm.trans hs')
  have hacts : ⟨c.kind, c.element.id, c.detail⟩ ∈ node.actsFor := by
    unfold Node.actsFor
    rw [hrole]
    exact List.mem_map.2 ⟨c, hc, rfl⟩
  have hmem := (h.sound.node_of_mem_works (List.mem_of_getElem? hnode)).1
  obtain ⟨f, hf, hnodeOf⟩ := h.acts hmem hacts
  exact ⟨f, node.id, workAt?_of_works hnode, hf, hnodeOf⟩

/-- Each action leads the elements that it changes, and nobody else is led. -/
theorem Outline.leader?_eq_some_iff (h : Outline d es steps p) {f : NodeId} :
    p.leader? f = some l ↔ ∃ i s, steps[i]? = some s ∧ p.workAt? i = some l ∧
      ∃ c ∈ s.2.changes, p.nodeOf? c.element.id = some f := by
  constructor
  · intro hf
    obtain ⟨node, b, hnode, hb, hnodeOf⟩ := h.led hf
    have hmem : node ∈ p.works :=
      mem_works_iff.2 ⟨List.mem_of_getElem? hnode, element?_of_actsFor hb⟩
    obtain ⟨i, hi⟩ := List.mem_iff_getElem?.1 hmem
    -- the leader is the work of a step, whose role lists its changes
    obtain ⟨s, hs, -, hrole⟩ := h.part hi
    unfold Node.actsFor at hb
    rw [hrole] at hb
    obtain ⟨c, hc, rfl⟩ := List.mem_map.1 hb
    refine ⟨i, s, hs, ?_, c, hc, hnodeOf⟩
    rw [workAt?_of_works hi, h.sound.id_eq hnode]
  · rintro ⟨i, s, hs, hl, c, hc, hnodeOf⟩
    obtain ⟨f', l', hl', hf', hnodeOf'⟩ := h.adopted hs hc
    obtain rfl := Option.some.inj (hnodeOf.symm.trans hnodeOf')
    obtain rfl := Option.some.inj (hl.symm.trans hl')
    exact hf'

/-- An element is taken if an action so far changes it. -/
theorem Outline.taken_eq (h : Outline d es steps p) (e : ElementId) :
    p.taken p.nodes.length e = changedBy steps e := by
  unfold taken changedBy
  rw [Bool.eq_iff_iff, Option.any_eq_true, List.any_eq_true]
  constructor
  · rintro ⟨l, hl, -⟩
    obtain ⟨f, hf, hl⟩ := Option.bind_eq_some_iff.1 hl
    obtain ⟨i, s, hs, -, c, hc, hnodeOf⟩ := h.leader?_eq_some_iff.1 hl
    refine ⟨s, List.mem_of_getElem? hs, List.any_eq_true.2 ⟨c, hc, beq_iff_eq.2 ?_⟩⟩
    exact h.sound.indexed.eq_of_nodeOf? hnodeOf hf
  · rintro ⟨s, hs, hany⟩
    obtain ⟨c, hc, hid⟩ := List.any_eq_true.1 hany
    obtain rfl := beq_iff_eq.1 hid
    obtain ⟨i, hi⟩ := List.mem_iff_getElem?.1 hs
    obtain ⟨f, l, -, hf, hnodeOf⟩ := h.adopted hi hc
    have hlt := h.sound.target_lt (h.sound.edge_leader hf)
    exact ⟨l, by rw [hnodeOf]; exact hf, bne_iff_ne.2 (Nat.ne_of_lt hlt)⟩

/-! ## Elements -/

/-- The node of an action is read off the work alone. -/
theorem workAt?_congr (h : p'.works = p.works) (i : ℕ) : p'.workAt? i = p.workAt? i := by
  unfold workAt?
  rw [h]

/-- So is what follows what. -/
theorem chained_congr (h : p'.works = p.works) : p'.Chained steps = p.Chained steps := by
  unfold Chained
  simp only [workAt?_congr h]

/-- The empty plan is an outline of nothing. -/
theorem Outline.empty (d : Deployment) : Outline d [] [] (Plan.empty d.goal {}) where
  toSkeleton := Skeleton.empty d
  roster := rfl
  labelled := ⟨nofun, rfl⟩
  nextWork := rfl
  led := nofun
  drawn := (Drawn.empty d.goal {}).congr fun m n k => by simp [Chained]

/-- An element that is added comes last in the roster, unless it is there. -/
theorem Outline.addElement (h : Outline d es steps p) {e : Element} (he : e ∈ d.mentioned)
    (goal : Goal) : Outline d (es ++ [(e, goal)]) steps (p.addElement e goal).1 where
  toSkeleton := h.toSkeleton.addElement he goal
  roster := h.sound.roster_addElement h.roster e goal
  labelled := h.labelled.addElement e goal
  nextWork := by rw [nextWork_addElement, works_addElement, h.nextWork]
  led {f l} hf := by
    rw [leader?_addElement] at hf
    exact (grows_addElement p e goal).actsFor (h.led hf)
  drawn := by
    rw [chained_congr (works_addElement p e goal)]
    exact h.drawn.addElement e goal

/-- The same for a list of elements. -/
theorem Outline.addElements (h : Outline d es steps p) (goal : Goal) {xs : List Element}
    (hxs : ∀ e ∈ xs, e ∈ d.mentioned) :
    Outline d (es ++ xs.map (·, goal)) steps (Deployment.addElements goal xs p) := by
  unfold Deployment.addElements
  induction xs generalizing p es with
  | nil => simpa using h
  | cons e xs ih =>
    have hrest := ih (h.addElement (hxs e List.mem_cons_self) goal)
      fun e' he' => hxs e' (List.mem_cons_of_mem e he')
    rw [List.append_assoc] at hrest
    exact hrest

/-- Before any action the elements of the diff are there, and nothing else. -/
theorem outline_ground (d : Deployment) :
    Outline d (d.present.map (·, .deployed) ++ d.deleted.map (·, .destroyed)) [] (ground d) := by
  refine Outline.addElements ?_ .destroyed fun e he =>
    List.mem_append_left _ (List.mem_append_right _ he)
  exact (Outline.empty d).addElements .deployed fun e he =>
    List.mem_append_left _ (List.mem_append_left _ he)

/-! ## Actions -/

/-- A step that follows nothing asks for nothing. -/
theorem chained_concat (hlength : p.works.length = steps.length) {node : Node}
    (hworks : p'.works = p.works ++ [node]) :
    p'.Chained (steps ++ [(false, a)]) = p.Chained steps := by
  funext m n k
  refine propext (and_congr_right fun _ => exists_congr fun i => ?_)
  unfold workAt?
  rw [hworks]
  -- all places but the last one are as before, and the last step follows nothing
  by_cases hi : i + 1 < steps.length
  · rw [List.getElem?_append_left hi, List.getElem?_append_left (by omega),
      List.getElem?_append_left (by omega)]
  · have hold : steps[i + 1]? = none := List.getElem?_eq_none (by omega)
    rw [hold]
    by_cases heq : i + 1 = steps.length
    · rw [heq, List.getElem?_concat_length]
      simp
    · rw [List.getElem?_eq_none (by simp; omega)]
      simp

/-- To add an action is to add its work and to adopt its changes. -/
theorem tryAction_eq (p : Plan) (a : Action) : Deployment.addAction p a =
    match adopt p.nodes.length a.changes (p.addWork (workOf a) a.kind.goal).1 with
    | (q, none) => .ok (q, p.nodes.length)
    | (_, some f) => .error f := by
  have haction : p.addAction a =
      match adopt p.nodes.length a.changes (p.addWork (workOf a) a.kind.goal).1 with
      | (p', none) => (p', .ok p.nodes.length)
      | (p', some f) => (p', .error f) := rfl
  unfold Deployment.addAction
  rw [haction]
  cases adopt p.nodes.length a.changes (p.addWork (workOf a) a.kind.goal).1 with
  | mk q fault => cases fault <;> rfl

/-- Who leads whom after an action has been added. -/
theorem Outline.led_of_gathers (h : Outline d es steps p)
    (hq : Gathers d p.nodes.length a.changes (p.addWork (workOf a) a.kind.goal).1 q)
    {f : NodeId} (hf : q.leader? f = some l) : q.ActsFor l f := by
  rcases hq.newlyLed hf with hf | ⟨rfl, c, hc, hnodeOf⟩
  · exact ((grows_addWork p (workOf a) a.kind.goal).trans hq.grows).actsFor (h.led hf)
  · have hnode : (p.addWork (workOf a) a.kind.goal).1.nodes[p.nodes.length]? =
        some ⟨p.nodes.length, "W:" ++ toString p.nextWork, a.kind.goal, .work (workOf a)⟩ :=
      getElem?_concat.2 (.inr ⟨rfl, rfl⟩)
    obtain ⟨node', hnode', -, -, hsame⟩ := hq.grows.node hnode
    refine ⟨node', ⟨c.kind, c.element.id, c.detail⟩, hnode', ?_, hnodeOf⟩
    rw [hsame rfl]
    exact List.mem_map.2 ⟨c, hc, rfl⟩

/-- Adding an action meets the problems of its changes. -/
theorem Outline.addAction (h : Outline d es steps p) (ha : a ∈ d.allActions) :
    Meets (changeProblems steps a) (fun added =>
      Outline d (es ++ listedBy a) (steps ++ [(false, a)]) added.1 ∧
        ∃ node, added.1.works = p.works ++ [node] ∧ node.id = added.2)
      (Deployment.addAction p a) := by
  have hwork := h.toBare.addWork (workOf a) a.kind.goal
  have hisWork : (p.addWork (workOf a) a.kind.goal).1.IsWork p.nodes.length :=
    ⟨_, getElem?_concat.2 (.inr ⟨rfl, rfl⟩), rfl⟩
  have hchanges : ∀ c ∈ a.changes, c.element ∈ d.mentioned := fun c hc =>
    List.mem_append_right _ (List.mem_flatMap.2 ⟨a, ha, List.mem_map_of_mem hc⟩)
  have houtcome := adopt_outcome hwork hisWork hchanges
  -- an element is taken if and only if an earlier step changes it
  have htaken : ∀ e, (p.addWork (workOf a) a.kind.goal).1.taken p.nodes.length e =
      changedBy steps e := h.taken_eq
  have hadd := tryAction_eq p a
  have haction := fst_addAction p a
  simp only [htaken] at houtcome
  cases hadopt : adopt p.nodes.length a.changes (p.addWork (workOf a) a.kind.goal).1 with
  | mk q fault =>
    rw [hadopt] at houtcome hadd haction
    cases fault with
    | some f =>
      obtain ⟨c, hfind, rfl⟩ := houtcome
      rw [hadd]
      refine ⟨.changedAgain c.element.id, ?_, rfl⟩
      unfold changeProblems
      rw [List.head?_map, List.head?_filter, hfind]
      rfl
    | none =>
      obtain ⟨hfree, hgathers⟩ := houtcome
      obtain ⟨hskeleton, -, node, hworks, hid, -⟩ := h.toSkeleton.addAction ha hadd
      have hsnd : (steps ++ [(false, a)]).map (·.2) = steps.map (·.2) ++ [a] := List.map_append
      rw [hadd]
      refine ⟨?_, ⟨hsnd ▸ hskeleton, hgathers.roster ((roster_addWork ..).trans h.roster),
        hgathers.labelled (h.labelled.addWork _ _), ?_, h.led_of_gathers hgathers, ?_⟩, node,
        hworks, hid⟩
      · unfold changeProblems
        rw [List.map_eq_nil_iff, List.filter_eq_nil_iff]
        intro c hc
        rw [hfree c hc]
        exact Bool.false_ne_true
      · rw [hgathers.nextWork, hworks, List.length_append, ← h.nextWork]
        rfl
      · rw [chained_concat h.length_works hworks, ← haction]
        refine h.drawn.addAction ?_
        rw [haction]
        exact hskeleton.sound.flat

/-! ## Following -/

/-- A dependency is refused if a node that is to be there would depend on one that is to go. -/
theorem addDependency_outcome {m : NodeId} {nm nn : Node} (hm : p.nodes[m]? = some nm)
    (hn : p.nodes[n]? = some nn) (k : EdgeKind) :
    (nm.goal = .deployed ∧ nn.goal = .destroyed ∧
      p.addDependency m n k = .error (backwards nm.label nn.label)) ∨
    (¬ (nm.goal = .deployed ∧ nn.goal = .destroyed) ∧ ∃ q, p.addDependency m n k = .ok q) := by
  have hlabel : ∀ {i : NodeId} {node : Node}, p.nodes[i]? = some node → p.label i = node.label := by
    intro i node hi
    unfold label
    rw [hi]
    rfl
  unfold Plan.addDependency direction
  rw [node_eq_ok_iff.2 hm, node_eq_ok_iff.2 hn, hlabel hm, hlabel hn]
  cases hgm : nm.goal <;> cases hgn : nn.goal <;>
    simp [bind, Except.bind, pure, Except.pure, throw, throwThe, MonadExceptOf.throw, hgm, hgn,
      backwards]

/-- A step that follows another one asks for one dependency more. -/
theorem chained_follow {ws : List Node} {u v : Node} (hworks : p.works = ws ++ [u] ++ [v])
    (hlength : ws.length + 1 = steps.length) (m n : NodeId) (k : EdgeKind) :
    p.Chained (steps ++ [(true, a)]) m n k ↔
      (p.Chained (steps ++ [(false, a)])).and v.id u.id .hard m n k := by
  have hlast : p.workAt? steps.length = some v.id := by
    unfold workAt?
    rw [hworks, List.getElem?_append_right (by simp; omega)]
    simp [hlength]
  have hsecond : p.workAt? ws.length = some u.id := by
    unfold workAt?
    rw [hworks]
    simp
  constructor
  · rintro ⟨rfl, i, hfollows, hm, hn⟩
    by_cases hi : i + 1 < steps.length
    · rw [List.getElem?_append_left hi] at hfollows
      exact .inl ⟨rfl, i, by rw [List.getElem?_append_left hi]; exact hfollows, hm, hn⟩
    · have heq : i + 1 = steps.length := by
        by_contra hne
        rw [List.getElem?_eq_none (by simp; omega)] at hfollows
        cases hfollows
      have hi' : i = ws.length := by omega
      rw [heq, hlast] at hm
      rw [hi', hsecond] at hn
      exact .inr ⟨(Option.some.inj hm).symm, (Option.some.inj hn).symm, rfl⟩
  · rintro (⟨rfl, i, hfollows, hm, hn⟩ | ⟨rfl, rfl, rfl⟩)
    · have hi : i + 1 < steps.length := by
        by_contra hnot
        rw [List.getElem?_append_right (by omega)] at hfollows
        cases hsub : i + 1 - steps.length with
        | zero => rw [hsub] at hfollows; simp at hfollows
        | succ j => rw [hsub] at hfollows; simp at hfollows
      rw [List.getElem?_append_left hi] at hfollows
      exact ⟨rfl, i, by rw [List.getElem?_append_left hi]; exact hfollows, hm, hn⟩
    · refine ⟨rfl, ws.length, ?_, ?_, hsecond⟩
      · rw [hlength, List.getElem?_concat_length]
        rfl
      · rw [hlength]
        exact hlast

/-- Work is labelled with its number. -/
theorem Outline.label_of_work (h : Outline d es steps p) {i : ℕ} {node : Node}
    (hnode : p.works[i]? = some node) : node.label = "W:" ++ toString i := by
  have hi := (List.getElem?_eq_some_iff.1 hnode).1
  have hlabel : (p.works.map (·.label))[i]? =
      ((List.range p.nextWork).map fun i => "W:" ++ toString i)[i]? := by rw [h.labelled.work]
  rw [List.getElem?_map, hnode, List.getElem?_map, List.getElem?_range (h.nextWork ▸ hi)] at hlabel
  exact Option.some.inj hlabel

/-- What a dependency between two pieces of work leaves of an outline. -/
theorem Outline.addDependency (h : Outline d es (steps ++ [(false, a)]) p) {ws : List Node}
    {u v : Node} (hworks : p.works = ws ++ [u] ++ [v])
    (hadd : p.addDependency v.id u.id .hard = .ok q) :
    Outline d es (steps ++ [(true, a)]) q ∧ q.works = p.works := by
  have hlength : ws.length + 1 = steps.length := by
    have := h.length_works
    rw [hworks] at this
    simpa using this
  have hmem : ∀ {w : Node}, w ∈ [u, v] → w ∈ p.works := fun {w} hw => by
    rw [hworks, List.append_assoc]
    exact List.mem_append_right ws hw
  obtain ⟨hu, huwork⟩ := h.sound.node_of_mem_works (hmem (w := u) (by simp))
  obtain ⟨hv, hvwork⟩ := h.sound.node_of_mem_works (hmem (w := v) (by simp))
  obtain ⟨hskeleton, -, hsame, -⟩ := h.toSkeleton.addDependency hu hv huwork hvwork hadd
  have hdrawn := h.drawn.addDependency (lt_of_node hv) (lt_of_node hu) .hard
  rw [hadd] at hdrawn
  have heq := addDependency_eq hadd
  -- whether the last step follows is the one thing that the dependency settles
  have hactions : (steps ++ [(false, a)]).map (·.2) = (steps ++ [(true, a)]).map (·.2) := by simp
  refine ⟨⟨hactions ▸ hskeleton, ?_, ?_, ?_, ?_, ?_⟩, hsame⟩
  · rw [heq]
    exact h.roster
  · rw [heq]
    exact h.labelled.of_alike ⟨rfl, rfl, rfl⟩
  · rw [heq]
    exact h.nextWork
  · rw [heq]
    exact h.led
  · rw [chained_congr hsame]
    exact hdrawn.congr fun m n k => chained_follow hworks hlength m n k

/-- Nothing precedes the first step. -/
theorem chained_first (p : Plan) (follows : Bool) (a : Action) :
    p.Chained [(follows, a)] = p.Chained [(false, a)] := by
  unfold Chained
  simp

/-- The last two pieces of work are those of the last two steps. -/
theorem Outline.lastTwo (h : Outline d es (steps ++ [(false, a)]) p) {ws : List Node} {u v : Node}
    (hworks : p.works = ws ++ [u] ++ [v]) : steps.length = ws.length + 1 ∧
      p.works[steps.length - 1]? = some u ∧ p.works[steps.length]? = some v := by
  have hlength := h.length_works
  rw [hworks] at hlength
  simp only [List.length_append, List.length_singleton, Nat.add_right_cancel_iff] at hlength
  refine ⟨hlength.symm, ?_, ?_⟩
  · rw [hworks, ← hlength]
    simp
  · rw [hworks, ← hlength]
    simp

/-- A series turns back at its last step if the last two pieces of work have those goals. -/
theorem Outline.turnsBack_iff (h : Outline d es (steps ++ [(false, a)]) p) {ws : List Node}
    {u v : Node} (hworks : p.works = ws ++ [u] ++ [v]) :
    TurnsBack steps (true, a) ↔ v.goal = .deployed ∧ u.goal = .destroyed := by
  obtain ⟨hlength, hui, hvi⟩ := h.lastTwo hworks
  obtain ⟨s, hs, hugoal, -⟩ := h.part hui
  obtain ⟨s', hs', hvgoal, -⟩ := h.part hvi
  rw [List.getElem?_append_left (by omega), ← List.getLast?_eq_getElem?] at hs
  rw [List.getElem?_concat_length] at hs'
  obtain rfl := Option.some.inj hs'
  unfold TurnsBack
  rw [hs, hugoal, hvgoal]
  simp [and_comm]

/-- Putting the node of an action behind the one before it meets the problem of the two goals. -/
theorem Outline.follow (h : Outline d es (steps ++ [(false, a)]) p) {ws : List Node} {v : Node}
    (hworks : p.works = ws ++ [v]) (follows : Bool) :
    Meets (if TurnsBack steps (follows, a) then [.turnsBack (steps.length - 1)] else [])
      (fun q => Outline d es (steps ++ [(follows, a)]) q ∧ q.works = p.works)
      (Deployment.follow (ws.getLast?.map (·.id)) follows (p, v.id)) := by
  cases follows with
  | false =>
    have hfine : ¬ TurnsBack steps (false, a) := fun hbad => Bool.false_ne_true hbad.1
    rw [if_neg hfine]
    cases hlast : ws.getLast? with
    | none => exact ⟨rfl, h, rfl⟩
    | some u => exact ⟨rfl, h, rfl⟩
  | true =>
    rcases List.eq_nil_or_concat ws with rfl | ⟨ws, u, rfl⟩
    · -- the first step has nothing to follow
      have hlength := h.length_works
      rw [hworks] at hlength
      obtain rfl : steps = [] := by simpa using hlength
      have hfine : ¬ TurnsBack [] (true, a) := fun hbad => by simpa using hbad.2.1
      rw [if_neg hfine]
      refine ⟨rfl, { h with drawn := ?_ }, rfl⟩
      rw [List.nil_append, chained_first]
      exact h.drawn
    · rw [List.concat_eq_append] at hworks ⊢
      obtain ⟨hlength, hui, hvi⟩ := h.lastTwo hworks
      have hmem : ∀ {i : ℕ} {w : Node}, p.works[i]? = some w → p.nodes[w.id]? = some w :=
        fun hw => (h.sound.node_of_mem_works (List.mem_of_getElem? hw)).1
      have hfollow : Deployment.follow ((ws ++ [u]).getLast?.map (·.id)) true (p, v.id) =
          p.addDependency v.id u.id .hard := by
        rw [List.getLast?_concat]
        rfl
      rw [hfollow]
      rcases addDependency_outcome (hmem hvi) (hmem hui) .hard with
        ⟨hv, hu, herror⟩ | ⟨hfine, q, hok⟩
      · rw [herror, if_pos ((h.turnsBack_iff hworks).2 ⟨hv, hu⟩)]
        refine ⟨_, rfl, ?_⟩
        rw [h.label_of_work hui, h.label_of_work hvi, Problem.fault,
          Nat.sub_add_cancel (by omega)]
      · rw [hok, if_neg fun hbad => hfine ((h.turnsBack_iff hworks).1 hbad)]
        exact ⟨rfl, h.addDependency hworks hok⟩

/-! ## Steps -/

/-- A step meets its problems. -/
theorem Outline.addStep (h : Outline d es steps p) {s : Bool × Action} (hs : s.2 ∈ d.allActions) :
    Meets (stepProblems steps s)
      (fun state => Outline d (es ++ listedBy s.2) (steps ++ [s]) state.1 ∧
        state.2 = state.1.works.getLast?.map (·.id))
      (Deployment.addStep (p, p.works.getLast?.map (·.id)) s) := by
  refine (h.addAction hs).bind fun added hadded => ?_
  obtain ⟨houtline, node, hworks, hid⟩ := hadded
  have hfollow := houtline.follow hworks s.1
  rw [hid] at hfollow
  refine hfollow.map fun q hq => ⟨hq.1, ?_⟩
  rw [hq.2, hworks, List.getLast?_concat, ← hid]
  rfl

/-- Steps meet their problems one after the other. -/
theorem Outline.addSteps (h : Outline d es steps p) {more : List (Bool × Action)}
    (hmore : ∀ s ∈ more, s.2 ∈ d.allActions) :
    Meets (stepsProblems steps more)
      (fun state => Outline d (es ++ more.flatMap fun s => listedBy s.2) (steps ++ more) state.1)
      (more.foldlM Deployment.addStep (p, p.works.getLast?.map (·.id))) := by
  induction more generalizing es steps p with
  | nil =>
    refine ⟨rfl, ?_⟩
    rw [List.flatMap_nil, List.append_nil, List.append_nil]
    exact h
  | cons s more ih =>
    rw [List.foldlM_cons]
    refine (h.addStep (hmore s List.mem_cons_self)).bind fun state hstate => ?_
    obtain ⟨houtline, hlast⟩ := hstate
    obtain ⟨q, before⟩ := state
    obtain rfl : before = q.works.getLast?.map (·.id) := hlast
    have hrest := ih houtline fun s' hs' => hmore s' (List.mem_cons_of_mem s hs')
    rw [List.append_assoc, List.append_assoc] at hrest
    exact hrest

/-- The diff is refused for the first element that is both kept and deleted. -/
theorem ensureConsistent_meets (d : Deployment) :
    Meets d.contradictions (fun _ => True) d.ensureConsistent := by
  unfold Deployment.ensureConsistent
  have hhead : (d.deleted.filter fun e => d.present.any (·.id == e.id)).head? =
      d.deleted.find? fun e => d.present.any (·.id == e.id) := List.head?_filter ..
  cases hfind : d.deleted.find? fun e => d.present.any (·.id == e.id) with
  | none =>
    rw [hfind, List.head?_eq_none_iff] at hhead
    exact ⟨by unfold Deployment.contradictions; rw [hhead]; rfl, trivial⟩
  | some e =>
    refine ⟨.bothWays e.id, ?_, rfl⟩
    unfold Deployment.contradictions
    rw [List.head?_map, hhead, hfind]
    rfl

/-- The plan before its criteria are resolved meets the problems of its elements and its steps. -/
theorem skeleton_meets (d : Deployment) :
    Meets (d.contradictions ++ stepsProblems [] d.steps) (Outline d d.listed d.steps)
      d.skeleton := by
  rw [Deployment.skeleton_eq]
  refine (ensureConsistent_meets d).bind fun _ _ => Meets.map ?_ fun _ h => h
  have hsteps : ∀ s ∈ d.steps, s.2 ∈ d.allActions := fun s hs => by
    rw [← Deployment.map_snd_steps]
    exact List.mem_map_of_mem hs
  have hground := outline_ground d
  -- the ground has no work that the first step could follow
  have hnone : (ground d).works.getLast?.map (·.id) = none := by
    rw [List.length_eq_zero_iff.1 hground.length_works]
    rfl
  have hall := hground.addSteps hsteps
  rw [hnone] at hall
  refine hall.mono fun state hstate => ?_
  have hlisted : d.steps.flatMap (fun s => listedBy s.2) = d.allActions.flatMap listedBy := by
    rw [← Deployment.map_snd_steps, List.flatMap_map]
  rw [hlisted, List.nil_append] at hstate
  exact hstate

end Plan

end Rollout
