import Rollout.Program
import Rollout.Proofs.Plan.Account
import Rollout.Proofs.PlanFile.Listing
import Rollout.Proofs.PlanFile.Reading
import Rollout.Proofs.Relation.Readiness

/-!
# A plan file that is accepted becomes its plan

A plan file that validation accepts has a deployment, and the plan of this deployment can only fail
over actions that change the same element, or over goals that do not go together.  If there is a
plan, it has one node for every section of an element, and one for every section of an action, in
the order in which the actions are scheduled (`plan_of_validate`).  So nothing else can go wrong
with the plan of a file that has been loaded, but for cycles (`fault_of_load`).
-/

namespace Rollout

/-- A sequence fails if and only if its first part does, or the rest of it on what the first part
has returned. -/
theorem bind_eq_error {ε α β : Type} {x : Except ε α} {f : α → Except ε β} {e : ε} :
    (x >>= f) = .error e ↔ x = .error e ∨ ∃ a, x = .ok a ∧ f a = .error e := by
  cases x with
  | error e' =>
    constructor
    · exact fun h => .inl (congrArg Except.error (Except.error.inj h))
    · rintro (h | ⟨_, h, -⟩)
      · exact congrArg Except.error (Except.error.inj h)
      · cases h
  | ok a =>
    constructor
    · exact fun h => .inr ⟨a, rfl, h⟩
    · rintro (h | ⟨_, ha, h⟩)
      · cases h
      · exact Except.ok.inj ha ▸ h

namespace PlanFile

variable {d : Draft} {f : PlanFile} {dep : Deployment} {p : Plan} {es : List (Fate × Element)}
  {judge : Pattern.Judge}

/-! ## What can still be wrong -/

/-- The relation of an element that comes from a section is the list of what it depends on. -/
theorem relation_of_elementOf {place : ℕ} {id : String} {s : ElementSection} {el : Element}
    (h : elementOf judge place id s = .ok el) {goal : Goal} {r : Relation}
    (hr : el.relation goal = some r) : r = Relation.dependsOn id s.dependsOn := by
  rw [elementOf_eq h] at hr
  simp only at hr
  split at hr
  · cases hr
  · exact (Option.some.inj hr).symm

/-- No element of a file is both kept and deleted, since a section has one fate. -/
theorem Lists.not_bothWays (h : f.Lists judge es dep) (hnames : (f.elements.map (·.1)).Nodup)
    (e : ElementId) : ¬ dep.BothWays e := by
  rintro ⟨⟨el, hel, rfl⟩, el', hel', hid⟩
  obtain ⟨fate, hgoal, hes⟩ := h.mem_present_iff.1 hel
  obtain ⟨rfl, -⟩ := h.eq_of_id hnames hes (h.mem_deleted_iff.1 hel') hid.symm
  cases hgoal

/-- No relation of a valid file names what is not there. -/
theorem Lists.not_namesUnknown (h : f.Lists judge es dep) (hvalid : f.Valid judge) (e : Element)
    (r : Relation) (x : ElementId) : ¬ dep.NamesUnknown e r x := by
  rintro ⟨⟨goal, hfind, -, hr, hx⟩, hunknown⟩
  obtain ⟨fate, hes⟩ := h.of_mentioned (List.mem_of_find?_eq_some hfind)
  obtain ⟨place, s, hs, -, hmade⟩ := section_of_placed h.placed hes
  rw [relation_of_elementOf hmade hr, Relation.mem_handles_dependsOn] at hx
  obtain ⟨el, hel, hid⟩ :=
    h.exists_mentioned (hvalid.depends _ (List.mem_of_getElem? hs) x hx)
  exact hunknown el hel hid

/-- What can be wrong with a deployment whose names all stand for something: two actions change the
same element, or goals do not go together, in a series or in a relation. -/
def Clash (dep : Deployment) (fault : Fault) : Prop :=
  (∃ e, fault = .duplicateAction e ∧ dep.ChangedTwice e) ∨
    ∃ goals, fault = .invalidGoalPair goals ∧
      ((∃ i, dep.TurnsBackAt i) ∨ ∃ e x, dep.HoldsOnTo e x)

/-- The plan fails only over actions that change the same element, and over goals that do not go
together. -/
theorem Lists.clash_of_plan (h : f.Lists judge es dep) (hvalid : f.Valid judge)
    (hnames : (f.elements.map (·.1)).Nodup) {fault : Fault} (hplan : dep.plan = .error fault) :
    Clash dep fault := by
  have hmeets := Plan.plan_meets dep
  rw [hplan] at hmeets
  obtain ⟨problem, hhead, rfl⟩ := hmeets
  have hholds := Deployment.mem_problems_iff.1 (List.mem_of_mem_head? hhead)
  cases problem with
  | bothWays e => exact absurd hholds (h.not_bothWays hnames e)
  | changedAgain e => exact .inl ⟨e, rfl, hholds⟩
  | turnsBack i => exact .inr ⟨_, rfl, .inl ⟨i, hholds⟩⟩
  | unknown e r x => exact absurd hholds (h.not_namesUnknown hvalid e r x)
  | doomed e x => exact .inr ⟨_, rfl, .inr ⟨e, x, hholds⟩⟩

/-! ## The plan -/

/-- The work that the section of an action at a place asks for. -/
def workOfSection (place : ℕ) (name : String) (s : ActionSection) : Work where
  description := s.detail.getD name
  body := some place
  actsFor := s.changes.map fun e => ⟨s.kind, e, s.detail.getD name⟩
  announced := true

/-- The node is that of the action with a name, and has a number. -/
def Numbered (f : PlanFile) (i : ℕ) (name : String) (node : Node) : Prop :=
  ∃ place s, f.actions[place]? = some (name, s) ∧ node.label = "W:" ++ toString i ∧
    node.goal = s.kind.goal ∧ node.role = .work (workOfSection place name s)

/-- The plan has the nodes that the plan file describes, and no others. -/
structure Describes (f : PlanFile) (judge : Pattern.Judge) (p : Plan) : Prop where
  /-- Every section of an element has one node. -/
  element : ∀ {id : String} {s : ElementSection}, (id, s) ∈ f.elements →
    ∃! n : NodeId, ∃ (node : Node) (el : Element), p.nodes[n]? = some node ∧
      node.element? = some el ∧ el.id = id
  /-- The node of an element is that of a section, and is to be destroyed if the section says that
  the element is deleted. -/
  node : ∀ {n : NodeId} {node : Node} {el : Element}, p.nodes[n]? = some node →
    node.element? = some el → ∃ place s, f.elements[place]? = some (el.id, s) ∧
      elementOf judge place el.id s = .ok el ∧ (node.goal = .destroyed ↔ s.fate = .deleted)
  /-- Every section of an action has one node. -/
  action : ∀ {place : ℕ} {a : String × ActionSection}, f.actions[place]? = some a →
    ∃! n : NodeId, ∃ (node : Node) (w : Work), p.nodes[n]? = some node ∧ node.role = .work w ∧
      w.body = some place
  /-- There are as many nodes of actions as there are actions on schedule. -/
  length_works : p.works.length = f.schedule.length
  /-- The nodes of actions are numbered in the order of the schedule. -/
  work : ∀ {i : ℕ} {name : String}, f.schedule[i]? = some name →
    ∃ node, p.works[i]? = some node ∧ f.Numbered i name node

/-- The work of an action that comes from a section is that of the section. -/
theorem workOf_of_actionOf {name : String} {a : Action} (h : f.actionOf es name = .ok a) :
    ∃ place s, f.actions[place]? = some (name, s) ∧ a.kind = s.kind ∧
      Plan.workOf a = workOfSection place name s := by
  obtain ⟨place, s, changes, hs, hchanges, rfl⟩ := section_of_actionOf h
  refine ⟨place, s, hs, rfl, ?_⟩
  have hactsFor : (changes.map fun c => (⟨c.kind, c.element.id, c.detail⟩ : ActingFor)) =
      s.changes.map fun e => ⟨s.kind, e, s.detail.getD name⟩ := by
    refine map_of_mapM hchanges fun x c hc => ?_
    obtain ⟨e, he, rfl⟩ := changeOf_eq_ok_iff.1 hc
    have hid : e.2.id = x := by simpa using List.find?_some he
    rw [hid]
  unfold Plan.workOf workOfSection
  rw [hactsFor]

theorem Valid.schedule_nodup (h : f.Valid judge) (hnames : (f.actions.map (·.1)).Nodup) :
    f.schedule.Nodup := by
  refine List.nodup_append.2 ⟨hnames.filter _, h.once, ?_⟩
  rintro name hname _ hseries rfl
  have hnot := (List.mem_filter.1 hname).2
  rw [List.contains_iff_mem.2 hseries] at hnot
  cases hnot

/-- Every action is on schedule, and nothing else. -/
theorem Valid.schedule_perm (h : f.Valid judge) (hnames : (f.actions.map (·.1)).Nodup) :
    f.schedule.Perm (f.actions.map (·.1)) := by
  refine (List.perm_ext_iff_of_nodup (h.schedule_nodup hnames) hnames).2 fun name => ?_
  unfold schedule
  rw [List.mem_append]
  constructor
  · rintro (halone | hseries)
    · exact mem_alone halone
    · exact h.series name hseries
  · intro hname
    by_cases hseries : name ∈ f.series.flatten
    · exact .inr hseries
    · exact .inl (List.mem_filter.2 ⟨hname, by simpa using hseries⟩)

/-- The nodes of elements are those of the sections. -/
theorem Lists.node_of_plan (h : f.Lists judge es dep) (hnames : (f.elements.map (·.1)).Nodup)
    (hplan : dep.plan = .ok p) {n : NodeId} {node : Node} {el : Element}
    (hnode : p.nodes[n]? = some node) (hel : node.element? = some el) :
    ∃ place s, f.elements[place]? = some (el.id, s) ∧ elementOf judge place el.id s = .ok el ∧
      (node.goal = .destroyed ↔ s.fate = .deleted) := by
  obtain ⟨hfind, hgoal⟩ := Plan.first_of_node hplan hnode hel
  obtain ⟨fate, hes⟩ := h.of_mentioned (List.mem_of_find?_eq_some hfind)
  obtain ⟨place, s, hs, rfl, hmade⟩ := section_of_placed h.placed hes
  rw [h.goalOf?_eq hnames hes] at hgoal
  refine ⟨place, s, hs, hmade, ?_⟩
  rw [← Option.some.inj hgoal]
  cases s.fate with
  | added => exact iff_of_false nofun nofun
  | common => exact iff_of_false nofun nofun
  | deleted => exact iff_of_true rfl rfl

/-- The nodes of actions are those on schedule. -/
theorem Lists.work_of_plan (h : f.Lists judge es dep) (hplan : dep.plan = .ok p) {i : ℕ}
    {node : Node} (hnode : p.works[i]? = some node) :
    ∃ name, f.schedule[i]? = some name ∧ f.Numbered i name node := by
  have hshown := congrArg (·[i]?) (Plan.works_of_plan hplan)
  simp only [List.getElem?_map, List.getElem?_mapIdx, hnode, Option.map_some] at hshown
  obtain ⟨a, ha, hsame⟩ := Option.map_eq_some_iff.1 hshown.symm
  obtain ⟨name, hname, haction⟩ := getElem?_of_forall₂ h.actions ha
  obtain ⟨place, s, hs, hkind, hwork⟩ := workOf_of_actionOf haction
  simp only [Prod.mk.injEq] at hsame
  obtain ⟨hlabel, hgoal, hrole⟩ := hsame
  exact ⟨name, hname, place, s, hs, hlabel.symm, by rw [← hgoal, hkind], by rw [← hrole, hwork]⟩

theorem Lists.length_works (h : f.Lists judge es dep) (hplan : dep.plan = .ok p) :
    p.works.length = f.schedule.length := by
  have hshown := congrArg List.length (Plan.works_of_plan hplan)
  rw [List.length_map, List.length_mapIdx] at hshown
  rw [hshown, h.actions.length_eq]

/-- An action on schedule has its node in the plan. -/
theorem Lists.work_of_schedule (h : f.Lists judge es dep) (hplan : dep.plan = .ok p) {i : ℕ}
    {name : String} (hname : f.schedule[i]? = some name) :
    ∃ node, p.works[i]? = some node ∧ f.Numbered i name node := by
  have hi : i < p.works.length := by
    rw [h.length_works hplan]
    exact (List.getElem?_eq_some_iff.1 hname).1
  obtain ⟨name', hname', hnode⟩ := h.work_of_plan hplan (List.getElem?_eq_getElem hi)
  obtain rfl := Option.some.inj (hname.symm.trans hname')
  exact ⟨_, List.getElem?_eq_getElem hi, hnode⟩

/-- The section of an action has one node. -/
theorem Lists.existsUnique_work (h : f.Lists judge es dep) (hvalid : f.Valid judge)
    (hnames : (f.actions.map (·.1)).Nodup) (hplan : dep.plan = .ok p) {place : ℕ}
    {a : String × ActionSection} (ha : f.actions[place]? = some a) :
    ∃! n : NodeId, ∃ (node : Node) (w : Work), p.nodes[n]? = some node ∧ node.role = .work w ∧
      w.body = some place := by
  have hsound := (Plan.settling_of_plan hplan).sound
  obtain ⟨i, hi⟩ := List.mem_iff_getElem?.1
    ((hvalid.schedule_perm hnames).mem_iff.2 (List.mem_map.2 ⟨a, List.mem_of_getElem? ha, rfl⟩))
  obtain ⟨node, hnode, place', s, hs, -, -, hrole⟩ := h.work_of_schedule hplan hi
  obtain rfl : place = place' := by
    refine (List.getElem?_inj ?_ hnames).1 ?_
    · rw [List.length_map]
      exact (List.getElem?_eq_some_iff.1 ha).1
    · rw [List.getElem?_map, List.getElem?_map, ha, hs]
      rfl
  obtain ⟨hmem, -⟩ := hsound.node_of_mem_works (List.mem_of_getElem? hnode)
  refine ⟨node.id, ⟨node, _, hmem, hrole, rfl⟩, ?_⟩
  rintro m ⟨node', w, hnode', hrole', hbody⟩
  have hwork : node'.element? = none := by
    unfold Node.element?
    rw [hrole']
  have hmem' : node' ∈ p.works := Plan.mem_works_iff.2 ⟨List.mem_of_getElem? hnode', hwork⟩
  obtain ⟨j, hj⟩ := List.mem_iff_getElem?.1 hmem'
  -- Another node with the same body is that of the same name, which is on schedule once.
  obtain ⟨name, hname, place', s', hs', -, -, hrole''⟩ := h.work_of_plan hplan hj
  obtain rfl : w = workOfSection place' name s' := Node.Role.work.inj (hrole'.symm.trans hrole'')
  obtain rfl : place' = place := Option.some.inj hbody
  obtain rfl : (name, s') = a := Option.some.inj (hs'.symm.trans ha)
  obtain rfl : i = j := by
    have hlt := (List.getElem?_eq_some_iff.1 hi).1
    refine (List.getElem?_inj hlt (hvalid.schedule_nodup hnames)).1 ?_
    rw [hi, hname]
  obtain rfl := Option.some.inj (hnode.symm.trans hj)
  exact (hsound.id_eq hnode').symm

/-- The plan of a valid plan file has the nodes that the plan file describes. -/
theorem describes_of_plan (hvalid : f.Valid judge) (helements : (f.elements.map (·.1)).Nodup)
    (hactions : (f.actions.map (·.1)).Nodup) (hdep : f.deployment judge = .ok dep)
    (hplan : dep.plan = .ok p) : f.Describes judge p := by
  obtain ⟨es, h⟩ := lists_of_deployment hdep
  have hsound := (Plan.settling_of_plan hplan).sound
  refine ⟨fun {id s} hs => ?_, h.node_of_plan helements hplan,
    h.existsUnique_work hvalid hactions hplan, h.length_works hplan, h.work_of_schedule hplan⟩
  have hgoal : Deployment.plan { dep with goal := dep.goal } = .ok p := hplan
  obtain ⟨n, -, hn, -⟩ := gives_of_deployment hdep hgoal hs
  refine ⟨n, hsound.nodeOf?_eq_some_iff.1 hn, fun m hm => ?_⟩
  exact Option.some.inj ((hsound.nodeOf?_eq_some_iff.2 hm).symm.trans hn)

/-- A plan file that validation accepts becomes the plan that it describes, whatever counts as a
pattern.  It has a deployment, and building the plan can only fail over two actions that change the
same element, or over goals that do not go together.  If there is a plan, each section of an element
has one node in it, which is to be destroyed if the section says that the element is deleted, and
each section of an action has one node as well; these are numbered as the actions are scheduled,
those that no series names in the order of their names, and then the series.  There are no other
nodes. -/
theorem plan_of_validate (hd : d.Ordered) (h : d.validate judge = .ok f) :
    (f.elements = d.elements ∧ f.actions = d.actions ∧ f.series = d.series) ∧
    f.alone.Pairwise (· < ·) ∧ f.schedule.Perm (f.actions.map (·.1)) ∧
    ∃ dep, f.deployment judge = .ok dep ∧
      (∀ fault, dep.plan = .error fault → Clash dep fault) ∧
      ∀ p, dep.plan = .ok p → f.Describes judge p := by
  obtain ⟨hsame, hvalid⟩ := valid_of_validate h
  have helements : (f.elements.map (·.1)).Nodup := by
    rw [hsame.1]
    exact hd.elements.nodup
  have hactions : (f.actions.map (·.1)).Pairwise (· < ·) := by
    rw [hsame.2.1]
    exact hd.actions
  have hnames : (f.actions.map (·.1)).Nodup := hactions.nodup
  obtain ⟨dep, hdep⟩ := exists_deployment hvalid
  obtain ⟨es, hlists⟩ := lists_of_deployment hdep
  exact ⟨hsame, hactions.filter _, hvalid.schedule_perm hnames, dep, hdep,
    fun _ hfault => hlists.clash_of_plan hvalid helements hfault,
    fun _ hplan => describes_of_plan hvalid helements hnames hdep hplan⟩

/-- One element is installed on another one, and checked; a third one goes. -/
def renewal : Draft where
  series := [["install", "check"]]
  elements := [
    ("app", { dependsOn := ["base"], readyCommand := some "status", readyPattern := some "^up$" }),
    ("base", { fate := .common }), ("old", { fate := .deleted })]
  actions := [("check", { command := "run-checks", kind := .none }),
    ("drop", { command := "drop-old", kind := .delete, changes := ["old"] }),
    ("install", { command := "install-app", kind := .create, changes := ["app"] })]

/-- The series comes last, although the check has the first name. -/
theorem renewal_is_described : renewal.Ordered ∧ ∃ f dep p, renewal.validate = .ok f ∧
    f.schedule = ["drop", "install", "check"] ∧ f.deployment = .ok dep ∧ dep.plan = .ok p ∧
    f.Describes Pattern.judge p ∧ p.works.map (·.goal) = [.destroyed, .deployed, .deployed] := by
  have hordered : renewal.Ordered := ⟨by decide, by decide⟩
  obtain ⟨f, hf⟩ : ∃ f, renewal.validate = .ok f := ⟨_, rfl⟩
  obtain ⟨-, -, -, dep, hdep, -, hdescribes⟩ := plan_of_validate hordered hf
  obtain rfl := Except.ok.inj hf
  obtain rfl := Except.ok.inj hdep
  exact ⟨hordered, _, _, _, rfl, rfl, rfl, rfl, hdescribes _ rfl, rfl⟩

/-! ## Files -/

/-- What is loaded lists elements and actions in the order of their names. -/
theorem ordered_of_load {directory : Shell.Directory} {path : String}
    (h : Draft.load directory path = .ok d) : d.Ordered := by
  obtain ⟨bytes, -, h⟩ := bind_eq_ok.1 h
  unfold Draft.ofBytes at h
  split at h
  · exact ordered_of_text h
  · cases h

/-- A plan is refused for its cycles only. -/
theorem cycle_of_check {fault : Fault} (h : p.check = .error fault) :
    ∃ cycles, fault = .cycle cycles := by
  unfold Plan.check at h
  split at h
  · cases h
  · exact ⟨_, (Except.error.inj h).symm⟩

/-- Once a plan file has been loaded, whatever the goal is, its plan fails only over actions that
change the same element, over goals that do not go together, and over cycles. -/
theorem fault_of_load {directory : Shell.Directory} {path : String}
    (h : PlanFile.load directory path judge = .ok f) {goal : Goal} {fault : Fault}
    (hfault : f.plan goal judge = .error fault) :
    (∃ e, fault = .duplicateAction e) ∨ (∃ goals, fault = .invalidGoalPair goals) ∨
      ∃ cycles, fault = .cycle cycles := by
  obtain ⟨d, hd, h⟩ := bind_eq_ok.1 h
  obtain ⟨hsame, hvalid⟩ := valid_of_validate h
  have hnames : (f.elements.map (·.1)).Nodup := by
    rw [hsame.1]
    exact (ordered_of_load hd).elements.nodup
  obtain ⟨dep, hdep⟩ := exists_deployment hvalid
  obtain ⟨es, hlists⟩ := lists_of_deployment hdep
  have hlists : f.Lists judge es { dep with goal } :=
    ⟨hlists.placed, hlists.mem_present_iff, hlists.mem_deleted_iff, hlists.actions⟩
  -- the deployment is there for a valid file, so the fault comes from the plan or from its check
  rcases bind_eq_error.1 hfault with hfail | ⟨dep', hdep', hfault⟩
  · rw [hdep] at hfail
    cases hfail
  obtain rfl := Except.ok.inj (hdep.symm.trans hdep')
  rcases bind_eq_error.1 hfault with hplan | ⟨p, -, hfault⟩
  · rcases hlists.clash_of_plan hvalid hnames hplan with ⟨e, rfl, -⟩ | ⟨goals, rfl, -⟩
    · exact .inl ⟨e, rfl⟩
    · exact .inr (.inl ⟨goals, rfl⟩)
  · rcases bind_eq_error.1 hfault with hcheck | ⟨_, -, hdone⟩
    · exact .inr (.inr (cycle_of_check hcheck))
    · cases hdone

end PlanFile

end Rollout
