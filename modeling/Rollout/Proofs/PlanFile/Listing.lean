import Rollout.Proofs.Plan.Problems
import Rollout.Proofs.PlanFile.Elements

/-!
# What a valid plan file lists

Validation and the deployment each look at the names in a plan file, one after the other.  They
agree: a plan file that validation accepts is `Valid`, and a valid one has a deployment
(`exists_deployment`).  The deployment `Lists` what the sections make: the elements by what is to
happen to them, and the actions as they are scheduled.
-/

namespace Rollout

/-- A traversal for its effects succeeds if every step does. -/
theorem forM_eq_ok_iff {ε α : Type} {f : α → Except ε Unit} {xs : List α} :
    xs.forM f = .ok () ↔ ∀ x ∈ xs, f x = .ok () := by
  induction xs with
  | nil => exact ⟨fun _ => nofun, fun _ => rfl⟩
  | cons x xs ih =>
    rw [List.forall_mem_cons, ← ih]
    show (f x >>= fun _ => xs.forM f) = _ ↔ _
    rw [bind_eq_ok]
    exact ⟨fun ⟨_, hx, hxs⟩ => ⟨hx, hxs⟩, fun ⟨hx, hxs⟩ => ⟨(), hx, hxs⟩⟩

/-- A traversal succeeds if every step does. -/
theorem exists_mapM {ε α β : Type} {f : α → Except ε β} {xs : List α}
    (h : ∀ x ∈ xs, ∃ y, f x = .ok y) : ∃ ys, xs.mapM f = .ok ys := by
  induction xs with
  | nil => exact ⟨[], rfl⟩
  | cons x xs ih =>
    obtain ⟨y, hy⟩ := h x List.mem_cons_self
    obtain ⟨ys, hys⟩ := ih fun x hx => h x (List.mem_cons_of_mem _ hx)
    exact ⟨y :: ys, mapM_eq_ok_iff.2 (.cons hy (mapM_eq_ok_iff.1 hys))⟩

/-- What stands at a place of the second list goes with what stands there in the first one. -/
theorem getElem?_of_forall₂ {α β : Type} {R : α → β → Prop} {xs : List α} {ys : List β}
    (h : List.Forall₂ R xs ys) {i : ℕ} {y : β} (hy : ys[i]? = some y) :
    ∃ x, xs[i]? = some x ∧ R x y := by
  obtain ⟨hi, rfl⟩ := List.getElem?_eq_some_iff.1 hy
  have hi' : i < xs.length := h.length_eq ▸ hi
  exact ⟨xs[i], List.getElem?_eq_getElem hi', h.get hi' hi⟩

namespace PlanFile

variable {d : Draft} {f : PlanFile} {dep : Deployment} {es : List (Fate × Element)}
  {judge : Pattern.Judge}

/-! ## What validation makes sure of -/

/-- The names in a plan file stand for sections, its patterns can be read, and no action comes twice
in the series. -/
structure Valid (f : PlanFile) (judge : Pattern.Judge) : Prop where
  depends : ∀ e ∈ f.elements, ∀ x ∈ e.2.dependsOn, x ∈ f.elements.map (·.1)
  pattern : ∀ e ∈ f.elements, ∀ pattern, e.2.readyPattern = some pattern →
    checkPattern judge e.1 pattern = .ok ()
  changes : ∀ a ∈ f.actions, ∀ x ∈ a.2.changes, x ∈ f.elements.map (·.1)
  series : ∀ name ∈ f.series.flatten, name ∈ f.actions.map (·.1)
  once : f.series.flatten.Nodup

theorem demand_eq_ok_iff {holds : Bool} {text : String} :
    demand holds text = .ok () ↔ holds = true := by
  cases holds with
  | true => exact ⟨fun _ => rfl, fun _ => rfl⟩
  | false => exact ⟨nofun, nofun⟩

/-- A section of an element that passes depends on what there is, and its pattern is accepted. -/
theorem of_checkElement {e : String × ElementSection} (h : checkElement judge d e = .ok ()) :
    (∀ x ∈ e.2.dependsOn, x ∈ d.elements.map (·.1)) ∧
      ∀ pattern, e.2.readyPattern = some pattern → checkPattern judge e.1 pattern = .ok () := by
  unfold checkElement at h
  obtain ⟨⟨⟩, hdepends, h⟩ := bind_eq_ok.1 h
  refine ⟨fun x hx => ?_, fun pattern hpattern => ?_⟩
  · obtain ⟨⟨⟩, hknown, -⟩ := bind_eq_ok.1 (forM_eq_ok_iff.1 hdepends x hx)
    exact isSome_lookup_iff_mem_keys.1 (demand_eq_ok_iff.1 hknown)
  · rw [hpattern] at h
    obtain ⟨⟨⟩, -, h⟩ := bind_eq_ok.1 h
    exact h

/-- A section of an action that passes changes what there is. -/
theorem of_checkAction {a : String × ActionSection} (h : checkAction d a = .ok ()) :
    ∀ x ∈ a.2.changes, x ∈ d.elements.map (·.1) := by
  unfold checkAction at h
  obtain ⟨⟨⟩, -, h⟩ := bind_eq_ok.1 h
  exact fun x hx => isSome_lookup_iff_mem_keys.1 (demand_eq_ok_iff.1 (forM_eq_ok_iff.1 h x hx))

/-- A series that passes names actions that there are, each of them once and none that came before.
-/
theorem of_checkSeries {seen names : List String} (h : checkSeries d seen names = .ok ()) :
    (∀ name ∈ names, name ∈ d.actions.map (·.1)) ∧ names.Nodup ∧ ∀ name ∈ names, name ∉ seen := by
  induction names generalizing seen with
  | nil => exact ⟨nofun, .nil, nofun⟩
  | cons name names ih =>
    unfold checkSeries at h
    obtain ⟨⟨⟩, hknown, h⟩ := bind_eq_ok.1 h
    obtain ⟨⟨⟩, hfresh, h⟩ := bind_eq_ok.1 h
    obtain ⟨hnames, hnodup, hseen⟩ := ih h
    have hnot : name ∉ seen := by simpa using demand_eq_ok_iff.1 hfresh
    refine ⟨?_, ?_, ?_⟩
    · exact List.forall_mem_cons.2
        ⟨isSome_lookup_iff_mem_keys.1 (demand_eq_ok_iff.1 hknown), hnames⟩
    · exact List.nodup_cons.2 ⟨fun hmem => hseen name hmem List.mem_cons_self, hnodup⟩
    · exact List.forall_mem_cons.2
        ⟨hnot, fun x hx hmem => hseen x hx (List.mem_cons_of_mem name hmem)⟩

/-- An accepted plan file has the sections of its draft, and is valid. -/
theorem valid_of_validate (h : d.validate judge = .ok f) :
    (f.elements = d.elements ∧ f.actions = d.actions ∧ f.series = d.series) ∧ f.Valid judge := by
  unfold Draft.validate at h
  obtain ⟨⟨⟩, -, h⟩ := bind_eq_ok.1 h
  obtain ⟨options, -, h⟩ := bind_eq_ok.1 h
  obtain ⟨⟨⟩, helements, h⟩ := bind_eq_ok.1 h
  obtain ⟨⟨⟩, hactions, h⟩ := bind_eq_ok.1 h
  obtain ⟨⟨⟩, hseries, h⟩ := bind_eq_ok.1 h
  obtain rfl := Except.ok.inj h
  obtain ⟨hnames, honce, -⟩ := of_checkSeries hseries
  rw [forM_eq_ok_iff] at helements hactions
  exact ⟨⟨rfl, rfl, rfl⟩, {
    depends := fun e he => (of_checkElement (helements e he)).1
    pattern := fun e he => (of_checkElement (helements e he)).2
    changes := fun a ha => of_checkAction (hactions a ha)
    series := hnames
    once := honce }⟩

/-! ## The deployment -/

/-- The names of the actions that no series names. -/
def alone (f : PlanFile) : List String :=
  (f.actions.map (·.1)).filter fun name => !f.series.flatten.contains name

/-- The names of the actions in the order of their numbers: those that no series names, and then the
series one after the other. -/
def schedule (f : PlanFile) : List String := f.alone ++ f.series.flatten

/-- The element comes of a section. -/
theorem section_of_placed (h : f.placedElements judge = .ok es) {fate : Fate} {el : Element}
    (hel : (fate, el) ∈ es) : ∃ place s, f.elements[place]? = some (el.id, s) ∧ s.fate = fate ∧
      elementOf judge place el.id s = .ok el := by
  obtain ⟨i, hi⟩ := List.mem_iff_getElem?.1 hel
  obtain ⟨e, he, hmade⟩ := getElem?_of_forall₂ (mapM_eq_ok_iff.1 h) hi
  obtain ⟨el', hel', hmade⟩ := bind_eq_ok.1 hmade
  obtain ⟨rfl, rfl⟩ := Prod.mk.inj (Except.ok.inj hmade)
  obtain ⟨s, hs, rfl⟩ : ∃ s, f.elements[i]? = some s ∧ (s, i) = e := by
    simpa [List.getElem?_zipIdx] using he
  have hid := id_of_elementOf hel'
  exact ⟨i, s.2, by rw [hid]; exact hs, rfl, by rw [hid]; exact hel'⟩

/-- Elements keep the names of their sections. -/
theorem ids_of_placed (h : f.placedElements judge = .ok es) :
    es.map (·.2.id) = f.elements.map (·.1) := by
  have := congrArg (List.map Prod.fst) (placedElements_eq h)
  simpa [Function.comp_def] using this

/-- The element that an action names is found. -/
theorem changeOf_eq_ok_iff {name detail id : String} {kind : ChangeKind} {c : ElementChange} :
    changeOf es name detail kind id = .ok c ↔
      ∃ e, es.find? (·.2.id == id) = some e ∧ c = ⟨kind, e.2, detail⟩ := by
  unfold changeOf
  cases es.find? (·.2.id == id) with
  | none => simp [refuse]
  | some e => simp [eq_comm]

/-- An action comes of the section with its name. -/
theorem section_of_actionOf {name : String} {a : Action} (h : f.actionOf es name = .ok a) :
    ∃ place s changes, f.actions[place]? = some (name, s) ∧
      s.changes.mapM (changeOf es name (s.detail.getD name) s.kind) = .ok changes ∧
      a = ⟨s.kind, s.detail.getD name, changes, place⟩ := by
  unfold actionOf at h
  cases hfind : f.actions.zipIdx.find? (·.1.1 == name) with
  | none =>
    rw [hfind] at h
    cases h
  | some x =>
    obtain ⟨⟨name', s⟩, place⟩ := x
    rw [hfind] at h
    obtain ⟨changes, hchanges, h⟩ := bind_eq_ok.1 h
    have hname : name' = name := by simpa using List.find?_some hfind
    have hplace := List.mk_mem_zipIdx_iff_getElem?.1 (List.mem_of_find?_eq_some hfind)
    exact ⟨place, s, changes, by rw [hplace, hname], hchanges, (Except.ok.inj h).symm⟩

/-- Every action of a valid file can be built. -/
theorem exists_actionOf (h : f.Valid judge) (hes : f.placedElements judge = .ok es) {name : String}
    (hname : name ∈ f.actions.map (·.1)) : ∃ a, f.actionOf es name = .ok a := by
  obtain ⟨⟨⟨name', s⟩, place⟩, hfind⟩ : ∃ x, f.actions.zipIdx.find? (·.1.1 == name) = some x := by
    rw [← Option.isSome_iff_exists, List.find?_isSome]
    obtain ⟨a, ha, rfl⟩ := List.mem_map.1 hname
    obtain ⟨i, hi⟩ := List.mem_iff_getElem?.1 ha
    exact ⟨(a, i), List.mk_mem_zipIdx_iff_getElem?.2 hi, beq_self_eq_true a.1⟩
  have hplace := List.mk_mem_zipIdx_iff_getElem?.1 (List.mem_of_find?_eq_some hfind)
  obtain ⟨changes, hchanges⟩ :
      ∃ changes, s.changes.mapM (changeOf es name (s.detail.getD name) s.kind) = .ok changes := by
    -- every change names a section, and that has an element
    refine exists_mapM fun x hx => ?_
    have hmem := h.changes _ (List.mem_of_getElem? hplace) x hx
    rw [← ids_of_placed hes] at hmem
    obtain ⟨e, he, hid⟩ := List.mem_map.1 hmem
    obtain ⟨e', he'⟩ := Option.isSome_iff_exists.1
      (List.find?_isSome.2 ⟨e, he, beq_iff_eq.2 hid⟩ : (es.find? (·.2.id == x)).isSome = true)
    exact ⟨_, changeOf_eq_ok_iff.2 ⟨e', he', rfl⟩⟩
  refine ⟨⟨s.kind, s.detail.getD name, changes, place⟩, ?_⟩
  unfold actionOf
  rw [hfind]
  exact bind_eq_ok.2 ⟨changes, hchanges, rfl⟩

/-- Every element of a valid file can be built. -/
theorem exists_placedElements (h : f.Valid judge) : ∃ es, f.placedElements judge = .ok es := by
  refine exists_mapM fun e he => ?_
  have hmem : e.1 ∈ f.elements := List.mem_of_getElem? (List.mk_mem_zipIdx_iff_getElem?.1 he)
  obtain ⟨el, hel⟩ : ∃ el, elementOf judge e.2 e.1.1 e.1.2 = .ok el := by
    unfold elementOf
    cases hpattern : e.1.2.readyPattern with
    | none => exact ⟨_, rfl⟩
    | some pattern =>
      exact ⟨_, bind_eq_ok.2 ⟨(), h.pattern e.1 hmem pattern hpattern, rfl⟩⟩
  exact ⟨(e.1.2.fate, el), bind_eq_ok.2 ⟨el, hel, rfl⟩⟩

theorem mem_alone {name : String} (hname : name ∈ f.alone) : name ∈ f.actions.map (·.1) :=
  (List.mem_filter.1 hname).1

/-- A valid plan file has a deployment. -/
theorem exists_deployment (h : f.Valid judge) : ∃ dep, f.deployment judge = .ok dep := by
  obtain ⟨es, hes⟩ := exists_placedElements h
  obtain ⟨actions, hactions⟩ : ∃ actions, f.alone.mapM (f.actionOf es) = .ok actions :=
    exists_mapM fun name hname => exists_actionOf h hes (mem_alone hname)
  obtain ⟨series, hseries⟩ :
      ∃ series, (f.series.mapM fun group => group.mapM (f.actionOf es)) = .ok series :=
    exists_mapM fun group hgroup => exists_mapM fun name hname =>
      exists_actionOf h hes (h.series name (List.mem_flatten.2 ⟨group, hgroup, hname⟩))
  exact ⟨_, bind_eq_ok.2 ⟨es, hes, bind_eq_ok.2 ⟨actions, hactions,
    bind_eq_ok.2 ⟨series, hseries, rfl⟩⟩⟩⟩

/-- The deployment lists elements that have been made of the sections, and the actions on
schedule. -/
structure Lists (f : PlanFile) (judge : Pattern.Judge) (es : List (Fate × Element))
    (dep : Deployment) : Prop where
  placed : f.placedElements judge = .ok es
  mem_present_iff : ∀ {el : Element},
    el ∈ dep.present ↔ ∃ fate : Fate, fate.goal = .deployed ∧ (fate, el) ∈ es
  mem_deleted_iff : ∀ {el : Element}, el ∈ dep.deleted ↔ (Fate.deleted, el) ∈ es
  actions : List.Forall₂ (fun name a => f.actionOf es name = .ok a) f.schedule dep.allActions

/-- The elements of one fate are those that are listed with it. -/
theorem mem_ofFate {fate : Fate} {el : Element} :
    el ∈ (es.filter (·.1 = fate)).map (·.2) ↔ (fate, el) ∈ es := by
  simp only [List.mem_map, List.mem_filter, decide_eq_true_eq]
  constructor
  · rintro ⟨e, ⟨he, rfl⟩, rfl⟩
    exact he
  · exact fun he => ⟨_, ⟨he, rfl⟩, rfl⟩

/-- A deployment that comes from a file lists what the file lists. -/
theorem lists_of_deployment (h : f.deployment judge = .ok dep) : ∃ es, f.Lists judge es dep := by
  unfold deployment at h
  obtain ⟨es, hes, h⟩ := bind_eq_ok.1 h
  obtain ⟨actions, hactions, h⟩ := bind_eq_ok.1 h
  obtain ⟨series, hseries, h⟩ := bind_eq_ok.1 h
  obtain rfl := Except.ok.inj h
  refine ⟨es, hes, fun {el} => ?_, mem_ofFate, ?_⟩
  · unfold Deployment.present
    rw [List.mem_append, mem_ofFate, mem_ofFate]
    constructor
    · rintro (hadded | hkept)
      · exact ⟨.added, rfl, hadded⟩
      · exact ⟨.common, rfl, hkept⟩
    · rintro ⟨fate, hgoal, hel⟩
      cases fate with
      | added => exact .inl hel
      | common => exact .inr hel
      | deleted => cases hgoal
  · have hgroups := (mapM_eq_ok_iff.1 hseries).imp fun group actions hgroup =>
      mapM_eq_ok_iff.1 hgroup
    exact List.rel_append (mapM_eq_ok_iff.1 hactions) (List.rel_flatten hgroups)

namespace Lists

variable {fate fate' : Fate} {el el' : Element}

/-- All elements that the deployment mentions come of sections. -/
theorem of_mentioned (h : f.Lists judge es dep) (hel : el ∈ dep.mentioned) :
    ∃ fate, (fate, el) ∈ es := by
  unfold Deployment.mentioned at hel
  rcases List.mem_append.1 hel with hel | hel
  · rcases List.mem_append.1 hel with hel | hel
    · obtain ⟨fate, -, hes⟩ := h.mem_present_iff.1 hel
      exact ⟨fate, hes⟩
    · exact ⟨.deleted, h.mem_deleted_iff.1 hel⟩
  · -- an element of a change has been looked up among those of the sections
    obtain ⟨a, ha, hel⟩ := List.mem_flatMap.1 hel
    obtain ⟨c, hc, rfl⟩ := List.mem_map.1 hel
    obtain ⟨i, hi⟩ := List.mem_iff_getElem?.1 ha
    obtain ⟨name, -, haction⟩ := getElem?_of_forall₂ h.actions hi
    obtain ⟨place, s, changes, -, hchanges, rfl⟩ := section_of_actionOf haction
    obtain ⟨j, hj⟩ := List.mem_iff_getElem?.1 hc
    obtain ⟨x, -, hx⟩ := getElem?_of_forall₂ (mapM_eq_ok_iff.1 hchanges) hj
    obtain ⟨e, he, rfl⟩ := changeOf_eq_ok_iff.1 hx
    exact ⟨e.1, List.mem_of_find?_eq_some he⟩

theorem mentioned (h : f.Lists judge es dep) (hel : (fate, el) ∈ es) : el ∈ dep.mentioned := by
  refine List.mem_append_left _ (List.mem_append.2 ?_)
  cases fate with
  | added => exact .inl (h.mem_present_iff.2 ⟨.added, rfl, hel⟩)
  | common => exact .inl (h.mem_present_iff.2 ⟨.common, rfl, hel⟩)
  | deleted => exact .inr (h.mem_deleted_iff.2 hel)

/-- What has the name of a section is mentioned. -/
theorem exists_mentioned (h : f.Lists judge es dep) {x : String} (hx : x ∈ f.elements.map (·.1)) :
    ∃ el ∈ dep.mentioned, el.id = x := by
  rw [← ids_of_placed h.placed] at hx
  obtain ⟨e, he, rfl⟩ := List.mem_map.1 hx
  exact ⟨e.2, h.mentioned (show (e.1, e.2) ∈ es from he), rfl⟩

/-- No two elements have the same name. -/
theorem eq_of_id (h : f.Lists judge es dep) (hnames : (f.elements.map (·.1)).Nodup)
    (hel : (fate, el) ∈ es) (hel' : (fate', el') ∈ es) (hid : el.id = el'.id) :
    fate = fate' ∧ el = el' := by
  rw [← ids_of_placed h.placed] at hnames
  exact Prod.mk.inj (List.inj_on_of_nodup_map hnames hel hel' hid)

/-- The goal of an element is that of its section. -/
theorem goalOf?_eq (h : f.Lists judge es dep) (hnames : (f.elements.map (·.1)).Nodup)
    (hel : (fate, el) ∈ es) : dep.goalOf? el.id = some fate.goal := by
  have hpresent : dep.present.any (·.id == el.id) = true ↔ fate.goal = .deployed := by
    rw [List.any_eq_true]
    constructor
    · rintro ⟨el', hel', hid⟩
      obtain ⟨fate', hgoal, hes⟩ := h.mem_present_iff.1 hel'
      rw [← (h.eq_of_id hnames hes hel (beq_iff_eq.1 hid)).1, hgoal]
    · exact fun hgoal => ⟨el, h.mem_present_iff.2 ⟨fate, hgoal, hel⟩, beq_self_eq_true el.id⟩
  unfold Deployment.goalOf?
  cases hgoal : fate.goal with
  | deployed => rw [if_pos (hpresent.2 hgoal)]
  | destroyed =>
    -- of the three fates only one has this goal
    have hfate : fate = .deleted := by
      cases fate with
      | deleted => rfl
      | added => cases hgoal
      | common => cases hgoal
    have hdeleted : dep.deleted.any (·.id == el.id) = true :=
      List.any_eq_true.2 ⟨el, h.mem_deleted_iff.2 (hfate ▸ hel), beq_self_eq_true el.id⟩
    rw [if_neg fun hany => ?_, if_pos hdeleted]
    rw [hpresent.1 hany] at hgoal
    cases hgoal

end Lists

end PlanFile

end Rollout
