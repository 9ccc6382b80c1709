import Mathlib
import Rollout.Proofs.Relation.Conjunction

/-!
# How many members a composite waits for

A composite relation that is not ready says that it waits for so many of its members.  The number it
gives is that of the diagnostics that its members report.  An edge or a composite that waits reports
one diagnostic, a condition as many as it likes.  So the number is that of the members that are not
ready if and only if the conditions that wait report as many diagnostics as there are of them
(`says_waiting_members_iff`).

The same is said of every composite nested inside.  Those that are not ready have their diagnostics
in the tree of the whole (`exists_part_of_visit`).
-/

namespace Rollout

namespace Diagnostic

mutual

/-- A diagnostic and all that is below it, in pre-order. -/
def parts : Diagnostic → List Diagnostic
  | mk status related => mk status related :: partsAll related

/-- Several diagnostics and all that is below them. -/
def partsAll : List Diagnostic → List Diagnostic
  | [] => []
  | d :: ds => parts d ++ partsAll ds

end

theorem partsAll_append (ds ds' : List Diagnostic) :
    partsAll (ds ++ ds') = partsAll ds ++ partsAll ds' := by
  induction ds with
  | nil => rfl
  | cons d ds ih =>
    rw [List.cons_append, partsAll, partsAll, ih, List.append_assoc]

theorem mem_partsAll_singleton (d : Diagnostic) : d ∈ partsAll [d] := by
  cases d
  exact List.mem_cons_self

/-- What is below a diagnostic is part of it. -/
theorem mem_partsAll_mk {d : Diagnostic} {ds : List Diagnostic} (h : d ∈ partsAll ds)
    (status : String) : d ∈ partsAll [mk status ds] :=
  List.mem_append_left _ (List.mem_cons_of_mem _ h)

end Diagnostic

namespace Readiness

/-- The diagnostics, if the answer is not ready. -/
def waiting? : Readiness → Option (List Diagnostic)
  | ready => Option.none
  | waiting ds => some ds

theorem waiting?_eq_some_iff {a : Readiness} {ds : List Diagnostic} :
    a.waiting? = some ds ↔ a = .waiting ds := by
  cases a <;> simp [waiting?]

end Readiness

namespace Relation

/-- The text of a composite of `size` members that waits for `n` of them. -/
def countText (n size : ℕ) : String :=
  "Waiting for " ++ toString n ++ " of " ++ toString size ++ " dependencies"

/-- The text tells how many members are waited for. -/
theorem countText_inj {n k size : ℕ} : countText n size = countText k size ↔ n = k := by
  unfold countText
  rw [String.append_left_inj, String.append_left_inj, String.append_left_inj,
    String.append_right_inj]
  exact Nat.repr_inj

section Counts

variable {ω : Type} (view : View) (ask : Condition → ω → Readiness × ω)

mutual

/-- The evaluations that the evaluation of a relation is made of: its own, and those of all that is
nested inside, each with the environment in which its turn comes. -/
def visits : Relation → ω → List (Relation × ω)
  | all rs, w => (all rs, w) :: visitsAll rs w
  | none, w => [(none, w)]
  | edge source target, w => [(edge source target, w)]
  | condition c, w => [(condition c, w)]

/-- The evaluations that the evaluation of several relations is made of. -/
def visitsAll : List Relation → ω → List (Relation × ω)
  | [], _ => []
  | r :: rs, w => visits r w ++ visitsAll rs (ready view ask r w).2

end

/-- A member is not ready when its turn comes. -/
def waits (turn : Relation × ω) : Bool :=
  match (turn.1.ready view ask turn.2).1 with
  | .ok a => !a.isReady
  | .error _ => false

/-- How many members of a composite are not ready. -/
def waitingMembers (rs : List Relation) (w : ω) : ℕ := (turns view ask rs w).countP (waits view ask)

/-- What a member reports that is a condition and waits. -/
def conditionReport? : Relation × ω → Option (List Diagnostic)
  | (condition c, w) => (ask c w).1.waiting?
  | (none, _) | (edge _ _, _) | (all _, _) => Option.none

/-- The reports of the conditions among the members that wait, one for each of them. -/
def conditionReports (rs : List Relation) (w : ω) : List (List Diagnostic) :=
  (turns view ask rs w).filterMap (conditionReport? ask)

end Counts

variable {ω : Type} {view : View} {ask : Condition → ω → Readiness × ω}

/-! ## Evaluations without a fault -/

theorem ready_of_faultless {r : Relation} (h : ∀ e ∈ r.targets, ∃ b, view e = .ok b) (w : ω) :
    ∃ a, (r.ready view ask w).1 = .ok a := by
  rcases hr : r.ready view ask w with ⟨f | a, w'⟩
  · obtain ⟨e, he, hfault⟩ := ready_error r hr
    obtain ⟨b, hb⟩ := h e he
    cases hb.symm.trans hfault
  · exact ⟨a, rfl⟩

theorem targets_subset_targetsAll {r : Relation} {rs : List Relation} (h : r ∈ rs) :
    r.targets ⊆ targetsAll rs := by
  induction rs with
  | nil => cases h
  | cons r' rs ih =>
    unfold targetsAll
    rcases List.mem_cons.1 h with rfl | htail
    · exact List.subset_append_left _ _
    · exact List.subset_append_of_subset_right _ (ih htail)

theorem mem_of_mem_turns {rs : List Relation} {w : ω} {turn : Relation × ω}
    (h : turn ∈ turns view ask rs w) : turn.1 ∈ rs := by
  obtain ⟨i, hi⟩ := List.mem_iff_getElem?.1 h
  exact List.mem_of_getElem? (getElem?_turns hi)

/-- No member of a composite meets a fault if none of the targets has one. -/
theorem turns_of_faultless {rs : List Relation} (h : ∀ e ∈ targetsAll rs, ∃ b, view e = .ok b)
    (w : ω) : ∀ turn ∈ turns view ask rs w, ∃ b, (turn.1.ready view ask turn.2).1 = .ok b :=
  fun turn hturn => ready_of_faultless
    (fun e he => h e (targets_subset_targetsAll (mem_of_mem_turns hturn) he)) turn.2

theorem pendingOf_of_faultless {rs : List Relation} (h : ∀ e ∈ targetsAll rs, ∃ b, view e = .ok b)
    (w : ω) :
    (pendingOf view ask rs w).1 = .ok ((turns view ask rs w).flatMap (reported view ask)) :=
  pendingOf_eq_flatMap (turns_of_faultless h w)

/-- A composite that is not ready has one diagnostic, with what is pending below it. -/
theorem pending_of_all_waiting {rs : List Relation} {w : ω} {ds : List Diagnostic}
    (h : ((all rs).ready view ask w).1 = .ok (.waiting ds)) :
    ∃ pending, (pendingOf view ask rs w).1 = .ok pending ∧
      ds = [.mk (countText pending.length rs.length) pending] := by
  rw [ready_all] at h
  cases hpending : (pendingOf view ask rs w).1 with
  | error f =>
    rw [hpending] at h
    cases h
  | ok pending =>
    rw [hpending] at h
    have hall : allReady rs.length pending = .waiting ds := Except.ok.inj h
    cases pending with
    | nil => cases hall
    | cons d pending => exact ⟨_, rfl, (Readiness.waiting.inj hall).symm⟩

/-! ## The diagnostics of nested composites -/

theorem mem_partsAll_allReady {d : Diagnostic} {pending : List Diagnostic}
    (h : d ∈ Diagnostic.partsAll pending) (size : ℕ) :
    ∃ forest, allReady size pending = .waiting forest ∧ d ∈ Diagnostic.partsAll forest := by
  cases pending with
  | nil => cases h
  | cons d' pending => exact ⟨_, rfl, Diagnostic.mem_partsAll_mk h _⟩

mutual

/-- The diagnostic of a composite inside a relation is found in what the relation reports. -/
theorem exists_part_of_visit (r : Relation) {w v : ω} {rs : List Relation} {d : Diagnostic}
    (hview : ∀ e ∈ r.targets, ∃ b, view e = .ok b) (hvisit : (all rs, v) ∈ visits view ask r w)
    (hd : ((all rs).ready view ask v).1 = .ok (.waiting [d])) :
    ∃ forest, (r.ready view ask w).1 = .ok (.waiting forest) ∧ d ∈ Diagnostic.partsAll forest := by
  cases r with
  | none => cases List.mem_singleton.1 hvisit
  | edge source target => cases List.mem_singleton.1 hvisit
  | condition c => cases List.mem_singleton.1 hvisit
  | all ms =>
    unfold visits at hvisit
    rcases List.mem_cons.1 hvisit with hself | hinside
    · cases hself
      exact ⟨[d], hd, Diagnostic.mem_partsAll_singleton d⟩
    · obtain ⟨pending, hpending, hmem⟩ := exists_part_of_visitAll ms hview hinside hd
      obtain ⟨forest, hall, hforest⟩ := mem_partsAll_allReady hmem ms.length
      refine ⟨forest, ?_, hforest⟩
      rw [ready_all, hpending, ← hall]
      rfl

theorem exists_part_of_visitAll (ms : List Relation) {w v : ω} {rs : List Relation}
    {d : Diagnostic} (hview : ∀ e ∈ targetsAll ms, ∃ b, view e = .ok b)
    (hvisit : (all rs, v) ∈ visitsAll view ask ms w)
    (hd : ((all rs).ready view ask v).1 = .ok (.waiting [d])) :
    ∃ pending, (pendingOf view ask ms w).1 = .ok pending ∧ d ∈ Diagnostic.partsAll pending := by
  cases ms with
  | nil => cases hvisit
  | cons m ms =>
    unfold targetsAll at hview
    have hfirst : ∀ e ∈ m.targets, ∃ b, view e = .ok b :=
      fun e he => hview e (List.mem_append_left _ he)
    have hrest : ∀ e ∈ targetsAll ms, ∃ b, view e = .ok b :=
      fun e he => hview e (List.mem_append_right _ he)
    unfold visitsAll at hvisit
    rcases List.mem_append.1 hvisit with hinside | hlater
    · -- What the others report comes behind what `m` reports.
      obtain ⟨forest, hforest, hmem⟩ := exists_part_of_visit m hfirst hinside hd
      refine ⟨_, by rw [pendingOf_cons_ok hforest, pendingOf_of_faultless hrest]; rfl, ?_⟩
      rw [Diagnostic.partsAll_append]
      exact List.mem_append_left _ hmem
    · obtain ⟨a, ha⟩ : ∃ a, (m.ready view ask w).1 = .ok a := ready_of_faultless hfirst w
      obtain ⟨pending, hpending, hmem⟩ := exists_part_of_visitAll ms hrest hlater hd
      refine ⟨_, by rw [pendingOf_cons_ok ha, hpending]; rfl, ?_⟩
      rw [Diagnostic.partsAll_append]
      exact List.mem_append_right _ hmem

end

mutual

/-- The targets of what is nested inside a relation are targets of the relation. -/
theorem targets_of_visit (r : Relation) {w : ω} {visit : Relation × ω}
    (h : visit ∈ visits view ask r w) : visit.1.targets ⊆ r.targets := by
  cases r with
  | none => cases List.mem_singleton.1 h; exact List.Subset.refl _
  | edge source target => cases List.mem_singleton.1 h; exact List.Subset.refl _
  | condition c => cases List.mem_singleton.1 h; exact List.Subset.refl _
  | all ms =>
    unfold visits at h
    rcases List.mem_cons.1 h with rfl | hinside
    · exact List.Subset.refl _
    · exact targets_of_visitAll ms hinside

theorem targets_of_visitAll (ms : List Relation) {w : ω} {visit : Relation × ω}
    (h : visit ∈ visitsAll view ask ms w) : visit.1.targets ⊆ targetsAll ms := by
  cases ms with
  | nil => cases h
  | cons m ms =>
    unfold visitsAll at h
    unfold targetsAll
    rcases List.mem_append.1 h with hinside | hlater
    · exact List.subset_append_of_subset_left _ (targets_of_visit m hinside)
    · exact List.subset_append_of_subset_right _ (targets_of_visitAll ms hlater)

end

/-! ## Members and what they report -/

/-- A member that is not a condition, or is ready, reports a diagnostic exactly if it waits. -/
theorem length_reported {turn : Relation × ω} {a : Readiness}
    (h : (turn.1.ready view ask turn.2).1 = .ok a)
    (hnone : conditionReport? ask turn = Option.none) :
    (reported view ask turn).length = if waits view ask turn then 1 else 0 := by
  have hwaits : waits view ask turn = !a.isReady := by
    unfold waits
    rw [h]
  rw [reported_of_ok h, hwaits]
  cases a with
  | ready => rfl
  | waiting ds =>
    obtain ⟨r, w⟩ := turn
    cases r with
    | none => cases h
    | edge source target =>
      rcases edgeReady_ok h with ⟨-, ha⟩ | ⟨-, ha⟩
      · cases ha
      · cases ha
        rfl
    | condition c =>
      -- A condition that waits has a report of its own.
      have hsome : (ask c w).1.waiting? = some ds :=
        Readiness.waiting?_eq_some_iff.2 (Except.ok.inj h)
      cases hsome.symm.trans hnone
    | all rs =>
      obtain ⟨pending, -, rfl⟩ := pending_of_all_waiting h
      rfl

/-- A condition that waits reports what it answers. -/
theorem reported_of_conditionReport? {turn : Relation × ω} {ds : List Diagnostic}
    (h : conditionReport? ask turn = some ds) :
    reported view ask turn = ds ∧ waits view ask turn = true := by
  obtain ⟨r, w⟩ := turn
  cases r with
  | none => cases h
  | edge source target => cases h
  | all rs => cases h
  | condition c =>
    have hask : (ask c w).1 = .waiting ds := Readiness.waiting?_eq_some_iff.1 h
    have hready : ((condition c).ready view ask w).1 = .ok (.waiting ds) := congrArg Except.ok hask
    constructor
    · unfold reported
      rw [hready]
      rfl
    · unfold waits
      rw [hready]
      rfl

/-- The members report one diagnostic for each of them that waits, but for the conditions, which
count for what they report. -/
theorem length_flatMap_reported {ts : List (Relation × ω)}
    (h : ∀ turn ∈ ts, ∃ b, (turn.1.ready view ask turn.2).1 = .ok b) :
    (ts.flatMap (reported view ask)).length + (ts.filterMap (conditionReport? ask)).length =
      ts.countP (waits view ask) + (ts.filterMap (conditionReport? ask)).flatten.length := by
  induction ts with
  | nil => rfl
  | cons turn ts ih =>
    have hrest := ih fun turn' hturn => h turn' (List.mem_cons_of_mem _ hturn)
    obtain ⟨b, hb⟩ := h turn List.mem_cons_self
    rw [List.flatMap_cons, List.length_append, List.countP_cons, List.filterMap_cons]
    cases hreport : conditionReport? ask turn with
    | none =>
      rw [length_reported hb hreport]
      simp only
      omega
    | some ds =>
      obtain ⟨hds, hwaits⟩ : reported view ask turn = ds ∧ waits view ask turn = true :=
        reported_of_conditionReport? hreport
      rw [hds, hwaits, if_pos rfl, List.flatten_cons, List.length_append, List.length_cons]
      omega

/-- No target of the relation has a fault, and `all rs`, which is the relation itself or nested
inside it, is not ready when its turn comes, in the environment `v`.  Then it has one diagnostic,
which is found in what the relation reports, and which gives the number of the diagnostics right
below it. This is the number of the members that are not ready if and only if the conditions that
wait among them report, all together, as many diagnostics as there are of them. -/
theorem says_waiting_members_iff {r : Relation} {w : ω}
    (hview : ∀ e ∈ r.targets, ∃ b, view e = .ok b) {rs : List Relation} {v : ω}
    (hvisit : (all rs, v) ∈ visits view ask r w)
    (hwaits : ((all rs).ready view ask v).1 ≠ .ok .ready) :
    ∃ d forest, ((all rs).ready view ask v).1 = .ok (.waiting [d]) ∧
      (r.ready view ask w).1 = .ok (.waiting forest) ∧ d ∈ Diagnostic.partsAll forest ∧
      d.status = countText d.related.length rs.length ∧
      waitingMembers view ask rs v ≤ rs.length ∧
      (d.status = countText (waitingMembers view ask rs v) rs.length ↔
        (conditionReports view ask rs v).flatten.length =
          (conditionReports view ask rs v).length) := by
  have hmembers : ∀ e ∈ (all rs).targets, ∃ b, view e = .ok b :=
    fun e he => hview e (targets_of_visit r hvisit he)
  obtain ⟨a, ha⟩ : ∃ a, ((all rs).ready view ask v).1 = .ok a := ready_of_faultless hmembers v
  cases a with
  | ready => exact absurd ha hwaits
  | waiting ds =>
    obtain ⟨pending, hpending, rfl⟩ := pending_of_all_waiting ha
    obtain ⟨forest, hforest, hmem⟩ := exists_part_of_visit r hview hvisit ha
    refine ⟨_, forest, ha, hforest, hmem, rfl, ?_, ?_⟩
    · calc waitingMembers view ask rs v
        _ ≤ (turns view ask rs v).length := List.countP_le_length
        _ = rs.length := length_turns rs v
    · have hfaultless : ∀ turn ∈ turns view ask rs v,
          ∃ b, (turn.1.ready view ask turn.2).1 = .ok b := turns_of_faultless hmembers v
      have hreported : pending = (turns view ask rs v).flatMap (reported view ask) :=
        Except.ok.inj (hpending.symm.trans (pendingOf_of_faultless hmembers v))
      -- What is said is the length of `pending`; the account of the reports tells it from the
      -- members.
      have hcount := length_flatMap_reported hfaultless
      rw [← hreported] at hcount
      show countText pending.length rs.length = _ ↔ _
      rw [countText_inj]
      unfold waitingMembers conditionReports
      omega

/-- A composite behind a condition says how many of its members are not ready, and its diagnostic is
below that of the whole. -/
theorem nested_says_waiting_members :
    let inner := [edge "app" "db", edge "app" "cache", condition ⟨"door", 1⟩]
    let r := all [condition ⟨"gate", 0⟩, all inner, none]
    let view : View := fun e => .ok (e = "db")
    let ask : Condition → Nat → Readiness × Nat := fun c asked =>
      (if c.probe = asked then .waitingFor c.description else .ready, asked + 1)
    ∃ d forest, ((all inner).ready view ask 1).1 = .ok (.waiting [d]) ∧
      (r.ready view ask 0).1 = .ok (.waiting forest) ∧ d ∈ Diagnostic.partsAll forest ∧
      d.status = "Waiting for 2 of 3 dependencies" := by
  intro inner r view ask
  have hvisit : (all inner, 1) ∈ visits view ask r 0 :=
    List.mem_cons_of_mem _ (List.mem_cons_of_mem _ List.mem_cons_self)
  obtain ⟨d, forest, hd, hforest, hmem, -, -, hiff⟩ :=
    says_waiting_members_iff (fun e _ => ⟨_, rfl⟩) hvisit (nofun)
  exact ⟨d, forest, hd, hforest, hmem, (hiff.2 rfl).trans (by decide)⟩

/-- A condition that reports two diagnostics counts for two, although it is the only member. -/
theorem single_member_counts_twice :
    ∃ (view : View) (ask : Condition → Unit → Readiness × Unit) (rs : List Relation)
      (d : Diagnostic), (∀ e, ∃ b, view e = .ok b) ∧
      ((all rs).ready view ask ()).1 = .ok (.waiting [d]) ∧ rs.length = 1 ∧
      waitingMembers view ask rs () = 1 ∧ d.status = "Waiting for 2 of 1 dependencies" ∧
      ∀ n ≤ rs.length, d.status ≠ countText n rs.length := by
  refine ⟨fun _ => .ok true, fun _ _ => (.waiting [.leaf "a", .leaf "b"], ()),
    [condition ⟨"c", 0⟩], _, fun _ => ⟨true, rfl⟩, rfl, rfl, rfl, rfl, ?_⟩
  decide

end Relation

end Rollout
