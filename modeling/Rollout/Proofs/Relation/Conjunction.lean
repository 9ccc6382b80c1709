import Rollout.Proofs.Relation.Readiness

/-!
# When several relations are ready together

A composite relation decides by what its members report as pending, and not by whether they are
ready themselves.  The two come to the same as long as no condition among the members answers that
it waits for nothing at all (`all_isReady_iff`).

A member is evaluated once as part of the whole and once on its own, and conditions may answer
differently each time.  `asked` lists the questions of one evaluation with their answers, so that
two evaluations with one list are evaluations with the same answers.
-/

namespace Rollout.Relation

section Questions

variable {ω : Type} (view : View) (ask : Condition → ω → Readiness × ω)

mutual

/-- The conditions that an evaluation asks, and what they answer, in order. -/
def asked : Relation → ω → List (Condition × Readiness)
  | all rs, w => askedAll rs w
  | condition c, w => [(c, (ask c w).1)]
  | none, _ | edge _ _, _ => []

/-- The conditions that the evaluation of several relations asks; it ends with the first fault. -/
def askedAll : List Relation → ω → List (Condition × Readiness)
  | [], _ => []
  | r :: rs, w =>
    asked r w ++
      match ready view ask r w with
      | (.ok _, w') => askedAll rs w'
      | (.error _, _) => []

end

/-- The members of a composite, each with the environment in which its turn comes. -/
def turns : List Relation → ω → List (Relation × ω)
  | [], _ => []
  | r :: rs, w => (r, w) :: turns rs (ready view ask r w).2

/-- What a member reports as pending when its turn comes. -/
def reported (turn : Relation × ω) : List Diagnostic :=
  match (turn.1.ready view ask turn.2).1 with
  | .ok a => a.pending
  | .error _ => []

end Questions

variable {ω : Type} {view : View} {ask : Condition → ω → Readiness × ω}

/-! ## Steps of an evaluation -/

theorem ready_all (rs : List Relation) (w : ω) :
    ((all rs).ready view ask w).1 = (pendingOf view ask rs w).1.map (allReady rs.length) := by
  unfold ready
  rcases pendingOf view ask rs w with ⟨f | pending, w'⟩ <;> rfl

theorem pendingOf_cons_error {r : Relation} {w : ω} {f : Fault}
    (h : (r.ready view ask w).1 = .error f) (rs : List Relation) :
    (pendingOf view ask (r :: rs) w).1 = .error f := by
  unfold pendingOf
  rcases hr : r.ready view ask w with ⟨answer, w'⟩
  rw [hr] at h
  obtain rfl : answer = .error f := h
  rfl

theorem pendingOf_cons_ok {r : Relation} {w : ω} {a : Readiness}
    (h : (r.ready view ask w).1 = .ok a) (rs : List Relation) :
    (pendingOf view ask (r :: rs) w).1 =
      (pendingOf view ask rs (r.ready view ask w).2).1.map (a.pending ++ ·) := by
  rw [pendingOf]
  rcases hr : r.ready view ask w with ⟨answer, w'⟩
  rw [hr] at h
  obtain rfl : answer = .ok a := h
  simp only
  rcases pendingOf view ask rs w' with ⟨f | pending, w''⟩ <;> rfl

/-! ## Evaluations with the same answers -/

mutual

/-- What an evaluation comes to is settled by the answers it gets, and so is where it stops
asking. -/
theorem ready_of_asked (r : Relation) {w v : ω} {more more' : List (Condition × Readiness)}
    (h : asked view ask r w ++ more = asked view ask r v ++ more') :
    (r.ready view ask w).1 = (r.ready view ask v).1 ∧ more = more' := by
  cases r with
  | none => exact ⟨rfl, h⟩
  | edge source target => exact ⟨rfl, h⟩
  | condition c =>
    obtain ⟨hanswer, hmore⟩ := List.cons.inj h
    exact ⟨congrArg Except.ok (Prod.mk.inj hanswer).2, hmore⟩
  | all rs =>
    unfold asked at h
    obtain ⟨hpending, hmore⟩ := pendingOf_of_asked rs h
    exact ⟨by rw [ready_all, ready_all, hpending], hmore⟩

theorem pendingOf_of_asked (rs : List Relation) {w v : ω}
    {more more' : List (Condition × Readiness)}
    (h : askedAll view ask rs w ++ more = askedAll view ask rs v ++ more') :
    (pendingOf view ask rs w).1 = (pendingOf view ask rs v).1 ∧ more = more' := by
  cases rs with
  | nil => exact ⟨rfl, h⟩
  | cons r rs =>
    unfold askedAll at h
    rw [List.append_assoc, List.append_assoc] at h
    obtain ⟨hfirst, hrest⟩ := ready_of_asked r h
    rcases hw : r.ready view ask w with ⟨answer, w'⟩
    rcases hv : r.ready view ask v with ⟨answer', v'⟩
    rw [hw, hv] at hfirst hrest
    obtain rfl : answer = answer' := hfirst
    -- Both evaluations end here, or both go on to the other relations.
    cases answer with
    | error f =>
      rw [pendingOf_cons_error (congrArg Prod.fst hw), pendingOf_cons_error (congrArg Prod.fst hv)]
      exact ⟨rfl, hrest⟩
    | ok a =>
      obtain ⟨hpending, hmore⟩ := pendingOf_of_asked rs hrest
      rw [pendingOf_cons_ok (congrArg Prod.fst hw), pendingOf_cons_ok (congrArg Prod.fst hv), hw,
        hv, hpending]
      exact ⟨rfl, hmore⟩

end

/-- Two evaluations of one relation with the same answers come to the same. -/
theorem ready_congr {r : Relation} {w v : ω} (h : asked view ask r w = asked view ask r v) :
    (r.ready view ask w).1 = (r.ready view ask v).1 :=
  (ready_of_asked r (congrArg (· ++ []) h)).1

/-! ## What is pending -/

theorem reported_of_ok {turn : Relation × ω} {a : Readiness}
    (h : (turn.1.ready view ask turn.2).1 = .ok a) : reported view ask turn = a.pending := by
  unfold reported
  rw [h]

/-- If no member meets a fault then what is pending is what the members report, in order. -/
theorem pendingOf_eq_flatMap {rs : List Relation} {w : ω}
    (h : ∀ turn ∈ turns view ask rs w, ∃ b, (turn.1.ready view ask turn.2).1 = .ok b) :
    (pendingOf view ask rs w).1 = .ok ((turns view ask rs w).flatMap (reported view ask)) := by
  induction rs generalizing w with
  | nil => rfl
  | cons r rs ih =>
    obtain ⟨b, hb⟩ := h (r, w) List.mem_cons_self
    rw [pendingOf_cons_ok hb, ih fun turn hturn => h turn (List.mem_cons_of_mem _ hturn), turns,
      List.flatMap_cons, reported_of_ok hb]
    rfl

/-- Nothing is pending exactly if no member has anything pending. -/
theorem pendingOf_turns {rs : List Relation} {w : ω}
    (h : ∀ turn ∈ turns view ask rs w, ∃ b, (turn.1.ready view ask turn.2).1 = .ok b) :
    ∃ pending, (pendingOf view ask rs w).1 = .ok pending ∧
      (pending = [] ↔ ∀ turn ∈ turns view ask rs w,
        ∀ b, (turn.1.ready view ask turn.2).1 = .ok b → b.pending = []) := by
  refine ⟨_, pendingOf_eq_flatMap h, ?_⟩
  rw [List.flatMap_eq_nil_iff]
  refine forall₂_congr fun turn hturn => ?_
  obtain ⟨b, hb⟩ := h turn hturn
  rw [reported_of_ok hb]
  refine ⟨fun hnone b' hb' => ?_, fun hnone => hnone b hb⟩
  rwa [Except.ok.inj (hb.symm.trans hb')] at hnone

/-- Only a condition can wait for nothing at all. -/
theorem ready_of_pending {r : Relation} {w : ω} {a : Readiness}
    (h : (r.ready view ask w).1 = .ok a) (hpending : a.pending = [])
    (hcondition : ∀ c, r = .condition c → (ask c w).1 ≠ .waiting []) : a = .ready := by
  cases a with
  | ready => rfl
  | waiting ds =>
    obtain rfl : ds = [] := hpending
    cases r with
    | none => cases h
    | edge source target =>
      rcases edgeReady_ok h with ⟨-, ha⟩ | ⟨-, ha⟩ <;> cases ha
    | condition c => exact absurd (Except.ok.inj h) (hcondition c rfl)
    | all rs =>
      rw [ready_all] at h
      cases hrs : (pendingOf view ask rs w).1 with
      | error f =>
        rw [hrs] at h
        cases h
      | ok pending =>
        rw [hrs] at h
        have hall : allReady rs.length pending = .waiting [] := Except.ok.inj h
        cases pending <;> cases hall

/-! ## The whole and its members -/

theorem getElem?_turns {rs : List Relation} {w v : ω} {i : Nat} {r : Relation}
    (h : (turns view ask rs w)[i]? = some (r, v)) : rs[i]? = some r := by
  induction rs generalizing w i with
  | nil => cases h
  | cons r' rs ih =>
    cases i with
    | zero => exact congrArg (Option.map Prod.fst) h
    | succ i => exact ih h

theorem length_turns (rs : List Relation) (w : ω) :
    (turns view ask rs w).length = rs.length := by
  induction rs generalizing w with
  | nil => rfl
  | cons r rs ih => exact congrArg (· + 1) (ih _)

/-- The members are evaluated on their own, each in an environment of its choice, without a fault
and with the answers that they get as parts of the whole.  Then the whole meets no fault either,
and, unless a condition among the members answers that it waits for nothing, it is ready exactly
if all members are. -/
theorem all_isReady_iff {rs : List Relation} {w : ω} {own : Nat → ω}
    (hfaultless : ∀ (i : Nat) (r : Relation), rs[i]? = some r →
      ∃ b, (r.ready view ask (own i)).1 = .ok b)
    (hsame : ∀ (i : Nat) (r : Relation) (v : ω), (turns view ask rs w)[i]? = some (r, v) →
      asked view ask r (own i) = asked view ask r v)
    (hnothing : ∀ (i : Nat) (c : Condition), rs[i]? = some (.condition c) →
      (ask c (own i)).1 ≠ .waiting []) :
    ∃ a, ((all rs).ready view ask w).1 = .ok a ∧
      (a = .ready ↔ ∀ (i : Nat) (r : Relation), rs[i]? = some r →
        (r.ready view ask (own i)).1 = .ok .ready) := by
  have hturn : ∀ (i : Nat) (r : Relation) (v : ω), (turns view ask rs w)[i]? = some (r, v) →
      (r.ready view ask v).1 = (r.ready view ask (own i)).1 :=
    fun i r v hi => ready_congr (hsame i r v hi).symm
  have hturns : ∀ turn ∈ turns view ask rs w,
      ∃ b, (turn.1.ready view ask turn.2).1 = .ok b := by
    rintro ⟨r, v⟩ hmem
    obtain ⟨i, hi⟩ := List.mem_iff_getElem?.1 hmem
    rw [hturn i r v hi]
    exact hfaultless i r (getElem?_turns hi)
  obtain ⟨pending, hpending, hnil⟩ := pendingOf_turns hturns
  refine ⟨allReady rs.length pending, by rw [ready_all, hpending]; rfl, ?_⟩
  have hwhole : allReady rs.length pending = .ready ↔ pending = [] := by
    cases pending <;> simp [allReady]
  rw [hwhole, hnil]
  constructor
  · intro hnone i r hi
    obtain ⟨b, hb⟩ := hfaultless i r hi
    obtain ⟨⟨r', v⟩, hv⟩ : ∃ turn, (turns view ask rs w)[i]? = some turn := by
      have hlt : i < (turns view ask rs w).length := by
        rw [length_turns]
        exact (List.getElem?_eq_some_iff.1 hi).1
      exact ⟨_, List.getElem?_eq_getElem hlt⟩
    obtain rfl : r' = r := Option.some.inj ((getElem?_turns hv).symm.trans hi)
    have hrest := hnone _ (List.mem_iff_getElem?.2 ⟨i, hv⟩) b ((hturn i r' v hv).trans hb)
    rw [hb, ready_of_pending hb hrest fun c hc => hnothing i c (hc ▸ hi)]
  · rintro hready ⟨r, v⟩ hmem b hb
    obtain ⟨i, hi⟩ := List.mem_iff_getElem?.1 hmem
    rw [hturn i r v hi, hready i r (getElem?_turns hi)] at hb
    obtain rfl := Except.ok.inj hb
    rfl

/-- Beside an edge to an element at its goal, a condition that waits for a gate is waited for. -/
theorem gated_waits_for_condition :
    ((all [edge "top" "base", condition ⟨"gate", 0⟩]).ready (fun _ => .ok true)
      (fun _ isOpen => (if isOpen then .ready else .waitingFor "closed", isOpen)) false).1 ≠
        .ok .ready := by
  let view : View := fun _ => .ok true
  let ask : Condition → Bool → Readiness × Bool := fun _ isOpen =>
    (if isOpen then .ready else .waitingFor "closed", isOpen)
  let rs : List Relation := [edge "top" "base", condition ⟨"gate", 0⟩]
  have hfaultless : ∀ (i : Nat) (r : Relation), rs[i]? = some r →
      ∃ b, (r.ready view ask false).1 = .ok b
    | 0, _, hi => Option.some.inj hi ▸ ⟨_, rfl⟩
    | 1, _, hi => Option.some.inj hi ▸ ⟨_, rfl⟩
  have hsame : ∀ (i : Nat) (r : Relation) (v : Bool), (turns view ask rs false)[i]? = some (r, v) →
      asked view ask r false = asked view ask r v
    | 0, _, _, hi => by cases hi; rfl
    | 1, _, _, hi => by cases hi; rfl
  have hnothing : ∀ (i : Nat) (c : Condition), rs[i]? = some (.condition c) →
      (ask c false).1 ≠ .waiting []
    | 1, _, _ => nofun
  obtain ⟨a, ha, hiff⟩ := all_isReady_iff hfaultless hsame hnothing
  intro hready
  have hall := hiff.1 (Except.ok.inj (ha.symm.trans hready)) 1 _ rfl
  cases hall

/-- A condition that answers that it waits for nothing does not keep a composite from being ready,
although it is not ready itself. -/
theorem idle_condition_is_passed_over :
    ∃ (view : View) (ask : Condition → Unit → Readiness × Unit) (rs : List Relation)
      (own : Nat → Unit),
      (∀ (i : Nat) (r : Relation), rs[i]? = some r → ∃ b, (r.ready view ask (own i)).1 = .ok b) ∧
      (∀ (i : Nat) (r : Relation) (v : Unit), (turns view ask rs ())[i]? = some (r, v) →
        asked view ask r (own i) = asked view ask r v) ∧
      ((all rs).ready view ask ()).1 = .ok .ready ∧
      ∃ (i : Nat) (r : Relation), rs[i]? = some r ∧
        (r.ready view ask (own i)).1 = .ok (.waiting []) := by
  refine ⟨fun _ => .ok true, fun _ _ => (.waiting [], ()), [condition ⟨"c", 0⟩], fun _ => (),
    fun i r hi => ?_, fun _ _ _ _ => rfl, rfl, 0, _, rfl, rfl⟩
  obtain rfl : r = condition ⟨"c", 0⟩ := List.mem_singleton.1 (List.mem_of_getElem? hi)
  exact ⟨_, rfl⟩

end Rollout.Relation
