import Rollout.Proofs.Relation.Readiness

/-!
# The footprint of a relation

Edges and wake-ups of a plan are made from the handles of its relations alone, while readiness is
found by going through the whole tree.  The two agree: the handles are the targets of the edges at
the leaves, each once and in order (`Enumerates`), and whoever answers alike for the handles cannot
be told apart by the evaluation (`DecidedBy`).  Both hold of the inverse as well, with the sources
in the place of the targets (`handles_are_footprint`).

The environments of the two evaluations need not be of one kind; it is enough that conditions answer
alike in environments that match, and leave environments that match.
-/

namespace Rollout.Relation

/-! ## Leaves -/

mutual

/-- The leaves of the tree, from left to right. -/
def leaves : Relation → List Relation
  | all rs => leavesAll rs
  | none => [none]
  | edge source target => [edge source target]
  | condition c => [condition c]

/-- The leaves of several trees. -/
def leavesAll : List Relation → List Relation
  | [] => []
  | r :: rs => leaves r ++ leavesAll rs

end

/-- Where an edge starts. -/
def source? : Relation → Option ElementId
  | edge source _ => some source
  | none | all _ | condition _ => Option.none

/-- Where an edge ends. -/
def target? : Relation → Option ElementId
  | edge _ target => some target
  | none | all _ | condition _ => Option.none

theorem target?_inverse (r : Relation) : r.inverse.target? = r.source? := by
  cases r <;> rfl

mutual

theorem targets_eq_leaves (r : Relation) : r.targets = r.leaves.filterMap target? := by
  cases r with
  | all rs => exact targetsAll_eq_leaves rs
  | none => rfl
  | edge source target => rfl
  | condition c => rfl

theorem targetsAll_eq_leaves (rs : List Relation) :
    targetsAll rs = (leavesAll rs).filterMap target? := by
  cases rs with
  | nil => rfl
  | cons r rs =>
    unfold targetsAll leavesAll
    rw [List.filterMap_append, targets_eq_leaves r, targetsAll_eq_leaves rs]

end

mutual

/-- The tree keeps its shape when it is seen from the other side. -/
theorem leaves_inverse (r : Relation) : r.inverse.leaves = r.leaves.map inverse := by
  cases r with
  | all rs => exact leavesAll_inverseAll rs
  | none => rfl
  | edge source target => rfl
  | condition c => rfl

theorem leavesAll_inverseAll (rs : List Relation) :
    leavesAll (inverseAll rs) = (leavesAll rs).map inverse := by
  cases rs with
  | nil => rfl
  | cons r rs =>
    unfold inverseAll leavesAll
    rw [List.map_append, leaves_inverse r, leavesAll_inverseAll rs]

end

/-- Seen from the other side, the sources are what is waited for. -/
theorem targets_inverse_eq_leaves (r : Relation) :
    r.inverse.targets = r.leaves.filterMap source? := by
  rw [targets_eq_leaves, leaves_inverse, List.filterMap_map]
  congr 1
  exact funext target?_inverse

mutual

theorem inverse_inverse (r : Relation) : r.inverse.inverse = r := by
  cases r with
  | all rs => exact congrArg all (inverseAll_inverseAll rs)
  | none => rfl
  | edge source target => rfl
  | condition c => rfl

theorem inverseAll_inverseAll (rs : List Relation) : inverseAll (inverseAll rs) = rs := by
  cases rs with
  | nil => rfl
  | cons r rs =>
    show r.inverse.inverse :: inverseAll (inverseAll rs) = r :: rs
    rw [inverse_inverse r, inverseAll_inverseAll rs]

end

/-! ## Handles -/

/-- The list holds every item of `xs` once, in order of first occurrence. -/
structure Enumerates (l xs : List ElementId) : Prop where
  nodup : l.Nodup
  mem_iff : ∀ e, e ∈ l ↔ e ∈ xs
  ordered : l.Pairwise fun a b => xs.idxOf a < xs.idxOf b

theorem ordered_firsts (seen es : List ElementId) :
    (firsts seen es).Pairwise fun a b => es.idxOf a < es.idxOf b := by
  induction es generalizing seen with
  | nil => exact .nil
  | cons x xs ih =>
    -- What comes after `x` and is not `x` moves on by one place.
    have hshift : ∀ {seen' : List ElementId}, x ∈ seen' → (firsts seen' xs).Pairwise fun a b =>
        (x :: xs).idxOf a < (x :: xs).idxOf b := by
      intro seen' hx
      have hne : ∀ e ∈ firsts seen' xs, x ≠ e := by
        rintro e he rfl
        exact ((mem_firsts seen' xs).1 he).2 hx
      refine (ih seen').imp_of_mem fun ha hb hlt => ?_
      rw [List.idxOf_cons_ne xs (hne _ ha), List.idxOf_cons_ne xs (hne _ hb)]
      exact Nat.succ_lt_succ hlt
    unfold firsts
    by_cases hx : x ∈ seen
    · rw [if_pos (by simpa using hx)]
      exact hshift hx
    · rw [if_neg (by simpa using hx), List.pairwise_cons]
      refine ⟨fun e he => ?_, hshift List.mem_cons_self⟩
      have hne : x ≠ e := by
        rintro rfl
        exact ((mem_firsts _ xs).1 he).2 List.mem_cons_self
      rw [List.idxOf_cons_self, List.idxOf_cons_ne xs hne]
      exact Nat.succ_pos _

/-- The handles enumerate the targets. -/
theorem enumerates_handles (r : Relation) : Enumerates r.handles r.targets where
  nodup := (ordered_firsts [] r.targets).imp fun hlt heq => by
    subst heq
    exact Nat.lt_irrefl _ hlt
  mem_iff _ := mem_handles
  ordered := ordered_firsts [] r.targets

/-! ## Evaluations that cannot be told apart -/

section Evaluation

variable {ω ω' : Type} {view view' : View} {ask : Condition → ω → Readiness × ω}
  {ask' : Condition → ω' → Readiness × ω'} {same : ω → ω' → Prop}

/-- The conditions among `rs` answer alike in environments that match. -/
def AnswerAlike (rs : List Relation) (ask : Condition → ω → Readiness × ω)
    (ask' : Condition → ω' → Readiness × ω') (same : ω → ω' → Prop) : Prop :=
  ∀ c, condition c ∈ rs → ∀ w w', same w w' →
    (ask c w).1 = (ask' c w').1 ∧ same (ask c w).2 (ask' c w').2

theorem AnswerAlike.mono {rs rs' : List Relation} (h : AnswerAlike rs ask ask' same)
    (hsub : rs' ⊆ rs) : AnswerAlike rs' ask ask' same := fun c hc => h c (hsub hc)

theorem edgeReady_congr {e : ElementId} (h : view e = view' e) :
    edgeReady view e = edgeReady view' e := by
  unfold edgeReady
  rw [h]

mutual

/-- Nothing but the targets is looked at. -/
theorem ready_alike (r : Relation) (hview : ∀ e ∈ r.targets, view e = view' e)
    (hask : AnswerAlike r.leaves ask ask' same) {w : ω} {w' : ω'} (hw : same w w') :
    (r.ready view ask w).1 = (r.ready view' ask' w').1 ∧
      same (r.ready view ask w).2 (r.ready view' ask' w').2 := by
  cases r with
  | none => exact ⟨rfl, hw⟩
  | edge source target =>
    exact ⟨edgeReady_congr (hview target List.mem_cons_self), hw⟩
  | condition c =>
    obtain ⟨hanswer, hw'⟩ := hask c List.mem_cons_self w w' hw
    exact ⟨congrArg Except.ok hanswer, hw'⟩
  | all rs =>
    obtain ⟨hpending, hw'⟩ := pendingOf_alike rs hview hask hw
    unfold ready
    generalize pendingOf view ask rs w = x, pendingOf view' ask' rs w' = x' at hpending hw' ⊢
    obtain ⟨answer, v⟩ := x
    obtain ⟨answer', v'⟩ := x'
    obtain rfl : answer = answer' := hpending
    cases answer with
    | error f => exact ⟨rfl, hw'⟩
    | ok pending => exact ⟨rfl, hw'⟩

theorem pendingOf_alike (rs : List Relation) (hview : ∀ e ∈ targetsAll rs, view e = view' e)
    (hask : AnswerAlike (leavesAll rs) ask ask' same) {w : ω} {w' : ω'} (hw : same w w') :
    (pendingOf view ask rs w).1 = (pendingOf view' ask' rs w').1 ∧
      same (pendingOf view ask rs w).2 (pendingOf view' ask' rs w').2 := by
  cases rs with
  | nil => exact ⟨rfl, hw⟩
  | cons r rs =>
    unfold targetsAll at hview
    unfold leavesAll at hask
    obtain ⟨hfirst, hv⟩ := ready_alike r (fun e he => hview e (List.mem_append_left _ he))
      (hask.mono (List.subset_append_left _ _)) hw
    have hrest := fun {v : ω} {v' : ω'} (hv : same v v') =>
      pendingOf_alike rs (fun e he => hview e (List.mem_append_right _ he))
        (hask.mono (List.subset_append_right _ _)) hv
    unfold pendingOf
    generalize r.ready view ask w = x, r.ready view' ask' w' = x' at hfirst hv ⊢
    obtain ⟨answer, v⟩ := x
    obtain ⟨answer', v'⟩ := x'
    obtain rfl : answer = answer' := hfirst
    cases answer with
    | error f => exact ⟨rfl, hv⟩
    | ok a =>
      obtain ⟨hpending, hu⟩ := hrest hv
      simp only
      generalize pendingOf view ask rs v = y, pendingOf view' ask' rs v' = y' at hpending hu ⊢
      obtain ⟨answers, u⟩ := y
      obtain ⟨answers', u'⟩ := y'
      obtain rfl : answers = answers' := hpending
      cases answers with
      | error f => exact ⟨rfl, hu⟩
      | ok pending => exact ⟨rfl, hu⟩

end

end Evaluation

/-- Whoever answers alike for the elements of the list, and for conditions, makes no difference to
the outcome: neither to the answer, with what it says is waited for, nor to a fault. -/
def DecidedBy (r : Relation) (es : List ElementId) : Prop :=
  ∀ {ω ω' : Type} {view view' : View} {ask : Condition → ω → Readiness × ω}
    {ask' : Condition → ω' → Readiness × ω'} {same : ω → ω' → Prop} {w : ω} {w' : ω'},
    (∀ e ∈ es, view e = view' e) → AnswerAlike r.leaves ask ask' same → same w w' →
      (r.ready view ask w).1 = (r.ready view' ask' w').1

theorem decidedBy_handles (r : Relation) : r.DecidedBy r.handles :=
  fun hview hask hw =>
    (ready_alike r (fun e he => hview e (mem_handles.2 he)) hask hw).1

/-- The handles of a relation are the targets of the edges at its leaves, each once and in order of
first occurrence, and those of its inverse are the sources; nothing else about the elements decides
what the relation or its inverse answers; and to turn a relation round twice changes nothing. -/
theorem handles_are_footprint (r : Relation) :
    Enumerates r.handles (r.leaves.filterMap target?) ∧
      Enumerates r.inverse.handles (r.leaves.filterMap source?) ∧
      r.DecidedBy r.handles ∧ r.inverse.DecidedBy r.inverse.handles ∧
      r.inverse.inverse = r := by
  refine ⟨?_, ?_, decidedBy_handles r, decidedBy_handles r.inverse, inverse_inverse r⟩
  · rw [← targets_eq_leaves]
    exact enumerates_handles r
  · rw [← targets_inverse_eq_leaves]
    exact enumerates_handles r.inverse

/-- What becomes of the element that waits, and how the environment keeps its gate, makes no
difference to what the element waits for. -/
theorem nested_is_decided_by_handles :
    let r := all [edge "app" "db", all [edge "app" "cache", condition ⟨"gate", 0⟩,
      edge "app" "db"]]
    let view : View := fun e =>
      if e = "app" then .error .dependencyFailed else .ok (e != "cache")
    let view' : View := fun e => .ok (e != "cache")
    let ask : Condition → Bool → Readiness × Bool := fun _ isOpen =>
      (if isOpen then .ready else .waitingFor "closed", isOpen)
    let ask' : Condition → Nat → Readiness × Nat := fun _ visits =>
      (if visits = 0 then .waitingFor "closed" else .ready, visits)
    r.handles = ["db", "cache"] ∧ r.inverse.handles = ["app"] ∧ view "app" ≠ view' "app" ∧
      (r.ready view ask false).1 = (r.ready view' ask' 0).1 := by
  intro r view view' ask ask'
  refine ⟨by decide, by decide, nofun, ?_⟩
  have hview : ∀ e ∈ r.handles, view e = view' e := by
    intro e he
    have hne : e ≠ "app" := by
      rintro rfl
      exact absurd he (by decide)
    exact if_neg hne
  have hask : AnswerAlike r.leaves ask ask' fun isOpen visits => isOpen = true ↔ visits ≠ 0 := by
    intro c _ isOpen visits hsame
    refine ⟨?_, hsame⟩
    cases isOpen <;> by_cases hvisits : visits = 0 <;> simp_all [ask, ask']
  exact (handles_are_footprint r).2.2.1 hview hask (by simp)

end Rollout.Relation
