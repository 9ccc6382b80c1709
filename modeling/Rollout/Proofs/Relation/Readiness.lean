import Mathlib.Data.List.Basic
import Mathlib.Tactic.Common
import Rollout.Relation.Basic

/-!
# What the answer of a relation means

A relation that is ready has all its targets at their goals.  One that is not waits for a target
or for a condition, and one that cannot be evaluated has a target that cannot be waited for.
Conditions have no part in the first and in the last of these; in the second they are what makes
a relation wait although each of its targets is done.
-/

namespace Rollout.Relation

mutual

/-- The relation asks the environment. -/
def asks : Relation → Bool
  | condition _ => true
  | all rs => asksAll rs
  | none | edge _ _ => false

/-- One of several relations asks the environment. -/
def asksAll : List Relation → Bool
  | [] => false
  | r :: rs => asks r || asksAll rs

end

section Answers

variable {ω : Type} {view : View} {ask : Condition → ω → Readiness × ω}

theorem pending_of_isReady {a : Readiness} (h : a.isReady = true) : a.pending = [] := by
  cases a with
  | ready => rfl
  | waiting ds => cases h

theorem edgeReady_ok {e : ElementId} {a : Readiness} (h : edgeReady view e = .ok a) :
    (view e = .ok true ∧ a = .ready) ∨
      view e = .ok false ∧ a = .waitingFor ("Waiting for dependency " ++ e) := by
  unfold edgeReady at h
  cases hv : view e with
  | error f => rw [hv] at h; cases h
  | ok b =>
    rw [hv] at h
    cases b with
    | true => exact .inl ⟨rfl, (Except.ok.inj h).symm⟩
    | false => exact .inr ⟨rfl, (Except.ok.inj h).symm⟩

mutual

/-- Where a relation has an answer its targets are known; nothing pending means that all are at
their goals; and where it waits, a target is not, or there is a condition in it. -/
theorem ready_ok (r : Relation) {w w' : ω} {a : Readiness}
    (h : r.ready view ask w = (.ok a, w')) :
    (∀ e ∈ r.targets, ∃ b, view e = .ok b) ∧
      (a.pending = [] → ∀ e ∈ r.targets, view e = .ok true) ∧
      (a.isReady = false → (∃ e ∈ r.targets, view e = .ok false) ∨ r.asks = true) := by
  cases r with
  | none =>
    obtain ⟨rfl, -⟩ : a = .ready ∧ w' = w := by simpa [ready, eq_comm] using h
    simp [targets, Readiness.isReady]
  | edge source target =>
    have hedge : edgeReady view target = .ok a := (Prod.mk.inj h).1
    rcases edgeReady_ok hedge with ⟨hv, rfl⟩ | ⟨hv, rfl⟩
    · simp [targets, hv, Readiness.isReady]
    · simp [targets, hv, Readiness.waitingFor, Readiness.pending]
  | condition c => simp [targets, asks]
  | all rs =>
    unfold ready at h
    cases hp : pendingOf view ask rs w with
    | mk answer w₁ =>
      rw [hp] at h
      cases answer with
      | error f => cases (Prod.mk.inj h).1
      | ok ps =>
        obtain ⟨rfl, -⟩ : a = allReady rs.length ps ∧ w' = w₁ := by
          simpa [eq_comm] using h
        obtain ⟨hknown, hdone, hwait⟩ := pendingOf_ok rs hp
        unfold targets asks
        -- The whole is ready exactly if none of the parts has anything pending.
        cases ps with
        | nil =>
          exact ⟨hknown, fun _ => hdone rfl, fun hr => by simp [allReady, Readiness.isReady] at hr⟩
        | cons d ds =>
          exact ⟨hknown, fun hr => by simp [allReady, Readiness.pending] at hr,
            fun _ => hwait (List.cons_ne_nil d ds)⟩

/-- The same of the members of a conjunction taken together. -/
theorem pendingOf_ok (rs : List Relation) {w w' : ω} {ps : List Diagnostic}
    (h : pendingOf view ask rs w = (.ok ps, w')) :
    (∀ e ∈ targetsAll rs, ∃ b, view e = .ok b) ∧
      (ps = [] → ∀ e ∈ targetsAll rs, view e = .ok true) ∧
      (ps ≠ [] → (∃ e ∈ targetsAll rs, view e = .ok false) ∨ asksAll rs = true) := by
  cases rs with
  | nil =>
    obtain ⟨rfl, -⟩ : ps = [] ∧ w' = w := by simpa [pendingOf, eq_comm] using h
    simp [targetsAll]
  | cons r rs =>
    unfold pendingOf at h
    cases hr : ready view ask r w with
    | mk answer w₁ =>
      rw [hr] at h
      cases answer with
      | error f => cases (Prod.mk.inj h).1
      | ok a =>
        simp only at h
        cases hrs : pendingOf view ask rs w₁ with
        | mk answers w₂ =>
          rw [hrs] at h
          cases answers with
          | error f => cases (Prod.mk.inj h).1
          | ok qs =>
            obtain ⟨rfl, -⟩ : ps = a.pending ++ qs ∧ w' = w₂ := by simpa [eq_comm] using h
            obtain ⟨hknown, hdone, hwait⟩ := ready_ok r hr
            obtain ⟨hknowns, hdones, hwaits⟩ := pendingOf_ok rs hrs
            unfold targetsAll asksAll
            refine ⟨fun e he => ?_, fun hnil e he => ?_, fun hne => ?_⟩
            · exact (List.mem_append.1 he).elim (hknown e) (hknowns e)
            · obtain ⟨ha, hq⟩ := List.append_eq_nil_iff.1 hnil
              exact (List.mem_append.1 he).elim (hdone ha e) (hdones hq e)
            · -- something waits: this relation, if none of the others does
              by_cases hq : qs = []
              · have ha : a.isReady = false := by
                  by_contra hready
                  rw [Bool.not_eq_false] at hready
                  exact hne (by rw [pending_of_isReady hready, hq]; rfl)
                rcases hwait ha with ⟨e, he, hv⟩ | hasks
                · exact .inl ⟨e, List.mem_append_left _ he, hv⟩
                · exact .inr (by rw [hasks]; rfl)
              · rcases hwaits hq with ⟨e, he, hv⟩ | hasks
                · exact .inl ⟨e, List.mem_append_right _ he, hv⟩
                · exact .inr (by rw [hasks, Bool.or_true])

end

mutual

/-- A relation that cannot be evaluated has a target that cannot be waited for. -/
theorem ready_error (r : Relation) {w w' : ω} {f : Fault}
    (h : r.ready view ask w = (.error f, w')) : ∃ e ∈ r.targets, view e = .error f := by
  cases r with
  | none => cases (Prod.mk.inj h).1
  | condition c => cases (Prod.mk.inj h).1
  | edge source target =>
    have hedge : edgeReady view target = .error f := (Prod.mk.inj h).1
    unfold edgeReady at hedge
    cases hv : view target with
    | error g =>
      rw [hv] at hedge
      exact ⟨target, by simp [targets], by rw [hv, Except.error.inj hedge]⟩
    | ok b => rw [hv] at hedge; cases b <;> cases hedge
  | all rs =>
    unfold ready at h
    cases hp : pendingOf view ask rs w with
    | mk answer w₁ =>
      rw [hp] at h
      cases answer with
      | ok ps => cases (Prod.mk.inj h).1
      | error g =>
        unfold targets
        obtain rfl := Except.error.inj (Prod.mk.inj h).1
        exact pendingOf_error rs hp

/-- A conjunction fails as one of its targets does. -/
theorem pendingOf_error (rs : List Relation) {w w' : ω} {f : Fault}
    (h : pendingOf view ask rs w = (.error f, w')) : ∃ e ∈ targetsAll rs, view e = .error f := by
  cases rs with
  | nil => cases (Prod.mk.inj h).1
  | cons r rs =>
    unfold pendingOf at h
    unfold targetsAll
    cases hr : ready view ask r w with
    | mk answer w₁ =>
      rw [hr] at h
      cases answer with
      | error g =>
        -- The first error decides; the relations after it are not asked.
        obtain rfl := Except.error.inj (Prod.mk.inj h).1
        obtain ⟨e, he, hv⟩ := ready_error r hr
        exact ⟨e, List.mem_append_left _ he, hv⟩
      | ok a =>
        simp only at h
        cases hrs : pendingOf view ask rs w₁ with
        | mk answers w₂ =>
          rw [hrs] at h
          cases answers with
          | ok qs => cases (Prod.mk.inj h).1
          | error g =>
            obtain rfl := Except.error.inj (Prod.mk.inj h).1
            obtain ⟨e, he, hv⟩ := pendingOf_error rs hrs
            exact ⟨e, List.mem_append_right _ he, hv⟩

end

end Answers

/-! ## Targets -/

/-- What has been seen is left out, and nothing else. -/
theorem mem_firsts {e : ElementId} (seen es : List ElementId) :
    e ∈ firsts seen es ↔ e ∈ es ∧ e ∉ seen := by
  induction es generalizing seen with
  | nil => simp [firsts]
  | cons x xs ih =>
    unfold firsts
    by_cases hx : x ∈ seen
    · rw [if_pos (by simpa using hx), ih, List.mem_cons]
      constructor
      · exact fun h => ⟨.inr h.1, h.2⟩
      · rintro ⟨rfl | he, hseen⟩
        · exact absurd hx hseen
        · exact ⟨he, hseen⟩
    · rw [if_neg (by simpa using hx), List.mem_cons, List.mem_cons, ih, List.mem_cons]
      constructor
      · rintro (rfl | ⟨he, hseen⟩)
        · exact ⟨.inl rfl, hx⟩
        · exact ⟨.inr he, fun h => hseen (.inr h)⟩
      · rintro ⟨rfl | he, hseen⟩
        · exact .inl rfl
        · by_cases hex : e = x
          · exact .inl hex
          · exact .inr ⟨he, fun h => h.elim hex hseen⟩

/-- The handles of a relation are the targets of its edges. -/
theorem mem_handles {r : Relation} {e : ElementId} : e ∈ r.handles ↔ e ∈ r.targets := by
  unfold handles
  rw [mem_firsts]
  simp

mutual

theorem length_targets_inverse (r : Relation) : r.inverse.targets.length = r.targets.length := by
  cases r with
  | all rs =>
    unfold inverse targets
    exact length_targetsAll_inverseAll rs
  | none => rfl
  | edge source target => rfl
  | condition c => rfl

theorem length_targetsAll_inverseAll (rs : List Relation) :
    (targetsAll (inverseAll rs)).length = (targetsAll rs).length := by
  cases rs with
  | nil => rfl
  | cons r rs =>
    unfold inverseAll targetsAll
    rw [List.length_append, List.length_append, length_targets_inverse r,
      length_targetsAll_inverseAll rs]

end

/-- A relation that has an edge has one when it is seen from the other side. -/
theorem exists_target_inverse {r : Relation} {e : ElementId} (h : e ∈ r.targets) :
    ∃ s, s ∈ r.inverse.targets := by
  have hpos : 0 < r.inverse.targets.length := by
    rw [length_targets_inverse]
    exact List.length_pos_of_mem h
  exact ⟨_, List.getElem_mem hpos⟩

/-- Every edge of the relation starts at one element. -/
def StartsAt (r : Relation) (e : ElementId) : Prop := ∀ s ∈ r.inverse.targets, s = e

theorem targetsAll_inverseAll_map_edge (source : ElementId) (es : List ElementId) :
    targetsAll (inverseAll (es.map (edge source))) = es.map fun _ => source := by
  induction es with
  | nil => rfl
  | cons e es ih =>
    rw [List.map_cons, inverseAll, targetsAll, inverse, targets, ih]
    rfl

theorem targetsAll_map_edge (source : ElementId) (es : List ElementId) :
    targetsAll (es.map (edge source)) = es := by
  induction es with
  | nil => rfl
  | cons e es ih =>
    rw [List.map_cons, targetsAll, targets, ih]
    rfl

/-- A dependency on other elements has handles on just these. -/
theorem mem_handles_dependsOn {source e : ElementId} {es : List ElementId} :
    e ∈ (dependsOn source es).handles ↔ e ∈ es := by
  rw [mem_handles]
  unfold dependsOn
  split
  · rfl
  · rw [targets, targetsAll_map_edge]

/-- A dependency on other elements starts at the element that has it. -/
theorem startsAt_dependsOn (source : ElementId) (es : List ElementId) :
    (dependsOn source es).StartsAt source := by
  intro s hs
  unfold dependsOn at hs
  split at hs
  · simpa [inverse, targets] using hs
  · rw [inverse, targets, targetsAll_inverseAll_map_edge] at hs
    simp only [List.mem_map] at hs
    obtain ⟨-, -, rfl⟩ := hs
    rfl

end Rollout.Relation
