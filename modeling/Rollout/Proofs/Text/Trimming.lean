import Mathlib.Data.List.Basic
import Mathlib.Tactic.Common
import Rollout.Text.LowerCase

/-!
# What trimming and lower-casing leave alone

Trimming changes nothing about a text that begins and ends with something other than white space,
and what it leaves is such a text.  White space and digits have no case: they are in the lower case
of every text that they are in (`mem_lower`).
-/

namespace Rollout.Text

variable {c : Char} {cs ds : List Char}

/-! ## Trimming -/

theorem trimLeft_of_head? (h : ∀ c, cs.head? = some c → isBlank c = false) : trimLeft cs = cs := by
  cases cs with
  | nil => rfl
  | cons c cs => exact List.dropWhile_cons_of_neg (by simp [h c rfl])

theorem trimRight_of_getLast? (h : ∀ c, cs.getLast? = some c → isBlank c = false) :
    trimRight cs = cs := by
  unfold trimRight
  have hreverse : trimLeft cs.reverse = cs.reverse :=
    trimLeft_of_head? fun c hc => h c (by rwa [List.head?_reverse] at hc)
  exact (congrArg List.reverse hreverse).trans cs.reverse_reverse

/-- What is left of a text does not end with white space. -/
theorem not_isBlank_of_getLast?_trim (h : (trim cs).getLast? = some c) : isBlank c = false := by
  have hhead := List.head?_dropWhile_not isBlank (trimLeft cs).reverse
  unfold trim trimRight at h
  rw [List.getLast?_reverse] at h
  rw [h] at hhead
  exact hhead

theorem trimLeft_append (h : ∀ c ∈ ds, isBlank c = true) : trimLeft (ds ++ cs) = trimLeft cs :=
  List.dropWhile_append_of_pos h

/-! ## Letters without case -/

/-- The character is its own lower case, wherever it stands. -/
def Caseless (c : Char) : Prop := c.toNat ≠ 0x3A3 ∧ lowerChar c = [c]

theorem mem_lowerFrom (hc : Caseless c) (h : c ∈ cs) (before : List Char) :
    c ∈ lowerFrom before cs := by
  induction cs generalizing before with
  | nil => cases h
  | cons d cs ih =>
    unfold lowerFrom
    rcases List.mem_cons.1 h with rfl | h
    · exact List.mem_append_left _ (by rw [if_neg hc.1, hc.2]; exact List.mem_cons_self)
    · exact List.mem_append_right _ (ih h _)

theorem mem_lower (hc : Caseless c) (h : c ∈ cs) : c ∈ lower cs := mem_lowerFrom hc h []

/-- The code point has a lower case of its own. -/
def hasLower (n : ℕ) : Bool := n == 0x3A3 || n == 0x130 || (lowerRuns.find? (·.covers n)).isSome

theorem caseless_of_hasLower (h : hasLower c.toNat = false) : Caseless c := by
  unfold hasLower at h
  simp only [Bool.or_eq_false_iff, beq_eq_false_iff_ne, Option.isSome_eq_false_iff,
    Option.isNone_iff_eq_none] at h
  obtain ⟨⟨hsigma, hdotted⟩, hnone⟩ := h
  refine ⟨hsigma, ?_⟩
  unfold lowerChar
  rw [if_neg hdotted, hnone]

/-- What holds of every code point in the table of white space holds of white space. -/
theorem forall_of_isBlank {P : ℕ → Prop} (h : isBlank c = true)
    (htable : ∀ r ∈ blankRanges, ∀ n ∈ List.range' r.1 (r.2 + 1 - r.1), P n) : P c.toNat := by
  obtain ⟨r, hr, hrange⟩ := List.any_eq_true.1 h
  rw [Bool.and_eq_true, decide_eq_true_eq, decide_eq_true_eq] at hrange
  exact htable r hr _ (List.mem_range'_1.2 (by omega))

theorem caseless_of_isBlank (h : isBlank c = true) : Caseless c :=
  caseless_of_hasLower (forall_of_isBlank (P := fun n => hasLower n = false) h (by decide))

theorem not_isDigit_of_isBlank (h : isBlank c = true) : c.isDigit = false := by
  have hout : ¬(48 ≤ c.toNat ∧ c.toNat ≤ 57) :=
    forall_of_isBlank (P := fun n => ¬(48 ≤ n ∧ n ≤ 57)) h (by decide)
  rw [Bool.eq_false_iff]
  exact fun hdigit => hout (Char.isDigit_iff_toNat.1 hdigit)

theorem caseless_of_isDigit (h : c.isDigit = true) : Caseless c := by
  have htable : ∀ n ∈ List.range' 48 10, hasLower n = false := by decide
  obtain ⟨hle, hge⟩ := Char.isDigit_iff_toNat.1 h
  have hzero : '0'.toNat = 48 := rfl
  have hnine : '9'.toNat = 57 := rfl
  exact caseless_of_hasLower (htable _ (List.mem_range'_1.2 (by omega)))

end Rollout.Text
