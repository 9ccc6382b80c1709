import Mathlib.Data.List.Basic
import Mathlib.Data.List.Nodup
import Mathlib.Tactic.Common

/-!
# Tables

A table is a list of rows, each a key with a value, in which every key has at most one row.
-/

namespace Rollout

section

variable {α β : Type} [BEq α] [LawfulBEq α]

/-- Rows of a table are what looking up finds. -/
theorem lookup_eq_some_iff_mem {l : List (α × β)}
    (hl : (l.map (·.1)).Nodup) {a : α} {b : β} : l.lookup a = some b ↔ (a, b) ∈ l := by
  induction l with
  | nil => simp
  | cons e l ih =>
    rw [List.map_cons, List.nodup_cons] at hl
    rw [List.lookup_cons, List.mem_cons]
    by_cases h : a = e.1
    · have hnot : (a, b) ∉ l := fun hm => hl.1 (List.mem_map.2 ⟨(a, b), hm, h⟩)
      subst h
      simp [hnot, Prod.ext_iff, eq_comm]
    · have hb : (a == e.1) = false := by simpa using h
      have hne : (a, b) ≠ e := fun he => h (congrArg Prod.fst he)
      simp [hb, hne, ih hl.2]

/-- The keys of a table are those that looking up finds something for. -/
theorem isSome_lookup_iff_mem_keys {l : List (α × β)} {a : α} :
    (l.lookup a).isSome = true ↔ a ∈ l.map (·.1) := by
  rw [List.lookup_isSome_iff, List.mem_map]
  exact exists_congr fun row => and_congr_right fun _ => beq_iff_eq.trans eq_comm

/-- A table may be shuffled. -/
theorem lookup_perm {l l' : List (α × β)}
    (hl : (l.map (·.1)).Nodup) (h : l.Perm l') (a : α) : l.lookup a = l'.lookup a := by
  have hl' : (l'.map (·.1)).Nodup := ((h.map _).nodup_iff).1 hl
  apply Option.ext
  intro b
  rw [lookup_eq_some_iff_mem hl, lookup_eq_some_iff_mem hl', h.mem_iff]

/-- What is left when the row of one key is taken out. -/
theorem lookup_eraseP {l : List (α × β)}
    (hl : (l.map (·.1)).Nodup) (k a : α) :
    (l.eraseP (·.1 == k)).lookup a = if a == k then none else l.lookup a := by
  induction l with
  | nil => simp
  | cons e l ih =>
    rw [List.map_cons, List.nodup_cons] at hl
    by_cases h : e.1 = k
    · have hek : (e.1 == k) = true := by simpa using h
      rw [List.eraseP_cons, hek, cond_true, List.lookup_cons]
      by_cases ha : a = k
      · have hnone : l.lookup a = none := by
          rw [← Option.isNone_iff_eq_none, ← Option.isSome_eq_false_iff, ← Bool.not_eq_true,
            isSome_lookup_iff_mem_keys, ha, ← h]
          exact hl.1
        have hak : (a == k) = true := by simpa using ha
        rw [if_pos hak]
        exact hnone
      · have hae : (a == e.1) = false := by simpa [h] using ha
        simp [ha, hae]
    · have hek : (e.1 == k) = false := by simpa using h
      rw [List.eraseP_cons, hek, cond_false, List.lookup_cons, List.lookup_cons, ih hl.2]
      by_cases ha : a = e.1
      · simp [ha, h]
      · have hae : (a == e.1) = false := by simpa using ha
        rw [hae]

/-- What is left when the value of one key is changed. -/
theorem lookup_map_row (l : List (α × β)) (k a : α) (f : β → β) :
    (l.map fun e => if e.1 == k then (e.1, f e.2) else e).lookup a =
      (l.lookup a).map (if a == k then f else id) := by
  induction l with
  | nil => rfl
  | cons e l ih =>
    rw [List.map_cons, List.lookup_cons, List.lookup_cons, ih]
    by_cases ha : a = e.1
    · by_cases hk : a = k <;> simp [← ha, hk]
    · have hae : (a == e.1) = false := by simpa using ha
      by_cases hk : e.1 = k
      · have hak : (a == k) = false := by simpa [← hk] using ha
        simp [hk, hak]
      · simp [hk, hae]

end

/-- A row for a new key comes last, and shadows nothing. -/
theorem lookup_concat {α β : Type} [DecidableEq α] {l : List (α × β)} {a c : α} {b : β}
    (h : l.lookup a = none) :
    (l ++ [(a, b)]).lookup c = if c = a then some b else l.lookup c := by
  rw [List.lookup_append]
  by_cases hc : c = a
  · subst hc
    simp [h]
  · have hne : (c == a) = false := by simpa using hc
    simp [hc, List.lookup_cons, hne]

/-- What comes last has the next place, and all others keep theirs. -/
theorem getElem?_concat {α : Type} {l : List α} {x y : α} {n : ℕ} :
    (l ++ [x])[n]? = some y ↔ l[n]? = some y ∨ n = l.length ∧ y = x := by
  by_cases hn : n < l.length
  · rw [List.getElem?_append_left hn]
    simp [Nat.ne_of_lt hn]
  · rw [List.getElem?_append_right (Nat.le_of_not_lt hn),
      List.getElem?_eq_none (Nat.le_of_not_lt hn)]
    by_cases heq : n = l.length
    · simp [heq, eq_comm]
    · have hpos : n - l.length ≠ 0 := by omega
      rw [List.getElem?_eq_none (by simp; omega)]
      simp [heq]

end Rollout
