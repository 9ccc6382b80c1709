import Mathlib.Data.List.Induction
import Mathlib.Data.List.TakeWhile
import Mathlib.Data.Nat.Digits.Defs
import Mathlib.Tactic.Common
import Rollout.Duration
import Rollout.Proofs.Text.Trimming

/-!
# Which texts are durations

A text is read as a duration if and only if it consists, apart from white space at its ends, of
digits for a number of at most sixty-four bits, of white space or nothing, and of a name that is the
name of a unit once it is in small letters (`parse_reads_spellings`).

The number ends in front of the first character that is no digit.  Digits take one octet each, and
so the place of this character among the characters is its place among the octets as well
(`number_of_findIdx?`).
-/

namespace Rollout.Duration

/-! ## Spellings -/

/-- The name of a unit in small letters. -/
def TimeUnit.name : TimeUnit → String
  | .millis => "ms"
  | .seconds => "s"
  | .minutes => "m"
  | .hours => "h"

/-- The length of a unit in nanoseconds. -/
def TimeUnit.nanos : TimeUnit → ℕ
  | .millis => 1000000
  | .seconds => 1000000000
  | .minutes => 60 * 1000000000
  | .hours => 3600 * 1000000000

/-- So many of a unit are a number of seconds of at most sixty-four bits. -/
def TimeUnit.Fits (n : ℕ) : TimeUnit → Prop
  | .millis | .seconds => True
  | .minutes => n * 60 < 2 ^ 64
  | .hours => n * 3600 < 2 ^ 64

/-- What a digit stands for. -/
def digitValue (c : Char) : ℕ := c.toNat - '0'.toNat

/-- `digits` for the number `n`, white space or nothing in `gap`, and a name of the unit `u` in
letters of any case. -/
structure Spelling (digits gap name : List Char) (n : ℕ) (u : TimeUnit) : Prop where
  digits_ne_nil : digits ≠ []
  isDigit : ∀ c ∈ digits, c.isDigit = true
  value : n = Nat.ofDigits 10 (digits.reverse.map digitValue)
  isBlank : ∀ c ∈ gap, Text.isBlank c = true
  lower_eq : Text.lower name = u.name.toList

/-- The text is made up of digits, white space and a name. -/
def Spells (cs : List Char) (n : ℕ) (u : TimeUnit) : Prop :=
  ∃ digits gap name, cs = digits ++ (gap ++ name) ∧ Spelling digits gap name n u

theorem ofName?_eq_some_iff {cs : List Char} {u : TimeUnit} :
    TimeUnit.ofName? cs = some u ↔ cs = u.name.toList := by
  constructor
  · intro h
    unfold TimeUnit.ofName? at h
    split at h
    all_goals first | cases h; rfl | cases h
  · rintro rfl
    cases u <;> rfl

/-- The value of a numeral is the sum of its digits, each times the power of ten for its place. -/
theorem digitsValue_eq (ds : List Char) :
    digitsValue ds = Nat.ofDigits 10 (ds.reverse.map digitValue) := by
  induction ds using List.reverseRecOn with
  | nil => rfl
  | append_singleton ds d ih =>
    have hlast : digitsValue (ds ++ [d]) = 10 * digitsValue ds + digitValue d := by
      unfold digitsValue
      rw [List.foldl_append]
      rfl
    rw [hlast, ih, List.reverse_append, List.map_append]
    simp [Nat.ofDigits_cons, Nat.add_comm]

theorem toNanos_ofUnit (n : ℕ) (u : TimeUnit) : (ofUnit n u).toNanos = n * u.nanos := by
  cases u with
  | millis => exact toNanos_ofMillis n
  | seconds => exact toNanos_ofSeconds n
  | minutes => simp only [ofUnit, toNanos_ofSeconds, TimeUnit.nanos]; omega
  | hours => simp only [ofUnit, toNanos_ofSeconds, TimeUnit.nanos]; omega

namespace Spelling

variable {digits gap name : List Char} {n : ℕ} {u : TimeUnit} {c : Char}

/-- Whatever has no case stands in the name of the unit itself. -/
theorem mem_name (h : Spelling digits gap name n u) (hc : c ∈ name) (hcase : Text.Caseless c) :
    c ∈ u.name.toList :=
  h.lower_eq ▸ Text.mem_lower hcase hc

/-- Characters of a kind that have no case are in no name if they are in none of the names in small
letters. -/
theorem eq_false_of_mem_name (h : Spelling digits gap name n u) {kind : Char → Bool}
    (hcase : ∀ c, kind c = true → Text.Caseless c)
    (hnone : ∀ u : TimeUnit, u.name.toList.all (!kind ·) = true) (hc : c ∈ name) :
    kind c = false := by
  by_contra hkind
  rw [Bool.not_eq_false] at hkind
  have hmem := h.mem_name hc (hcase c hkind)
  have hletter := List.all_eq_true.1 (hnone u) c hmem
  rw [hkind] at hletter
  cases hletter

theorem not_isBlank_name (h : Spelling digits gap name n u) (hc : c ∈ name) :
    Text.isBlank c = false := by
  refine h.eq_false_of_mem_name (fun _ => Text.caseless_of_isBlank) (fun u => ?_) hc
  cases u <;> decide

theorem not_isDigit_rest (h : Spelling digits gap name n u) (hc : c ∈ gap ++ name) :
    c.isDigit = false := by
  rcases List.mem_append.1 hc with hc | hc
  · exact Text.not_isDigit_of_isBlank (h.isBlank c hc)
  · refine h.eq_false_of_mem_name (fun _ => Text.caseless_of_isDigit) (fun u => ?_) hc
    cases u <;> decide

/-- The digits end where the white space or the name begins. -/
theorem takeWhile_eq (h : Spelling digits gap name n u) :
    (digits ++ (gap ++ name)).takeWhile Char.isDigit = digits := by
  have hrest : (gap ++ name).takeWhile Char.isDigit = [] :=
    List.takeWhile_eq_nil_iff.2 fun _ => by simp [h.not_isDigit_rest (List.getElem_mem _)]
  rw [List.takeWhile_append_of_pos h.isDigit, hrest, List.append_nil]

theorem dropWhile_eq (h : Spelling digits gap name n u) :
    (digits ++ (gap ++ name)).dropWhile Char.isDigit = gap ++ name := by
  have hall := @List.takeWhile_append_dropWhile _ Char.isDigit (digits ++ (gap ++ name))
  rw [h.takeWhile_eq] at hall
  exact List.append_cancel_left hall

theorem trim_eq (h : Spelling digits gap name n u) : Text.trim (gap ++ name) = name := by
  unfold Text.trim
  rw [Text.trimLeft_append h.isBlank, Text.trimLeft_of_head?, Text.trimRight_of_getLast?]
  · exact fun c hc => h.not_isBlank_name (List.mem_of_getLast? hc)
  · exact fun c hc => h.not_isBlank_name (List.mem_of_head? hc)

end Spelling

/-! ## What is read -/

/-- A trimmed text spells a duration exactly if its digits and what is behind them do. -/
theorem spells_trim_iff {cs : List Char} {n : ℕ} {u : TimeUnit} :
    Spells (Text.trim cs) n u ↔
      (Text.trim cs).takeWhile Char.isDigit ≠ [] ∧
        n = digitsValue ((Text.trim cs).takeWhile Char.isDigit) ∧
        Text.lower (Text.trim ((Text.trim cs).dropWhile Char.isDigit)) = u.name.toList := by
  constructor
  · rintro ⟨digits, gap, name, hcs, h⟩
    rw [hcs, h.takeWhile_eq, h.dropWhile_eq, h.trim_eq]
    exact ⟨h.digits_ne_nil, by rw [digitsValue_eq]; exact h.value, h.lower_eq⟩
  · rintro ⟨hne, hvalue, hlower⟩
    set digits := (Text.trim cs).takeWhile Char.isDigit with hdigits
    set rest := (Text.trim cs).dropWhile Char.isDigit with hrest
    have hcs : Text.trim cs = digits ++ rest := List.takeWhile_append_dropWhile.symm
    have hgap : rest = rest.takeWhile Text.isBlank ++ Text.trimLeft rest :=
      List.takeWhile_append_dropWhile.symm
    -- The text has been trimmed, and so there is nothing to trim behind the name.
    have hname : Text.trim rest = Text.trimLeft rest := by
      refine Text.trimRight_of_getLast? fun c hc => ?_
      have hlast : (Text.trim cs).getLast? = some c := by
        rw [hcs, hgap, ← List.append_assoc, List.getLast?_append, hc]
        rfl
      exact Text.not_isBlank_of_getLast?_trim hlast
    refine ⟨digits, rest.takeWhile Text.isBlank, Text.trimLeft rest, hgap ▸ hcs, hne, ?_, ?_, ?_,
      ?_⟩
    · exact fun c hc => List.mem_takeWhile_imp hc
    · rw [hvalue, digitsValue_eq]
    · exact fun c hc => List.mem_takeWhile_imp hc
    · rw [← hname, hlower]

/-- What a number and a unit are read as, once they have been cut apart. -/
def readParts (number unit : List Char) : Except ParseError Duration :=
  if number.isEmpty then .error .noNumber
  else if UInt64.size ≤ digitsValue number then .error (.tooLarge (String.ofList number))
  else
    match TimeUnit.ofName? (Text.lower (Text.trim unit)) with
    | some u => .ok (ofUnit (digitsValue number) u)
    | none => .error (.unknownUnit (String.ofList (Text.lower (Text.trim unit))))

theorem readParts_eq_ok_iff {number unit : List Char} {d : Duration} :
    readParts number unit = .ok d ↔ number ≠ [] ∧ digitsValue number < 2 ^ 64 ∧
      ∃ u, Text.lower (Text.trim unit) = u.name.toList ∧ d = ofUnit (digitsValue number) u := by
  have hsize : UInt64.size = 2 ^ 64 := rfl
  simp only [← ofName?_eq_some_iff]
  unfold readParts
  by_cases hnumber : number = []
  · simp [hnumber]
  · rw [if_neg (by simpa using hnumber)]
    by_cases hlarge : UInt64.size ≤ digitsValue number
    · rw [if_pos hlarge]
      exact iff_of_false nofun fun h => absurd h.2.1 (by omega)
    · rw [if_neg hlarge]
      cases TimeUnit.ofName? (Text.lower (Text.trim unit)) with
      | none => simp
      | some u =>
        simp only [Except.ok.injEq, Option.some.injEq]
        constructor
        · rintro rfl
          exact ⟨hnumber, by omega, u, rfl, rfl⟩
        · rintro ⟨-, -, u', rfl, rfl⟩
          rfl

/-- What is read is what the digits and the characters behind them are read as, if there are any
characters behind them. -/
theorem parse_eq_readParts {text : String}
    (h : (Text.trim text.toList).dropWhile Char.isDigit ≠ []) :
    parse text = readParts ((Text.trim text.toList).takeWhile Char.isDigit)
      ((Text.trim text.toList).dropWhile Char.isDigit) := by
  have hne : Text.trim text.toList ≠ [] := by
    intro hnil
    rw [hnil] at h
    exact h rfl
  unfold parse
  simp only
  rw [if_neg (by simpa using hne), if_neg (by simpa using h)]
  rfl

theorem parse_eq_ok_iff {text : String} {d : Duration} : parse text = .ok d ↔
    ∃ n u, Spells (Text.trim text.toList) n u ∧ n < 2 ^ 64 ∧ d = ofUnit n u := by
  simp only [spells_trim_iff]
  by_cases hrest : (Text.trim text.toList).dropWhile Char.isDigit = []
  · -- There is no unit behind the digits.
    refine iff_of_false (fun hok => ?_) ?_
    · unfold parse at hok
      simp only [hrest, List.isEmpty_nil, if_true] at hok
      split at hok <;> cases hok
    · rintro ⟨n, u, ⟨-, -, hlower⟩, -⟩
      rw [hrest] at hlower
      cases u <;> cases hlower
  · rw [parse_eq_readParts hrest, readParts_eq_ok_iff]
    constructor
    · rintro ⟨hne, hfits, u, hlower, rfl⟩
      exact ⟨_, u, ⟨hne, rfl, hlower⟩, hfits, rfl⟩
    · rintro ⟨n, u, ⟨hne, rfl, hlower⟩, hfits, rfl⟩
      exact ⟨hne, hfits, u, hlower, rfl⟩

/-! ## Where the number ends -/

/-- Digits take one octet each. -/
theorem utf8ByteSize_of_isDigit {ds : List Char} (h : ∀ c ∈ ds, c.isDigit = true) :
    (String.ofList ds).utf8ByteSize = ds.length := by
  induction ds with
  | nil => rfl
  | cons c ds ih =>
    obtain ⟨hle, hge⟩ := Char.isDigit_iff_toNat.1 (h c List.mem_cons_self)
    have hsize : c.utf8Size = 1 := by
      rw [Char.utf8Size_eq_one_iff, UInt32.le_iff_toNat_le]
      exact hge.trans (by decide)
    rw [String.ofList_cons, String.utf8ByteSize_append, String.utf8ByteSize_singleton, hsize,
      ih fun c' hc' => h c' (List.mem_cons_of_mem _ hc'), List.length_cons, Nat.add_comm]

/-- The place of the first character that is no digit is the number of octets before it. -/
theorem number_of_findIdx? {cs : List Char} {i : ℕ}
    (h : cs.findIdx? (fun c => !c.isDigit) = some i) :
    (String.ofList (cs.takeWhile Char.isDigit)).utf8ByteSize = i ∧
      cs.dropWhile Char.isDigit ≠ [] := by
  obtain ⟨hlt, hi⟩ := List.findIdx?_eq_some_iff_findIdx_eq.1 h
  have hlength : (cs.takeWhile Char.isDigit).length = i := by
    rw [List.takeWhile_eq_take_findIdx_not, List.length_take, hi]
    omega
  refine ⟨?_, fun hnil => ?_⟩
  · rw [utf8ByteSize_of_isDigit fun c hc => List.mem_takeWhile_imp hc, hlength]
  · have hall := congrArg List.length (@List.takeWhile_append_dropWhile _ Char.isDigit cs)
    rw [hnil, List.append_nil, hlength] at hall
    omega

/-- A text is read as a duration if and only if it spells one with a number of at most sixty-four
bits, and then as so many of the unit, provided that there is room for the seconds.  The place of
the first character that is no digit, counted in characters, lies between two characters when octets
are counted, and what is read are the parts of the text before and behind it. -/
theorem parse_reads_spellings (text : String) :
    ((∃ d, parse text = .ok d) ↔ ∃ n u, Spells (Text.trim text.toList) n u ∧ n < 2 ^ 64) ∧
      (∀ n u, Spells (Text.trim text.toList) n u → n < 2 ^ 64 → u.Fits n →
        ∃ d, parse text = .ok d ∧ d.toNanos = n * u.nanos) ∧
      ∀ i, (Text.trim text.toList).findIdx? (fun c => !c.isDigit) = some i →
        String.Pos.Raw.IsValid (String.ofList (Text.trim text.toList)) ⟨i⟩ ∧
          ∃ number unit : String, String.ofList (Text.trim text.toList) = number ++ unit ∧
            number.utf8ByteSize = i ∧ parse text = readParts number.toList unit.toList := by
  refine ⟨?_, fun n u hspells hlt _ => ?_, fun i hi => ?_⟩
  · simp only [parse_eq_ok_iff]
    constructor
    · rintro ⟨d, n, u, hspells, hlt, -⟩
      exact ⟨n, u, hspells, hlt⟩
    · rintro ⟨n, u, hspells, hlt⟩
      exact ⟨_, n, u, hspells, hlt, rfl⟩
  · exact ⟨_, parse_eq_ok_iff.2 ⟨n, u, hspells, hlt, rfl⟩, toNanos_ofUnit n u⟩
  · obtain ⟨hsize, hrest⟩ := number_of_findIdx? hi
    have hparts : String.ofList (Text.trim text.toList) =
        String.ofList ((Text.trim text.toList).takeWhile Char.isDigit) ++
          String.ofList ((Text.trim text.toList).dropWhile Char.isDigit) := by
      rw [← String.ofList_append, List.takeWhile_append_dropWhile]
    refine ⟨?_, _, _, hparts, hsize, ?_⟩
    · exact String.Pos.Raw.isValid_iff_exists_append.2
        ⟨_, _, hparts, String.Pos.Raw.ext hsize.symm⟩
    · rw [String.toList_ofList, String.toList_ofList, parse_eq_readParts hrest]

/-- Zeros in front, white space of any script and capital letters make no difference. -/
theorem padded_millis_are_read :
    ∃ d, parse "\u3000 0250\u00a0mS\n" = .ok d ∧ d.toNanos = 250000000 := by
  refine (parse_reads_spellings _).2.1 250 .millis ⟨"0250".toList, ['\u00a0'], "mS".toList, ?_, ?_⟩
    (by decide) trivial
  · decide
  · exact ⟨by decide, List.all_eq_true.1 (by decide), by decide, List.all_eq_true.1 (by decide),
      by decide⟩

end Rollout.Duration
