import Rollout.Text.LowerCase

/-!
# Duration: spans of time and their written form

A duration is a number of seconds and nanoseconds.  Plan files and the command line write it
as a number with a unit: milliseconds, seconds, minutes or hours, with optional blanks around
both and between them, the unit in letters of any case.
-/

namespace Rollout

/-- A span of time. -/
structure Duration where
  seconds : Nat
  nanos : Nat
  nanos_lt : nanos < 1000000000 := by omega
deriving DecidableEq, Repr

namespace Duration

/-- The empty span. -/
def zero : Duration := ⟨0, 0, by omega⟩

instance : Inhabited Duration := ⟨zero⟩

/-- A number of seconds and any number of nanoseconds. -/
def ofParts (seconds nanos : Nat) : Duration :=
  ⟨seconds + nanos / 1000000000, nanos % 1000000000, Nat.mod_lt _ (by omega)⟩

/-- A number of whole seconds. -/
def ofSeconds (n : Nat) : Duration := ⟨n, 0, by omega⟩

/-- A number of milliseconds. -/
def ofMillis (n : Nat) : Duration := ofParts (n / 1000) (n % 1000 * 1000000)

/-- The length in nanoseconds. -/
def toNanos (d : Duration) : Nat := d.seconds * 1000000000 + d.nanos

theorem toNanos_ofParts (s n : Nat) : (ofParts s n).toNanos = s * 1000000000 + n := by
  simp only [ofParts, toNanos]; omega

theorem toNanos_ofMillis (n : Nat) : (ofMillis n).toNanos = n * 1000000 := by
  simp only [ofMillis, toNanos_ofParts]; omega

theorem toNanos_ofSeconds (n : Nat) : (ofSeconds n).toNanos = n * 1000000000 := by
  simp [ofSeconds, toNanos]

/-- The length in milliseconds, what is left over dropped. -/
def toMillis (d : Duration) : Nat := d.toNanos / 1000000

/-- The span is empty. -/
def isZero (d : Duration) : Bool := d.seconds == 0 && d.nanos == 0

/-! ## Reading -/

/-- Why a text is not a duration. -/
inductive ParseError where
  /-- Nothing but blanks. -/
  | empty
  /-- Digits and nothing else. -/
  | missingUnit
  /-- No digit at the front. -/
  | noNumber
  /-- The digits stand for a number of more than sixty-four bits. -/
  | tooLarge (digits : String)
  /-- The unit, in small letters, is none of the four. -/
  | unknownUnit (unit : String)
deriving DecidableEq, Repr

/-- What is said about a text that is not a duration. -/
def ParseError.message : ParseError → String
  | .empty => "empty duration string"
  | .missingUnit => "duration missing unit suffix"
  | .noNumber => "invalid duration number '': cannot parse integer from empty string"
  | .tooLarge digits =>
    "invalid duration number '" ++ digits ++ "': number too large to fit in target type"
  | .unknownUnit unit =>
    "unsupported duration unit '" ++ unit ++ "'; expected ms, s, m, or h"

/-- The number that a list of decimal digits stands for. -/
def digitsValue (ds : List Char) : Nat :=
  ds.foldl (fun n d => 10 * n + (d.toNat - '0'.toNat)) 0

/-- The units a duration may be written in. -/
inductive TimeUnit where
  | millis
  | seconds
  | minutes
  | hours
deriving DecidableEq, Repr

/-- The unit with a given name in small letters. -/
def TimeUnit.ofName? : List Char → Option TimeUnit
  | ['m', 's'] => some .millis
  | ['s'] => some .seconds
  | ['m'] => some .minutes
  | ['h'] => some .hours
  | _ => none

/-- So many of a unit. -/
def ofUnit (n : Nat) : TimeUnit → Duration
  | .millis => ofMillis n
  | .seconds => ofSeconds n
  | .minutes => ofSeconds (n * 60)
  | .hours => ofSeconds (n * 3600)

/-- Read a duration such as `250ms`, `3s`, `1m` or `2h`. -/
def parse (text : String) : Except ParseError Duration :=
  let cs := Text.trim text.toList
  if cs.isEmpty then .error .empty
  else
    let digits := cs.takeWhile Char.isDigit
    let rest := cs.dropWhile Char.isDigit
    if rest.isEmpty then .error .missingUnit
    else if digits.isEmpty then .error .noNumber
    else if UInt64.size ≤ digitsValue digits then .error (.tooLarge (String.ofList digits))
    else
      let unit := Text.lower (Text.trim rest)
      match TimeUnit.ofName? unit with
      | some u => .ok (ofUnit (digitsValue digits) u)
      | none => .error (.unknownUnit (String.ofList unit))

end Duration

end Rollout
