import Rollout.Text.Blank

/-!
# Value: what a TOML document holds

Numbers are kept exactly as written.  Whether one is small enough for a machine number is a
question of its own (`Value.isReadable`): a document may hold larger ones, but nobody can read
them.
-/

namespace Rollout.Toml

/-- A floating-point number as written. -/
inductive Real where
  /-- A sign, digits, and a power of ten. -/
  | decimal (negative : Bool) (mantissa : Nat) (exponent : Int)
  | infinity (negative : Bool)
  | nan
deriving DecidableEq, Repr, Inhabited

/-- A value. -/
inductive Value where
  | text (s : String)
  | integer (n : Int)
  | real (x : Real)
  | boolean (b : Bool)
  /-- A date, a time of day, or both, as written. -/
  | moment (s : String)
  | array (items : List Value)
  | table (entries : List (String × Value))
deriving Repr, Inhabited

/-- A table, by its entries in order. -/
abbrev Table := List (String × Value)

/-- The least number that is rounded to infinity in double precision. -/
def overflowThreshold : Nat := Nat.pow 2 1024 - Nat.pow 2 970

/-- The number is beyond double precision.  Numbers of digits far from the limit are told by
their length alone. -/
def Real.overflows : Real → Bool
  | decimal _ mantissa exponent =>
    let places := ((Nat.toDigits 10 mantissa).length : Int) + exponent
    if mantissa = 0 || places < 300 then false
    else if 320 < places then true
    else if 0 ≤ exponent then overflowThreshold ≤ mantissa * Nat.pow 10 exponent.toNat
    else overflowThreshold * Nat.pow 10 (-exponent).toNat ≤ mantissa
  | infinity _ | nan => false

namespace Value

mutual

/-- Every number in the value fits some machine number: a hundred and twenty-eight bits, or
double precision. -/
def isReadable : Value → Bool
  | integer n => -(Nat.pow 2 127 : Int) ≤ n && n < Nat.pow 2 128
  | real x => !x.overflows
  | array items => allReadable items
  | table entries => allReadableEntries entries
  | text _ | boolean _ | moment _ => true

/-- Every member of an array is readable. -/
def allReadable : List Value → Bool
  | [] => true
  | v :: vs => isReadable v && allReadable vs

/-- Every entry of a table is readable. -/
def allReadableEntries : List (String × Value) → Bool
  | [] => true
  | (_, v) :: es => isReadable v && allReadableEntries es

end

end Value

end Rollout.Toml
