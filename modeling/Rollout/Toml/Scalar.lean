import Rollout.Toml.Value
import Rollout.Toml.Quote

/-!
# Scalar: numbers, truth values and dates

A scalar without quotes is a word; what it is shows from its spelling alone.  `Scalar.ofWord?`
reads a word, and fails on one that is no scalar.
-/

namespace Rollout.Toml.Scalar

/-! ## Digits -/

/-- Digits, where single underscores may stand between two of them: the digits alone. -/
def ungroup (p : Char → Bool) : List Char → Option (List Char)
  | [] => none
  | [c] => if p c then some [c] else none
  | c :: '_' :: cs => if p c then (ungroup p cs).map (c :: ·) else none
  | c :: cs => if p c then (ungroup p cs).map (c :: ·) else none

/-- The number that digits stand for in a base. -/
def digitsIn (base : Nat) (ds : List Char) : Nat :=
  ds.foldl (fun n d => base * n + (Quote.hexDigit? d).getD 0) 0

/-- A digit in a base of at most sixteen. -/
def isDigitIn (base : Nat) (c : Char) : Bool := (Quote.hexDigit? c).any (· < base)

/-- Digits without a needless zero in front. -/
def noLeadingZero : List Char → Bool
  | '0' :: _ :: _ => false
  | _ => true

/-- A sign, if there is one: whether it is a minus, and the rest. -/
def sign : List Char → Bool × List Char
  | '-' :: cs => (true, cs)
  | '+' :: cs => (false, cs)
  | cs => (false, cs)

/-! ## Numbers -/

/-- A whole number in base two, eight or sixteen, without a sign. -/
def basedInteger? (base : Nat) (cs : List Char) : Option Value := do
  let ds ← ungroup (isDigitIn base) cs
  return .integer (digitsIn base ds)

/-- A whole number in base ten. -/
def decimalInteger? (cs : List Char) : Option Value := do
  let (negative, cs) := sign cs
  let ds ← ungroup Char.isDigit cs
  if noLeadingZero ds then
    let n : Int := digitsIn 10 ds
    return .integer (if negative then -n else n)
  else none

/-- A whole number. -/
def integer? : List Char → Option Value
  | '0' :: 'x' :: cs => basedInteger? 16 cs
  | '0' :: 'o' :: cs => basedInteger? 8 cs
  | '0' :: 'b' :: cs => basedInteger? 2 cs
  | cs => decimalInteger? cs

/-- The digits behind the point, if there is one, and what follows. -/
def fraction? : List Char → Option (Option (List Char) × List Char)
  | '.' :: cs => do
    let ds ← ungroup Char.isDigit (cs.takeWhile fun c => c.isDigit || c == '_')
    return (some ds, cs.dropWhile fun c => c.isDigit || c == '_')
  | cs => some (none, cs)

/-- The power of ten, if one is given; nothing may follow. -/
def exponent? : List Char → Option (Option Int)
  | [] => some none
  | c :: cs => do
    if c == 'e' || c == 'E' then
      let (negative, cs) := sign cs
      let n : Int := digitsIn 10 (← ungroup Char.isDigit cs)
      return some (if negative then -n else n)
    else none

/-- A floating-point number: digits with a fraction, a power of ten, or both. -/
def decimal? (negative : Bool) (cs : List Char) : Option Value := do
  let whole ← ungroup Char.isDigit (cs.takeWhile fun c => c.isDigit || c == '_')
  let (fraction, rest) ← fraction? (cs.dropWhile fun c => c.isDigit || c == '_')
  let power ← exponent? rest
  if (fraction.isSome || power.isSome) && noLeadingZero whole then
    let below := fraction.getD []
    return .real (.decimal negative (digitsIn 10 (whole ++ below))
      (power.getD 0 - below.length))
  else none

/-- A floating-point number, the special ones included. -/
def real? (cs : List Char) : Option Value :=
  let (negative, cs) := sign cs
  match cs with
  | ['i', 'n', 'f'] => some (.real (.infinity negative))
  | ['n', 'a', 'n'] => some (.real .nan)
  | cs => decimal? negative cs

/-! ## Dates and times of day -/

/-- A number of exactly two digits within bounds, and what follows. -/
def twoDigits? (least greatest : Nat) : List Char → Option (Nat × List Char)
  | a :: b :: cs =>
    let n := digitsIn 10 [a, b]
    if a.isDigit && b.isDigit && least ≤ n && n ≤ greatest then some (n, cs) else none
  | _ => none

/-- The number of days of a month. -/
def daysOf (year month : Nat) : Nat :=
  if month = 2 then
    if year % 4 = 0 ∧ (year % 100 ≠ 0 ∨ year % 400 = 0) then 29 else 28
  else if month = 4 ∨ month = 6 ∨ month = 9 ∨ month = 11 then 30
  else 31

/-- What follows a date. -/
def afterDate? : List Char → Option (List Char)
  | a :: b :: c :: d :: '-' :: cs => do
    if [a, b, c, d].all Char.isDigit then
      let (month, cs) ← twoDigits? 1 12 cs
      match cs with
      | '-' :: cs => return (← twoDigits? 1 (daysOf (digitsIn 10 [a, b, c, d]) month) cs).2
      | _ => none
    else none
  | _ => none

/-- What follows the seconds, if they are given, with or without a fraction. -/
def afterSeconds? : List Char → Option (List Char)
  | ':' :: cs => do
    match (← twoDigits? 0 60 cs).2 with
    | '.' :: c :: cs => if c.isDigit then some (cs.dropWhile Char.isDigit) else none
    | '.' :: [] => none
    | cs => some cs
  | cs => some cs

/-- What follows hours and minutes. -/
def afterMinutes? (cs : List Char) : Option (List Char) := do
  match (← twoDigits? 0 23 cs).2 with
  | ':' :: cs => return (← twoDigits? 0 59 cs).2
  | _ => none

/-- What follows a time of day. -/
def afterTime? (cs : List Char) : Option (List Char) := afterMinutes? cs >>= afterSeconds?

/-- The rest is a distance from universal time, or nothing. -/
def isZone : List Char → Bool
  | [] | ['Z'] | ['z'] => true
  | c :: cs => (c == '+' || c == '-') && afterMinutes? cs == some []

/-- The word is a date, a time of day, or both. -/
def isMoment (cs : List Char) : Bool :=
  match afterDate? cs with
  | some [] => true
  | some (c :: cs) => (c == 'T' || c == 't' || c == ' ') && (afterTime? cs).any isZone
  | none => afterTime? cs == some []

/-! ## Words -/

/-- The scalar that a word spells. -/
def ofWord? (cs : List Char) : Option Value :=
  if cs = "true".toList then some (.boolean true)
  else if cs = "false".toList then some (.boolean false)
  else if isMoment cs then some (.moment (String.ofList cs))
  else (integer? cs).or (real? cs)

/-- A character that a word can go on with. -/
def continuesWord (c : Char) : Bool := c.isAlphanum || "+-_.:".toList.contains c

/-- Take a word.  A blank belongs to it where a date stands before and a time of day behind. -/
def word : Reader (List Char) := do
  let w ← Reader.run continuesWord
  match ← Reader.rest with
  | ' ' :: c :: cs =>
    if afterDate? w == some [] && c.isDigit then
      set (c :: cs)
      return w ++ ' ' :: (← Reader.run continuesWord)
    else return w
  | _ => return w

/-- Take a scalar without quotes. -/
def value : Reader Value := do
  match ofWord? (← word) with
  | some v => return v
  | none => failure

end Rollout.Toml.Scalar
