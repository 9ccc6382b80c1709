/-!
# Shortest: a double-precision number by the fewest digits that read back

`Binary64` is a positive number `mantissa · 2 ^ exponent` with at most 53 bits (or zero), well
inside the range of the format, so that neither overflow nor gradual underflow arises.
`Binary64.round` takes a quotient to the nearest such number, ties to the even mantissa.

`Binary64.shortest` finds the digits: for one digit, two digits, and so on it looks at the two
neighbours of the number on the grid of that many digits and stops at the first grid with a
neighbour that rounds back to the number.  All arithmetic is on natural numbers, every quantity
being multiplied by a common denominator.
-/

namespace Rollout.Decimal

/-- A number of the form `mantissa · 2 ^ exponent`. -/
structure Binary64 where
  mantissa : Nat
  exponent : Int
deriving DecidableEq, Repr

namespace Binary64

/-- Zero. -/
def zero : Binary64 := ⟨0, 0⟩

/-- Numerator and denominator of the number. -/
def fraction (x : Binary64) : Nat × Nat :=
  if 0 ≤ x.exponent then (x.mantissa * Nat.pow 2 x.exponent.toNat, 1)
  else (x.mantissa, Nat.pow 2 (-x.exponent).toNat)

/-- Half to even: the quotient `num / den` as a whole number. -/
def divRound (num den : Nat) : Nat :=
  let q := num / den
  let r := num % den
  if 2 * r < den then q else if den < 2 * r then q + 1 else if q % 2 = 0 then q else q + 1

/-- `num / den` scaled by `2 ^ -e`, as numerator and denominator. -/
def scale (num den : Nat) (e : Int) : Nat × Nat :=
  if 0 ≤ e then (num, den * Nat.pow 2 e.toNat) else (num * Nat.pow 2 (-e).toNat, den)

/-- The nearest number of 53 bits to `num / den`, for a positive denominator. -/
def round (num den : Nat) : Binary64 :=
  if num = 0 then zero
  else
    let guess : Int := (Nat.log2 num : Int) - (Nat.log2 den : Int) - 52
    let (n, d) := scale num den guess
    -- the guess leaves a quotient between 2 ^ 51 and 2 ^ 53
    let e := if n / d < Nat.pow 2 52 then guess - 1 else guess
    let (n, d) := scale num den e
    let m := divRound n d
    if m = Nat.pow 2 53 then ⟨Nat.pow 2 52, e + 1⟩ else ⟨m, e⟩

/-- The sum, rounded. -/
def add (x y : Binary64) : Binary64 :=
  let (a, b) := x.fraction
  let (c, d) := y.fraction
  round (a * d + c * b) (b * d)

/-- The quotient of two whole numbers, rounded. -/
def ofQuotient (num den : Nat) : Binary64 := round num den

/-! ## Shortest digits -/

/-- The decimal digits `digits` followed by `exponent` zeros (or shifted behind the point). -/
structure Digits where
  digits : Nat
  exponent : Int
deriving DecidableEq, Repr

/-- Numerator and denominator of a decimal number. -/
def Digits.fraction (d : Digits) : Nat × Nat :=
  if 0 ≤ d.exponent then (d.digits * Nat.pow 10 d.exponent.toNat, 1)
  else (d.digits, Nat.pow 10 (-d.exponent).toNat)

/-- The decimal number rounds back to `x`: it lies in the interval between the midpoints to the
two neighbours of `x`, the ends included iff the mantissa is even.  Below a power of two the
neighbour is half as far away.  The three quantities compared are multiples of a quarter of the
last place. -/
def readsBack (x : Binary64) (d : Digits) : Bool :=
  let (un, ud) := (⟨1, x.exponent - 2⟩ : Binary64).fraction
  let (dn, dd) := d.fraction
  let below := (4 * x.mantissa - (if x.mantissa = Nat.pow 2 52 then 1 else 2)) * un * dd
  let here := dn * ud
  let above := (4 * x.mantissa + 2) * un * dd
  if x.mantissa % 2 = 0 then below ≤ here && here ≤ above else below < here && here < above

/-- The decimal exponent of the leading digit of `num / den`: the largest `k` with
`10 ^ k ≤ num / den`, found by counting down from above. -/
def leadingExponent (num den : Nat) : Nat → Int → Int
  | 0, k => k
  | fuel + 1, k =>
    let fits := if 0 ≤ k then den * Nat.pow 10 k.toNat ≤ num else den ≤ num * Nat.pow 10 (-k).toNat
    if fits then k else leadingExponent num den fuel (k - 1)

/-- The best of the two neighbours of `x` on the grid of numbers with `count` digits. -/
def onGrid (x : Binary64) (lead : Int) (count : Nat) : Option Digits :=
  let (n, d) := x.fraction
  let e : Int := lead - count + 1
  let (gn, gd) := if 0 ≤ e then (n, d * Nat.pow 10 e.toNat) else (n * Nat.pow 10 (-e).toNat, d)
  let q := gn / gd
  let r := gn % gd
  let low : Digits := ⟨q, e⟩
  let high : Digits := ⟨q + 1, e⟩
  match readsBack x low, readsBack x high && r != 0 with
  | true, true => if 2 * r < gd then some low else some high
  | true, false => some low
  | false, true => some high
  | false, false => none

/-- The first grid of at least `count` digits with a neighbour that reads back. -/
def firstGrid (x : Binary64) (lead : Int) : Nat → Nat → Option Digits
  | 0, _ => none
  | fuel + 1, count =>
    match onGrid x lead count with
    | some d => some d
    | none => firstGrid x lead fuel (count + 1)

/-- The fewest digits that read back to `x`, nearest to `x` among those; a tie goes up. -/
def shortest (x : Binary64) : Digits :=
  if x.mantissa = 0 then ⟨0, 0⟩
  else
    let (n, d) := x.fraction
    let lead := leadingExponent n d 60 40
    (firstGrid x lead 17 1).getD ⟨0, 0⟩

/-! ## Positional notation -/

/-- The digits of a number written out with a point where needed and never an exponent:
no point behind a whole number, no zeros at the end of a fraction. -/
def Digits.positional (d : Digits) : String :=
  let ds := (Nat.toDigits 10 d.digits)
  if 0 ≤ d.exponent then String.ofList (ds ++ List.replicate d.exponent.toNat '0')
  else
    let places := (-d.exponent).toNat
    let padded := List.replicate (places + 1 - ds.length) '0' ++ ds
    let whole := padded.take (padded.length - places)
    let part := ((padded.drop (padded.length - places)).reverse.dropWhile (· == '0')).reverse
    String.ofList (if part.isEmpty then whole else whole ++ '.' :: part)

/-- A number in positional notation, by the fewest digits that read back. -/
def positional (x : Binary64) : String := x.shortest.positional

end Binary64

end Rollout.Decimal
