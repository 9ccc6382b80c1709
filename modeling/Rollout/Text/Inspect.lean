import Rollout.Text.Quoted
import Rollout.Duration

/-!
# Inspect: values as developer dumps show them

Dumps name the type, then list the fields in braces: `Name { a: 1, b: 2 }`, with two dots at
the end when some fields are withheld; sequences stand in square brackets.
-/

namespace Rollout.Text.Inspect

/-- Items with a comma and a blank between them. -/
def commas (items : List String) : String := ", ".intercalate items

/-- A sequence. -/
def list (items : List String) : String := "[" ++ commas items ++ "]"

/-- One field. -/
def field (f : String × String) : String := f.1 ++ ": " ++ f.2

/-- A record that shows all its fields. -/
def record (name : String) (fields : List (String × String)) : String :=
  name ++ " \x7b " ++ commas (fields.map field) ++ " \x7d"

/-- A record that withholds some of its fields. -/
def openRecord (name : String) (fields : List (String × String)) : String :=
  name ++ " \x7b " ++ commas (fields.map field ++ [".."]) ++ " \x7d"

/-- A value wrapped by a name. -/
def wrapped (name value : String) : String := name ++ "(" ++ value ++ ")"

/-- A value that may be absent. -/
def option (value : Option String) : String :=
  match value with
  | none => "None"
  | some v => wrapped "Some" v

/-- A truth value. -/
def bool (b : Bool) : String := if b then "true" else "false"

/-- A whole number and a fraction of so many places, without the zeros at the end. -/
def decimal (whole fraction places : Nat) : String :=
  let digits := Nat.toDigits 10 fraction
  let padded := List.replicate (places - digits.length) '0' ++ digits
  let kept := (padded.reverse.dropWhile (· == '0')).reverse
  toString whole ++ (if kept.isEmpty then "" else "." ++ String.ofList kept)

/-- A duration in the largest unit that leaves a whole part: seconds, then thousandths,
millionths and billionths. -/
def duration (d : Duration) : String :=
  if 0 < d.seconds then decimal d.seconds d.nanos 9 ++ "s"
  else if 1000000 ≤ d.nanos then decimal (d.nanos / 1000000) (d.nanos % 1000000) 6 ++ "ms"
  else if 1000 ≤ d.nanos then decimal (d.nanos / 1000) (d.nanos % 1000) 3 ++ "µs"
  else toString d.nanos ++ "ns"

end Rollout.Text.Inspect
