import Rollout.Shell.Utility.Lines
import Rollout.Shell.Utility.Test

/-!
# Words: utilities on their arguments alone, and the list of all utilities
-/

namespace Rollout.Shell.Utility

open Step

/-- A path without the slashes at its end. -/
def withoutSlashes (o : Octets) : Octets := (o.reverse.dropWhile (· == '/')).reverse

/-- Write the last name of a path, without an ending. -/
def basename (args : List Octets) : Step Nat := do
  let (_, args) := splitOptions args
  match args with
  | [] => misses "basename" "operand"
  | p :: rest =>
    let trimmed := withoutSlashes p
    let name := (trimmed.reverse.takeWhile (· != '/')).reverse
    let name := if trimmed.isEmpty && !p.isEmpty then ['/'] else name
    let ending := rest.headD []
    let name := if ending.isSuffixOf name && ending != name
      then name.take (name.length - ending.length) else name
    say (Octets.line name)
    return 0

/-- Write paths without their last names. -/
def dirname (args : List Octets) : Step Nat := do
  let (_, args) := splitOptions args
  if args.isEmpty then misses "dirname" "operand"
  else
    args.forM fun p =>
      let trimmed := withoutSlashes p
      let rest := (trimmed.reverse.dropWhile (· != '/')).reverse
      say (Octets.line (if trimmed.isEmpty && !p.isEmpty then ['/']
        else if rest.isEmpty then ['.']
        else if (withoutSlashes rest).isEmpty then ['/'] else withoutSlashes rest))
    return 0

/-- The milliseconds of a time such as `0.5` or `2m`. -/
def timeOf (o : Octets) : Option Nat :=
  let whole := o.takeWhile Char.isDigit
  let rest := o.drop whole.length
  let part := if rest.head? == some '.' then rest.tail.takeWhile Char.isDigit else []
  let behind := rest.drop (if rest.head? == some '.' then part.length + 1 else 0)
  let factor := match behind with
    | [] | ['s'] => some 1
    | ['m'] => some 60
    | ['h'] => some 3600
    | ['d'] => some 86400
    | _ => none
  let value := Octets.toInt?.value (whole ++ part)
  if (whole ++ part).isEmpty then none
  else factor.map fun f => value * f * 1000 / Nat.pow 10 part.length

/-- Let time pass. -/
def sleep (args : List Octets) : Step Nat := do
  match args.mapM timeOf with
  | some [] => misses "sleep" "operand"
  | some times =>
    modify fun m => { m with slept := times.foldl (· + ·) m.slept }
    return 0
  | none =>
    let odd := (args.find? fun a => (timeOf a).isNone).getD []
    remark "sleep" ("invalid time interval ".toList ++ quoted odd)
    complain "Try 'sleep --help' for more information.".toList
    return 1

/-! ## Expressions -/

/-- Operations on words by their level, the loosest first. -/
def wordOperations : List (List String) :=
  [["|"], ["&"], ["<", "<=", "=", "!=", ">=", ">"], ["+", "-"], ["*", "/", "%"]]

/-- A word that counts as false. -/
def isVoid (o : Octets) : Bool := o.isEmpty || o.toInt? == some 0

/-- The value of an operation on words. -/
def wordOperation (op : String) (a b : Octets) : Except String Octets :=
  let truth := fun (x : Bool) => Except.ok (if x then ['1'] else ['0'])
  let compare := fun (f : Ordering → Bool) =>
    match a.toInt?, b.toInt? with
    | some m, some n => truth (f (compareOfLessAndEq m n))
    | _, _ => truth (f (compareOfLessAndEq a b))
  let sum := fun (f : Int → Int → Except String Int) =>
    match a.toInt?, b.toInt? with
    | some m, some n => (f m n).map fun n => (toString n).toList
    | _, _ => .error "non-integer argument"
  match op with
  | "|" => .ok (if isVoid a then (if isVoid b then ['0'] else b) else a)
  | "&" => .ok (if isVoid a || isVoid b then ['0'] else a)
  | "<" => compare (· == .lt)
  | "<=" => compare (· != .gt)
  | "=" => compare (· == .eq)
  | "!=" => compare (· != .eq)
  | ">=" => compare (· != .lt)
  | ">" => compare (· == .gt)
  | "+" => sum fun m n => .ok (m + n)
  | "-" => sum fun m n => .ok (m - n)
  | "*" => sum fun m n => .ok (m * n)
  | "/" => sum fun m n => if n = 0 then .error "division by zero" else .ok (Int.tdiv m n)
  | _ => sum fun m n => if n = 0 then .error "division by zero" else .ok (Int.tmod m n)

mutual

/-- The value of the words in front, with operations of some levels between them. -/
def wordValue : Nat → List (List String) → List Octets → Except String (Octets × List Octets)
  | 0, _, _ => .error "syntax error"
  | _, [], [] => .error "syntax error: missing argument"
  | fuel + 1, [], a :: rest => do
    if a == ['('] then
      match ← wordValue fuel wordOperations rest with
      | (v, [')'] :: rest) => return (v, rest)
      | _ => .error "syntax error: expecting ')'"
    else return (a, rest)
  | fuel + 1, ops :: levels, args => do
    let (v, rest) ← wordValue fuel levels args
    wordChain fuel ops levels v rest

/-- The value of operations of one level behind their first operand. -/
def wordChain : Nat → List String → List (List String) → Octets → List Octets →
    Except String (Octets × List Octets)
  | 0, _, _, _, _ => .error "syntax error"
  | _, _, _, v, [] => .ok (v, [])
  | fuel + 1, ops, levels, v, op :: rest => do
    if ops.contains (String.ofList op) then
      let (w, rest) ← wordValue fuel levels rest
      wordChain fuel ops levels (← wordOperation (String.ofList op) v w) rest
    else return (v, op :: rest)

end

/-- Write the value of an expression. -/
def expr (args : List Octets) : Step Nat := do
  if args.isEmpty then misses "expr" "operand"
  else
    match wordValue (16 * args.length + 16) wordOperations args with
    | .ok (v, []) =>
      say v.line
      return if isVoid v then 1 else 0
    | .ok (_, odd :: _) =>
      remark "expr" ("syntax error: unexpected argument ".toList ++ quoted odd)
      return 2
    | .error text =>
      remark "expr" text.toList
      return 2

/-! ## All utilities -/

/-- The utilities by their names. -/
def all : List (String × (List Octets → Step Nat)) :=
  [(":", fun _ => return 0), ("true", fun _ => return 0), ("false", fun _ => return 1),
    ("echo", echo), ("printf", printf), ("test", test), ("[", bracket), ("cat", cat),
    ("touch", touch), ("rm", rm), ("rmdir", rmdir), ("mkdir", mkdir), ("mv", mv), ("cp", cp),
    ("ls", ls), ("tee", tee), ("head", head), ("tail", tail), ("wc", wc), ("grep", grep),
    ("egrep", egrep), ("fgrep", fgrep), ("tr", tr), ("sort", sort), ("uniq", uniq), ("cut", cut),
    ("seq", seq), ("basename", basename), ("dirname", dirname), ("sleep", sleep), ("expr", expr),
    ("sync", fun _ => return 0)]

/-- The utility with a name. -/
def named? (name : Octets) : Option (List Octets → Step Nat) := all.lookup (String.ofList name)

end Rollout.Shell.Utility
