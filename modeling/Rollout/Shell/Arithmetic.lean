import Rollout.Shell.Glyph
import Rollout.Shell.Reading

/-!
# Arithmetic: sums in command lines

Expressions over whole numbers of sixty-four bits with a sign, which wrap around.  A name stands
for the number its variable holds, and for zero if the variable is missing or empty.
-/

namespace Rollout.Shell.Sum

open Reader

/-- An operation on two numbers. -/
inductive Operation where
  | add | subtract | multiply | divide | remainder
  | shiftLeft | shiftRight
  | less | lessOrEqual | greater | greaterOrEqual | equal | different
  | bitAnd | bitXor | bitOr
deriving DecidableEq, Repr, Inhabited

/-- An operation on one number. -/
inductive Sign where
  | plus | minus | complement | negation
deriving DecidableEq, Repr, Inhabited

/-- An expression. -/
inductive Expr where
  | number (n : Int)
  | name (name : Octets)
  | assign (name : Octets) (op : Option Operation) (value : Expr)
  | sign (s : Sign) (e : Expr)
  | operation (op : Operation) (a b : Expr)
  | both (a b : Expr)
  | either (a b : Expr)
  | choice (test yes no : Expr)
deriving Repr, Inhabited

/-! ## Reading -/

/-- The operations by their signs: how tightly each binds, and longer signs first. -/
def operations : List (String × Nat × Operation) :=
  [("<<", 8, .shiftLeft), (">>", 8, .shiftRight), ("<=", 7, .lessOrEqual),
    (">=", 7, .greaterOrEqual), ("==", 6, .equal), ("!=", 6, .different), ("<", 7, .less),
    (">", 7, .greater), ("+", 9, .add), ("-", 9, .subtract), ("*", 10, .multiply),
    ("/", 10, .divide), ("%", 10, .remainder), ("&", 5, .bitAnd), ("^", 4, .bitXor),
    ("|", 3, .bitOr)]

/-- Take a sign that another sign does not continue. -/
def takenAlone (s : String) (not : List Char) : Reader Bool := do
  let rest := (← get).drop s.toList.length
  if (rest.head?.any not.contains) then return false else taken s

/-- Pass over blanks. -/
def gap : Reader Unit := do
  let _ ← run Glyph.isBlank

/-- The value of a digit in bases up to sixteen. -/
def digitValue (c : Char) : Nat :=
  if c.isDigit then c.toNat - 0x30 else c.toLower.toNat - 0x61 + 10

/-- The number that a constant stands for: with `0x` in base sixteen, with `0` in base eight. -/
def constant (s : Octets) : Option Int :=
  let inBase := fun (base : Nat) (ds : Octets) =>
    if ds.isEmpty || !ds.all fun c => c.isAlphanum && digitValue c < base then none
    else some (Int.ofNat (ds.foldl (fun n c => base * n + digitValue c) 0))
  match s with
  | '0' :: 'x' :: ds | '0' :: 'X' :: ds => inBase 16 ds
  | '0' :: d :: ds => inBase 8 (d :: ds)
  | ds => inBase 10 ds

/-- The operation that comes next, if it binds at least as tightly as asked. -/
def upcomingOperation (level : Nat) : Reader (Option (Nat × Operation)) := do
  let rest ← get
  let fits := fun (o : String × Nat × Operation) => o.1.toList.isPrefixOf rest
  match operations.find? fits with
  | some (s, l, op) =>
    let behind := (rest.drop s.toList.length).head?
    -- an operation that is assigned, or a sign that is doubled, is something else
    let other := behind == some '=' && 6 != l && s != "<=" && s != ">="
    let doubled := (s == "&" || s == "|") && behind == s.toList.head?
    if l < level || other || doubled then return none
    set (rest.drop s.toList.length)
    return some (l, op)
  | none => return none

/-- The operation of an assignment that comes next. -/
def upcomingAssignment : Reader (Option (Option Operation)) := do
  let rest ← get
  match operations.find? fun o => (o.1.toList ++ ['=']).isPrefixOf rest && o.2.1 ∉ [6, 7] with
  | some (s, _, op) =>
    set (rest.drop (s.toList.length + 1))
    return some (some op)
  | none =>
    if ← takenAlone "=" ['='] then return some none else return none

mutual

/-- Take an expression. -/
def expr : Nat → Reader Expr
  | 0 => failure
  | fuel + 1 => do
    gap
    let rest ← get
    let name := rest.takeWhile isNameChar
    if isName name then
      set (rest.drop name.length)
      gap
      match ← upcomingAssignment with
      | some op => return .assign name op (← expr fuel)
      | none => set rest
    let test ← alternatives fuel
    gap
    if ← taken "?" then
      let yes ← expr fuel
      gap
      expect ":"
      return .choice test yes (← expr fuel)
    else return test

/-- Take expressions of which one has to hold. -/
def alternatives : Nat → Reader Expr
  | 0 => failure
  | fuel + 1 => do
    let e ← conjuncts fuel
    gap
    if ← taken "||" then return .either e (← alternatives fuel) else return e

/-- Take expressions that all have to hold. -/
def conjuncts : Nat → Reader Expr
  | 0 => failure
  | fuel + 1 => do
    let e ← chain fuel 0 (← operand fuel)
    gap
    if ← taken "&&" then return .both e (← conjuncts fuel) else return e

/-- Take operations that bind at least as tightly as asked, behind their first operand. -/
def chain : Nat → Nat → Expr → Reader Expr
  | 0, _, _ => failure
  | fuel + 1, level, a => do
    gap
    match ← upcomingOperation level with
    | none => return a
    | some (l, op) =>
      let b ← chain fuel (l + 1) (← operand fuel)
      chain fuel level (.operation op a b)

/-- Take an operand. -/
def operand : Nat → Reader Expr
  | 0 => failure
  | fuel + 1 => do
    gap
    if ← taken "(" then
      let e ← expr fuel
      gap
      expect ")"
      return e
    else if ← taken "-" then return .sign .minus (← operand fuel)
    else if ← taken "+" then return .sign .plus (← operand fuel)
    else if ← taken "~" then return .sign .complement (← operand fuel)
    else if ← takenAlone "!" ['='] then return .sign .negation (← operand fuel)
    else
      let s ← Reader.run isNameChar
      if isName s then return .name s
      else
        match constant s with
        | some n => return .number n
        | none => failure

end

/-- Read an expression; blanks alone stand for zero. -/
def Expr.parse (s : Octets) : Option Expr := do
  if s.all Glyph.isBlank then return .number 0
  let (e, rest) ← StateT.run (expr (16 * s.length + 16)) s
  if rest.all Glyph.isBlank then some e else none

/-! ## Values -/

/-- The number of sixty-four bits that a number wraps around to. -/
def wrap (n : Int) : Int := Int.bmod n UInt64.size

/-- The number that a truth stands for. -/
def ofBool (b : Bool) : Int := if b then 1 else 0

/-- The bits of a number. -/
def bits (n : Int) : Nat := (n % (UInt64.size : Int)).toNat

/-- The value of an operation; none for a division by zero. -/
def Operation.apply : Operation → Int → Int → Option Int
  | add, a, b => some (wrap (a + b))
  | subtract, a, b => some (wrap (a - b))
  | multiply, a, b => some (wrap (a * b))
  | divide, a, b => if b = 0 then none else some (wrap (Int.tdiv a b))
  | remainder, a, b => if b = 0 then none else some (wrap (Int.tmod a b))
  | shiftLeft, a, b => some (wrap (a * Nat.pow 2 (bits b % 64)))
  | shiftRight, a, b => some (wrap (Int.fdiv a (Nat.pow 2 (bits b % 64))))
  | less, a, b => some (ofBool (a < b))
  | lessOrEqual, a, b => some (ofBool (a ≤ b))
  | greater, a, b => some (ofBool (b < a))
  | greaterOrEqual, a, b => some (ofBool (b ≤ a))
  | equal, a, b => some (ofBool (a == b))
  | different, a, b => some (ofBool (a != b))
  | bitAnd, a, b => some (wrap (bits a &&& bits b))
  | bitXor, a, b => some (wrap (bits a ^^^ bits b))
  | bitOr, a, b => some (wrap (bits a ||| bits b))

/-- The value of a sign in front of a number. -/
def Sign.apply : Sign → Int → Int
  | plus, n => n
  | minus, n => wrap (-n)
  | complement, n => wrap (-n - 1)
  | negation, n => ofBool (n == 0)

/-- Variables and what they hold. -/
abbrev Variables := List (Octets × Octets)

/-- Let a variable hold something. -/
def assignIn (name value : Octets) (vs : Variables) : Variables :=
  (name, value) :: vs.filter (·.1 != name)

/-- The number that a variable holds; none if it holds something else. -/
def numberIn (vs : Variables) (name : Octets) : Option Int :=
  match vs.lookup name with
  | none | some [] => some 0
  | some s =>
    match s with
    | '-' :: ds => (constant ds).map (wrap <| -·)
    | '+' :: ds => (constant ds).map wrap
    | ds => (constant ds).map wrap

/-- The value of an expression, and the variables after its assignments. -/
def Expr.value : Expr → Variables → Option (Int × Variables)
  | number n, vs => some (wrap n, vs)
  | name x, vs => do return (← numberIn vs x, vs)
  | assign x op e, vs => do
    let (n, vs) ← e.value vs
    let n ← match op with
      | none => some n
      | some op => op.apply (← numberIn vs x) n
    return (n, assignIn x (toString n).toList vs)
  | sign s e, vs => do
    let (n, vs) ← e.value vs
    return (s.apply n, vs)
  | operation op a b, vs => do
    let (m, vs) ← a.value vs
    let (n, vs) ← b.value vs
    return (← op.apply m n, vs)
  | both a b, vs => do
    let (m, vs) ← a.value vs
    if m = 0 then return (0, vs)
    let (n, vs) ← b.value vs
    return (ofBool (n != 0), vs)
  | either a b, vs => do
    let (m, vs) ← a.value vs
    if m != 0 then return (1, vs)
    let (n, vs) ← b.value vs
    return (ofBool (n != 0), vs)
  | choice test yes no, vs => do
    let (m, vs) ← test.value vs
    if m != 0 then yes.value vs else no.value vs

end Rollout.Shell.Sum
