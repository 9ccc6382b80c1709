import Rollout.Shell.Utility.Files

/-!
# Print: utilities that write their arguments

`echo` writes its arguments with blanks between them, `printf` under a format.  Both read escapes
behind a backslash.
-/

namespace Rollout.Shell.Utility

open Step

/-- The octet of a letter behind a backslash. -/
def escaped? : Char → Option Char
  | 'a' => some '\x07'
  | 'b' => some '\x08'
  | 'f' => some '\x0c'
  | 'n' => some '\n'
  | 'r' => some '\r'
  | 't' => some '\t'
  | 'v' => some '\x0b'
  | '\\' => some '\\'
  | _ => none

/-- The digit of a number in base eight. -/
def isOctal (c : Char) : Bool := '0' ≤ c && c ≤ '7'

/-- The octet with a number in base eight. -/
def ofOctal (ds : Octets) : Char :=
  Char.ofNat (ds.foldl (fun n c => 8 * n + (c.toNat - 0x30)) 0 % 256)

/-- Read the escape behind a backslash: what it stands for, and what follows it; none for the one
that ends all output.  With `leading`, a number in base eight has a zero in front of its digits. -/
def escapeAt (leading : Bool) : Octets → Option (Octets × Octets)
  | [] => some (['\\'], [])
  | c :: rest =>
    if leading && c == 'c' then none
    else if isOctal c && (!leading || c == '0') then
      let digits := if leading then rest else c :: rest
      let taken := (digits.take 3).takeWhile isOctal
      some ([ofOctal taken], digits.drop taken.length)
    else
      match escaped? c with
      | some e => some ([e], rest)
      | none => some (['\\', c], rest)

/-- Octets with their escapes read, and whether one of them ends all output.  The first argument
bounds their length. -/
def unescape (leading : Bool) : Nat → Octets → Octets × Bool
  | 0, o => (o, false)
  | _, [] => ([], false)
  | fuel + 1, '\\' :: rest =>
    match escapeAt leading rest with
    | none => ([], true)
    | some (e, rest) =>
      let (out, ended) := unescape leading fuel rest
      (e ++ out, ended)
  | fuel + 1, c :: rest =>
    let (out, ended) := unescape leading fuel rest
    (c :: out, ended)

/-- Write the arguments. -/
def echo (args : List Octets) : Step Nat := do
  let (quiet, args) := match args with
    | ['-', 'n'] :: rest => (true, rest)
    | args => (false, args)
  let text := [' '].intercalate args
  let (out, ended) := unescape true text.length text
  say (if quiet || ended then out else out.line)
  return 0

/-! ## Formats -/

/-- How a number or text is to be set. -/
structure Layout where
  left : Bool := false
  zeros : Bool := false
  plus : Bool := false
  space : Bool := false
  marked : Bool := false
  width : Nat := 0
  precision : Option Nat := none
deriving Repr, Inhabited

/-- Fill up to the width. -/
def Layout.pad (l : Layout) (zeros : Bool) (sign body : Octets) : Octets :=
  let missing := l.width - (sign.length + body.length)
  if l.left then sign ++ body ++ List.replicate missing ' '
  else if zeros then sign ++ List.replicate missing '0' ++ body
  else List.replicate missing ' ' ++ sign ++ body

/-- Set a text. -/
def Layout.text (l : Layout) (o : Octets) : Octets :=
  l.pad false [] (match l.precision with | some n => o.take n | none => o)

/-- The digits of a number, at least as many as the precision asks. -/
def Layout.digits (l : Layout) (base n : Nat) : Octets :=
  let ds := Nat.toDigits base n
  let ds := if n = 0 && l.precision == some 0 then [] else ds
  List.replicate (l.precision.getD 0 - ds.length) '0' ++ ds

/-- Set a number with a sign. -/
def Layout.number (l : Layout) (n : Int) : Octets :=
  let sign := if n < 0 then ['-'] else if l.plus then ['+'] else if l.space then [' '] else []
  l.pad (l.zeros && l.precision.isNone) sign (l.digits 10 n.natAbs)

/-- Set a number without a sign. -/
def Layout.natural (l : Layout) (base : Nat) (mark : Octets) (n : Nat) : Octets :=
  let mark := if l.marked && n != 0 then mark else []
  l.pad (l.zeros && l.precision.isNone) mark (l.digits base n)

/-- The number that an argument stands for, and whether it stands for one. -/
def numberOf (arg : Octets) : Int × Bool :=
  match arg with
  | '\'' :: c :: _ | '"' :: c :: _ => (c.toNat, true)
  | '-' :: ds => ((Sum.constant ds).elim (0, false) fun n => (-n, true))
  | '+' :: ds => ((Sum.constant ds).elim (0, false) fun n => (n, true))
  | [] => (0, true)
  | ds => ((Sum.constant ds).elim (0, false) fun n => (n, true))

/-- Flags in front of a layout. -/
def Layout.flags : Layout → Octets → Layout × Octets
  | l, '-' :: rest => { l with left := true }.flags rest
  | l, '0' :: rest => { l with zeros := true }.flags rest
  | l, '+' :: rest => { l with plus := true }.flags rest
  | l, ' ' :: rest => { l with space := true }.flags rest
  | l, '#' :: rest => { l with marked := true }.flags rest
  | l, rest => (l, rest)

/-- The value of the digits in front, and what follows them. -/
def leadingNumber (o : Octets) : Nat × Octets :=
  (Octets.toInt?.value (o.takeWhile Char.isDigit), o.dropWhile Char.isDigit)

/-- Read a layout: its fields, the arguments left, and what follows it. -/
def Layout.parse (o : Octets) (args : List Octets) : Layout × List Octets × Octets :=
  let (l, o) := Layout.flags {} o
  let (l, args, o) := match o with
    | '*' :: o =>
      let n := (numberOf (args.headD [])).1
      ({ l with width := n.natAbs, left := l.left || n < 0 }, args.tail, o)
    | o =>
      let (n, o) := leadingNumber o
      ({ l with width := n }, args, o)
  match o with
  | '.' :: '*' :: o =>
    ({ l with precision := some (numberOf (args.headD [])).1.toNat }, args.tail, o)
  | '.' :: o =>
    let (n, o) := leadingNumber o
    ({ l with precision := some n }, args, o)
  | o => (l, args, o)

/-- What one round of a format comes to. -/
structure Printed where
  out : Octets := []
  args : List Octets
  /-- Arguments that are no numbers. -/
  odd : List Octets := []
  /-- Nothing more is to be written. -/
  ended : Bool := false
  /-- The format cannot be followed. -/
  broken : Bool := false

/-- Put octets in front of the output. -/
def Printed.after (o : Octets) (p : Printed) : Printed := { p with out := o ++ p.out }

/-- One round of a format.  The first argument bounds its length. -/
def printRound : Nat → Octets → List Octets → Printed
  | 0, _, args => { args }
  | fuel + 1, format, args =>
    match format with
    | [] => { args }
    | '%' :: '%' :: rest => (printRound fuel rest args).after ['%']
    | '%' :: rest =>
      let (l, args, rest) := Layout.parse rest args
      let arg := args.headD []
      let later := args.tail
      let (n, isNumber) := numberOf arg
      let odd := if isNumber then [] else [arg]
      let set := fun (o : Octets) =>
        let p := (printRound fuel rest.tail later).after o
        { p with odd := odd ++ p.odd }
      match rest with
      | 's' :: rest => (printRound fuel rest later).after (l.text arg)
      | 'c' :: rest => (printRound fuel rest later).after (l.text (arg.take 1))
      | 'b' :: rest =>
        let (out, ended) := unescape true arg.length arg
        if ended then { args := later, out := l.text out, ended := true }
        else (printRound fuel rest later).after (l.text out)
      | 'd' :: _ | 'i' :: _ => set (l.number n)
      | 'u' :: _ => set (l.natural 10 [] (Sum.bits n))
      | 'o' :: _ => set (l.natural 8 ['0'] (Sum.bits n))
      | 'x' :: _ => set (l.natural 16 ['0', 'x'] (Sum.bits n))
      | 'X' :: _ => set ((l.natural 16 ['0', 'X'] (Sum.bits n)).map Char.toUpper)
      | _ => { args, broken := true }
    | '\\' :: rest =>
      match escapeAt false rest with
      | some (e, rest) => (printRound fuel rest args).after e
      | none => { args, ended := true }
    | c :: rest => (printRound fuel rest args).after [c]

/-- Rounds of a format as long as there are arguments. -/
def printRounds (format : Octets) : Nat → List Octets → Printed
  | 0, args => { args }
  | fuel + 1, args =>
    let p := printRound format.length format args
    if p.ended || p.broken || p.args.isEmpty || p.args.length == args.length then p
    else
      let q := printRounds format fuel p.args
      { q with out := p.out ++ q.out, odd := p.odd ++ q.odd }

/-- Write the arguments under a format. -/
def printf (args : List Octets) : Step Nat := do
  let args := match args with
    | ['-', '-'] :: rest => rest
    | args => args
  match args with
  | [] =>
    remark "sh: 1: printf" "usage: printf format [arg ...]".toList
    return 2
  | format :: args =>
    let p := printRounds format (args.length + 1) args
    say p.out
    p.odd.forM fun arg => remark "sh: 1: printf" (arg ++ ": expected numeric value".toList)
    return if p.broken then 2 else if p.odd.isEmpty then 0 else 1

end Rollout.Shell.Utility
