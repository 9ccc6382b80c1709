import Rollout.Shell.Glyph
import Rollout.Shell.Machine

/-!
# Builtin: commands on the shell itself

These commands change what the shell keeps in mind, or leave the place where the script has got to.
-/

namespace Rollout.Shell.Builtin

open Step

/-- What separates fields. -/
def separators : Step Octets := do return (← held? "IFS".toList).getD " \t\n".toList

/-- The number that an argument stands for, or the end of the script. -/
def countOf (command : String) (o : Octets) : Step Nat :=
  if !o.isEmpty && o.all Char.isDigit then return Octets.toInt?.value o
  else giveUp ((command ++ ": Illegal number: ").toList ++ o)

/-- A number in an argument, or another one if there is none. -/
def countOr (command : String) (absent : Nat) : List Octets → Step Nat
  | o :: _ => countOf command o
  | [] => return absent

/-- End the script. -/
def exit (args : List Octets) : Step Nat := do
  let n ← countOr "exit" (← get).status args
  throw (.exit (n % 256))

/-- End a function. -/
def giveBack (args : List Octets) : Step Nat := do
  let n ← countOr "return" (← get).status args
  throw (.giveBack n)

/-- Leave loops. -/
def breakOut (args : List Octets) : Step Nat := do
  let n ← countOr "break" 1 args
  throw (.breakOut n)

/-- Go on with the next round of a loop. -/
def goOn (args : List Octets) : Step Nat := do
  let n ← countOr "continue" 1 args
  throw (.goOn n)

/-- Drop positional parameters. -/
def shift (args : List Octets) : Step Nat := do
  let n ← countOr "shift" 1 args
  if n ≤ (← get).arguments.length then
    modify fun m => { m with arguments := m.arguments.drop n }
    return 0
  else giveUp "shift: can't shift that many".toList

/-- Switch an option of the shell. -/
def switch (on : Bool) (option : Char) : Step Unit :=
  modify fun m =>
    match option with
    | 'e' => { m with strict := on }
    | 'u' => { m with exact := on }
    | _ => m

/-- The letter of an option with a long name. -/
def longOption (name : Octets) : Char :=
  match String.ofList name with
  | "errexit" => 'e'
  | "nounset" => 'u'
  | _ => 'x'

/-- Set options and positional parameters. -/
def setUp : List Octets → Step Nat
  | [] => return 0
  | a :: as => do
    match a with
    | ['-', '-'] =>
      modify fun m => { m with arguments := as }
      return 0
    | ['-', 'o'] | ['+', 'o'] =>
      let name := as.headD []
      if ["errexit", "nounset", "xtrace", "noglob", "noclobber", "verbose"].contains
          (String.ofList name) then
        switch (a == "-o".toList) (longOption name)
        setUp as.tail
      else giveUp ("set: Illegal option -o ".toList ++ name)
    | '-' :: cs =>
      cs.forM (switch true)
      setUp as
    | '+' :: cs =>
      cs.forM (switch false)
      setUp as
    | _ =>
      modify fun m => { m with arguments := a :: as }
      return 0
termination_by as => as.length
decreasing_by all_goals simp; try omega

/-- Make variables known to commands, and let them hold something. -/
def publish (args : List Octets) : Step Nat := do
  args.forM fun a => do
    let name := a.takeWhile (· != '=')
    modify fun m => { m with published := name :: m.published }
    if name.length < a.length then assign name (a.drop (name.length + 1))
  return 0

/-- Variables that a function has to itself. -/
def hide (args : List Octets) : Step Nat := do
  args.forM fun a => do
    let name := a.takeWhile (· != '=')
    let before ← held? name
    modify fun m => { m with hidden := (name, before) :: m.hidden }
    if name.length < a.length then assign name (a.drop (name.length + 1))
  return 0

/-- Forget variables or functions. -/
def unset (args : List Octets) : Step Nat := do
  let ofFunctions := args.head? == some "-f".toList
  args.forM fun name =>
    modify fun m =>
      if ofFunctions then { m with functions := m.functions.filter (·.1 != name) }
      else { m with held := m.held.filter (·.1 != name) }
  return 0

/-- A line without the backslashes that keep separators from parting it. -/
def spliced (raw : Bool) : Octets → List Glyph
  | [] => []
  | '\\' :: c :: rest => if raw then .loose '\\' :: spliced raw (c :: rest)
    else if c == '\n' then spliced raw rest else .fixed c :: spliced raw rest
  | c :: rest => .loose c :: spliced raw rest

/-- Give the fields of a line to variables, the last of which takes all that is left. -/
def distribute (seps : Octets) : List Octets → List Glyph → Step Unit
  | [], _ => return ()
  | name :: names, gs => do
    let blank := fun (g : Glyph) => (g.parts seps).any Glyph.isBlank
    let gs := gs.dropWhile blank
    if names.isEmpty then assign name (Glyph.octets (gs.reverse.dropWhile blank).reverse)
    else
      let field := gs.takeWhile fun g => (g.parts seps).isNone
      assign name (Glyph.octets field)
      let rest := (gs.drop field.length).dropWhile blank
      let rest := match rest with
        | g :: more => if (g.parts seps).isSome then more else rest
        | [] => []
      distribute seps names rest

/-- Read a line into variables. -/
def read (args : List Octets) : Step Nat := do
  let raw := args.head? == some "-r".toList
  let names := if raw then args.tail else args
  let line ← inputLine
  let whole := line.getLast? == some '\n'
  let text := if whole then line.dropLast else line
  distribute (← separators) names (spliced raw text)
  return if whole then 0 else 1

/-- Change the working directory. -/
def cd (args : List Octets) : Step Nat := do
  match args with
  | [] =>
    modify fun m => { m with here := [] }
    return 0
  | name :: _ =>
    let p ← path name
    if (← get).directory.isFolder p then
      modify fun m => { m with here := p }
      return 0
    else
      complain ("sh: 1: cd: can't cd to ".toList ++ name)
      return 2

/-- Write the working directory. -/
def pwd (_ : List Octets) : Step Nat := do
  say (Octets.line ('/' :: ['/'].intercalate (← get).here))
  return 0

/-! ## Signals -/

/-- The signals by their names. -/
def signals : List (String × Nat) :=
  [("HUP", 1), ("INT", 2), ("QUIT", 3), ("ILL", 4), ("TRAP", 5), ("ABRT", 6), ("BUS", 7),
    ("FPE", 8), ("KILL", 9), ("USR1", 10), ("SEGV", 11), ("USR2", 12), ("PIPE", 13), ("ALRM", 14),
    ("TERM", 15), ("CHLD", 17), ("CONT", 18), ("STOP", 19), ("URG", 23), ("WINCH", 28)]

/-- The number of a signal. -/
def signalOf (o : Octets) : Option Nat :=
  if !o.isEmpty && o.all Char.isDigit then some (Octets.toInt?.value o)
  else
    let name := String.ofList o
    signals.lookup (if name.startsWith "SIG" then (name.drop 3).toString else name)

/-- A signal that nobody looks out for is passed over. -/
def isHarmless (signal : Nat) : Bool := [0, 17, 18, 23, 28].contains signal

/-- Send a signal to processes.  Only the shell itself is there to receive it. -/
def kill (args : List Octets) : Step Nat := do
  let (signal?, targets) := match args with
    | ['-', 's'] :: name :: rest => (signalOf name, rest)
    | ['-', '-'] :: rest => (some 15, rest)
    | ('-' :: name) :: rest => (signalOf name, rest)
    | rest => (some 15, rest)
  match signal? with
  | none =>
    complain "sh: 1: kill: bad signal".toList
    return 2
  | some signal =>
    let self := (toString (← get).process).toList
    let others := targets.filter (· != self)
    others.forM fun _ => complain "sh: 1: kill: No such process".toList
    if others.length < targets.length && !isHarmless signal then throw (.killed signal)
    return if others.isEmpty then 0 else 1

/-- Say what is to be done when the script ends. -/
def trap (args : List Octets) : Step Nat := do
  match args with
  | what :: events =>
    if events.contains ['0'] || events.contains "EXIT".toList then
      modify fun m => { m with farewell := if what == ['-'] then [] else what }
    return 0
  | [] => return 0

/-- The commands by their names. -/
def all : List (String × (List Octets → Step Nat)) :=
  [("exit", exit), ("return", giveBack), ("break", breakOut), ("continue", goOn),
    ("shift", shift), ("set", setUp), ("export", publish), ("readonly", publish), ("local", hide),
    ("unset", unset), ("read", read), ("cd", cd), ("pwd", pwd), ("kill", kill),
    ("wait", fun _ => return 0), ("trap", trap), ("umask", fun _ => return 0),
    ("ulimit", fun _ => return 0), ("hash", fun _ => return 0)]

/-- The command with a name. -/
def named? (name : Octets) : Option (List Octets → Step Nat) := all.lookup (String.ofList name)

end Rollout.Shell.Builtin
