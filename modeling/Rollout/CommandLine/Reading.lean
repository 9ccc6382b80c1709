import Rollout.CommandLine.Basic

/-!
# Reading: arguments one after another

An option is written with two dashes, its value behind an equals sign or as the next argument.  The
value in the next argument is looked at only when the argument after it has turned out to be an
option, so that an unknown argument is noticed before a bad value in front of it.
-/

namespace Rollout.CommandLine

/-- An option with a value. -/
inductive Setting where
  | plan
  | goal
  | concurrency
  | timeout
  | pollDelay
  | logLevel
deriving DecidableEq, Repr, Inhabited

/-- An option without a value. -/
inductive Switch where
  | dryRun
  | print
  | help
  | version
deriving DecidableEq, Repr, Inhabited

/-- The option with a name. -/
def optionNamed? : String → Option (Setting ⊕ Switch)
  | "plan" => some (.inl .plan)
  | "goal" => some (.inl .goal)
  | "concurrency" => some (.inl .concurrency)
  | "timeout" => some (.inl .timeout)
  | "poll-delay" => some (.inl .pollDelay)
  | "log-level" => some (.inl .logLevel)
  | "dry-run" => some (.inr .dryRun)
  | "print" => some (.inr .print)
  | "help" => some (.inr .help)
  | "version" => some (.inr .version)
  | _ => none

/-- How far the arguments have been read. -/
structure Progress where
  arguments : Arguments := {}
  /-- The options seen that have a value. -/
  settings : List Setting := []
  /-- The option that the last argument began or ended, with its value. -/
  pending : Option (Setting × Option String) := none

/-- Read a number of sixty-four bits. -/
def count? (s : String) : Option Nat :=
  let digits := if s.toList.head? == some '+' then s.toList.tail else s.toList
  if digits.isEmpty || !digits.all Char.isDigit then none
  else
    let n := digits.foldl (fun n c => 10 * n + (c.toNat - '0'.toNat)) 0
    if n < UInt64.size then some n else none

/-- The level with a name in small letters. -/
def levelNamed? (s : String) : Option Log.Level := Log.Level.all.find? (·.word == s)

/-- A value that may not be there is unreadable if it is not. -/
def readable {α : Type} : Option α → Except Refusal (Option α)
  | some a => .ok (some a)
  | none => .error .unreadableValue

/-- Give an option its value. -/
def Arguments.set (a : Arguments) (s : Setting) (value : String) : Except Refusal Arguments := do
  match s with
  | .plan => return { a with plan := value }
  | .goal => return { a with goal := ← readable (Goal.parse value).toOption }
  | .concurrency => return { a with concurrency := ← readable (count? value) }
  | .timeout => return { a with timeout := ← readable (Duration.parse value).toOption }
  | .pollDelay => return { a with pollDelay := ← readable (Duration.parse value).toOption }
  | .logLevel =>
    match levelNamed? value with
    | some l => return { a with logLevel := some l }
    | none => throw .invalidValue

namespace Progress

/-- Give the pending option its value. -/
def settle (p : Progress) : Except Refusal Progress :=
  match p.pending with
  | none => .ok p
  | some (_, none) => .error .invalidValue
  | some (s, some value) => do
    if p.settings.contains s then throw .repeated
    return ⟨← p.arguments.set s value, s :: p.settings, none⟩

/-- Turn a switch on. -/
def switch (p : Progress) (s : Switch) : Except Refusal Progress := do
  let p ← p.settle
  match s with
  | .help => throw .help
  | .version => throw .version
  | .dryRun =>
    if p.arguments.dryRun then throw .repeated
    return { p with arguments := { p.arguments with dryRun := true } }
  | .print =>
    if p.arguments.print then throw .repeated
    return { p with arguments := { p.arguments with print := true } }

/-- Read an option with its name, and with its value if one is attached. -/
def long (p : Progress) (name : String) (value : Option String) : Except Refusal Progress :=
  match optionNamed? name, value with
  | none, _ => .error .unknownArgument
  | some (.inr _), some _ => .error .superfluousValue
  | some (.inr s), none => p.switch s
  | some (.inl s), value => do
    let p := { (← p.settle) with pending := some (s, value) }
    if value.isSome then p.settle else return p

/-- Read an argument. -/
def step (p : Progress) (argument : String) : Except Refusal Progress :=
  match argument.toList with
  | '-' :: '-' :: rest =>
    let name := rest.takeWhile (· != '=')
    let value := if name.length < rest.length
      then some (String.ofList (rest.drop (name.length + 1))) else none
    p.long (String.ofList name) value
  | '-' :: 'h' :: _ => p.switch .help
  | '-' :: 'V' :: _ => p.switch .version
  | '-' :: _ :: _ => .error .unknownArgument
  | _ =>
    match p.pending with
    | some (s, none) => .ok { p with pending := some (s, some argument) }
    | _ => .error .unknownArgument

/-- Read arguments.  Behind two dashes there may be none. -/
def steps : Progress → List String → Except Refusal Progress
  | p, [] => p.settle
  | p, argument :: rest =>
    if argument == "--" then
      if rest.isEmpty then p.settle else .error .unknownArgument
    else do steps (← p.step argument) rest

end Progress

/-- Read the arguments of the program. -/
def Arguments.parse (arguments : List String) : Except Refusal Arguments := do
  return (← Progress.steps {} arguments).arguments

end Rollout.CommandLine
