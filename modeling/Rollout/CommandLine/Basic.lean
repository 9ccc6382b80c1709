import Rollout.Status.Reading
import Rollout.Duration
import Rollout.Log.Event

/-!
# Command line: what a user asks the program for

`Arguments` is what the program is told, `Refusal` why it does not begin.
-/

namespace Rollout.CommandLine

/-- What a user asks for.  What is missing is left to the plan file. -/
structure Arguments where
  /-- The path of the plan file. -/
  plan : String := "Deployplan.toml"
  dryRun : Bool := false
  /-- Show the plan in place of carrying it out. -/
  print : Bool := false
  goal : Option Goal := none
  concurrency : Option Nat := none
  timeout : Option Duration := none
  pollDelay : Option Duration := none
  logLevel : Option Log.Level := none
deriving DecidableEq, Repr, Inhabited

/-- Why the program does not begin. -/
inductive Refusal where
  /-- The user asks how the program is used. -/
  | help
  /-- The user asks for the version. -/
  | version
  /-- There is no such option, or an argument that belongs to none. -/
  | unknownArgument
  /-- An option comes twice. -/
  | repeated
  /-- An option has a value that takes none. -/
  | superfluousValue
  /-- A value is missing, or is none of those the option can have. -/
  | invalidValue
  /-- A value cannot be read. -/
  | unreadableValue
deriving DecidableEq, Repr, Inhabited

/-- The exit code of a program that does not begin. -/
def Refusal.exitCode : Refusal → Nat
  | help | version => 0
  | _ => 2

end Rollout.CommandLine
