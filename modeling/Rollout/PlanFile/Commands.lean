import Rollout.PlanFile.Basic
import Rollout.Pattern.Reading
import Rollout.Engine.Timeline
import Rollout.Shell.Run
import Rollout.Text.Lines

/-!
# Commands: what stands behind the callbacks of a plan file

The body of an action is a command that has to succeed.  The completion check of an element is a
command whose success, with a line of output that matches a pattern if there is one, says that the
element is there.  Commands act on a directory tree.
-/

namespace Rollout

open Shell (Directory Octets Output)

/-! ## Single commands -/

/-- Run a command in a directory: what it comes to, or why it cannot be started, and the directory
afterwards. -/
def runCommand (command : String) (d : Directory) : Except String Output × Directory :=
  if command.contains '\x00' then
    (.error ("spawning process for '" ++ command ++ "'"), d)
  else
    let (output, d) := Shell.execute (Octets.ofString command) d
    (.ok output, d)

/-- What is said about a command that has failed: how it ended, and its errors. -/
def failureText (command : String) (o : Output) : String :=
  let status := match o.status with
    | some n => toString n
    | none => "signal"
  let errors := String.ofList (Text.trim o.stderr.toText.toList)
  "command '" ++ command ++ "' exited with " ++ status ++
    if errors.isEmpty then "" else ": " ++ errors

/-- What a command comes to that has to succeed. -/
def demandSuccess (command : String) (result : Except String Output) : Except String Output := do
  let o ← result
  if o.isSuccess then return o else throw (failureText command o)

/-! ## Completion checks -/

/-- A command that says whether an element is there. -/
structure ReadyCheck where
  command : String
  /-- What a line of its output has to match. -/
  pattern : Option Pattern := none

namespace ReadyCheck

/-- The command says that the element is there. -/
def isPassed (c : ReadyCheck) (o : Output) : Bool :=
  let lines := Text.lines o.stdout.toText.toList
  o.isSuccess && c.pattern.all fun p => lines.any p.matchesIn

/-- Whether an element is done under a goal, if its check is passed or not. -/
def readiness (c : ReadyCheck) (goal : Goal) (passed : Bool) : Readiness :=
  match goal, passed with
  | .deployed, true | .destroyed, false => .ready
  | .deployed, false => .waitingFor ("Waiting for '" ++ c.command ++ "' to succeed")
  | .destroyed, true => .waitingFor ("Waiting for '" ++ c.command ++ "' to stop succeeding")

end ReadyCheck

/-! ## Callbacks -/

/-- The commands behind callbacks, by their numbers. -/
structure Commands where
  bodies : List String := []
  checks : List (Option ReadyCheck) := []

namespace Commands

open Engine

/-- Run a command, let the time pass that it takes, a millisecond at the least, and go on with what
it has come to. -/
def jobOf {α : Type} (command : String) (next : Except String Output → Answer α) :
    Job Directory α :=
  .act (fun _ d => d) fun _ d =>
    let (result, after) := runCommand command d
    let slept := match result with
      | .ok o => o.slept
      | .error _ => 0
    .act (fun _ _ => after) fun _ _ => .sleep (1 + slept) (.done (next result))

/-- The body of an action. -/
def body (c : Commands) (id : CallbackId) : Job Directory Unit :=
  let command := (c.bodies[id]?).getD ""
  .note ⟨.info, .command, "starting command", [("cmd", command)]⟩
    (jobOf command fun result =>
      match demandSuccess command result with
      | .ok _ => .reply (.ok ())
      | .error text => .reply (.error (.text text none)))

/-- The completion check of an element. -/
def check (c : Commands) (id : CallbackId) (goal : Goal) : Job Directory Readiness :=
  match (c.checks[id]?).bind fun check => check with
  | none => .done (.reply (.ok .ready))
  | some check =>
    jobOf check.command fun result =>
      match result with
      | .ok o => .reply (.ok (check.readiness goal (check.isPassed o)))
      | .error text => .reply (.error (.text text none))

/-- The commands as an environment. -/
def callbacks (c : Commands) : Callbacks Directory where
  ask _ d := (.ready, d)
  body := c.body
  check := c.check
  setClock _ d := d

end Commands

/-- The completion check in the section of an element. -/
def PlanFile.ElementSection.check (s : PlanFile.ElementSection) : Option ReadyCheck :=
  s.readyCommand.map fun command => ⟨command, s.readyPattern.bind Pattern.parse⟩

/-- The commands of a plan file: those of its actions and of its elements, by the places of their
sections. -/
def PlanFile.commands (f : PlanFile) : Commands where
  bodies := f.actions.map (·.2.command)
  checks := f.elements.map (·.2.check)

end Rollout
