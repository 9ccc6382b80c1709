import Rollout.PlanFile.Basic
import Rollout.Fault
import Rollout.Pattern.Reading

/-!
# Validation: whether a plan file makes sense

`Draft.validate` turns a draft into a plan file, or says what the first thing wrong with it is.
It looks at the options first, then at the elements and at the actions in the order of their
names, and last at the series.  What is a pattern is left to a judge.
-/

namespace Rollout.PlanFile

/-- A fault of configuration. -/
def refuse {α : Type} (text : String) : Except Fault α := .error (.config text)

/-- Fail with a text unless something holds. -/
def demand (holds : Bool) (text : String) : Except Fault Unit :=
  if holds then .ok () else refuse text

/-- Fail unless the pattern of an element is one. -/
def checkPattern (judge : Pattern.Judge) (id pattern : String) : Except Fault Unit :=
  match judge pattern with
  | .ok _ => .ok ()
  | .error text =>
    refuse ("element '" ++ id ++ "' has invalid \x60ready_on_stdout\x60 regex: " ++ text)

/-- Read a duration among the options. -/
def checkDuration (field : String) : Option String → Except Fault (Option Duration)
  | none => .ok none
  | some s =>
    match Duration.parse s with
    | .ok d => .ok (some d)
    | .error e => refuse ("[options]." ++ field ++ ": " ++ e.message)

/-- Make sense of the options. -/
def checkOptions (o : OptionsSection) : Except Fault RunOptions := do
  demand (o.concurrency != some 0) "[options].concurrency must be >= 1 (got 0)"
  let pollDelay ← checkDuration "poll_delay" o.pollDelay
  let timeout ← checkDuration "timeout" o.timeout
  return ⟨o.goal, o.concurrency, o.dryRun, pollDelay, timeout⟩

/-- There is an element with a name. -/
def Draft.hasElement (d : Draft) (id : String) : Bool := (d.elements.lookup id).isSome

/-- There is an action with a name. -/
def Draft.hasAction (d : Draft) (name : String) : Bool := (d.actions.lookup name).isSome

/-- Check one dependency of an element. -/
def checkDependency (d : Draft) (id dependency : String) : Except Fault Unit := do
  demand (d.hasElement dependency)
    ("element '" ++ id ++ "' has unknown dependency '" ++ dependency ++
      "' in \x60depends_on\x60")
  demand (dependency != id)
    ("element '" ++ id ++ "' cannot depend on itself in \x60depends_on\x60")

/-- Check the section of an element. -/
def checkElement (judge : Pattern.Judge) (d : Draft) (e : String × ElementSection) :
    Except Fault Unit := do
  e.2.dependsOn.forM (checkDependency d e.1)
  match e.2.readyPattern with
  | none => return ()
  | some pattern =>
    demand e.2.readyCommand.isSome
      ("element '" ++ e.1 ++ "' sets \x60ready_on_stdout\x60 without \x60ready_cmd\x60")
    checkPattern judge e.1 pattern

/-- Check the section of an action. -/
def checkAction (d : Draft) (a : String × ActionSection) : Except Fault Unit := do
  demand (!(Text.trim a.2.command.toList).isEmpty)
    ("action '" ++ a.1 ++ "' has an empty \x60cmd\x60")
  a.2.changes.forM fun e =>
    demand (d.hasElement e) ("action '" ++ a.1 ++ "' changes unknown element '" ++ e ++ "'")

/-- Check the series: each names known actions, and no action comes twice. -/
def checkSeries (d : Draft) : List String → List String → Except Fault Unit
  | _, [] => .ok ()
  | seen, name :: rest => do
    demand (d.hasAction name) ("series references unknown action '" ++ name ++ "'")
    demand (!seen.contains name)
      ("action '" ++ name ++ "' appears in more than one series position")
    checkSeries d (name :: seen) rest

/-- Make a plan file of a draft. -/
def Draft.validate (d : Draft) (judge : Pattern.Judge := Pattern.judge) :
    Except Fault PlanFile := do
  demand (!(d.elements.isEmpty && d.actions.isEmpty))
    "plan must contain at least one [element.<id>] or [action.<name>] section"
  let options ← checkOptions d.options
  d.elements.forM (checkElement judge d)
  d.actions.forM (checkAction d)
  checkSeries d [] d.series.flatten
  return ⟨options, d.elements, d.actions, d.series⟩

end Rollout.PlanFile
