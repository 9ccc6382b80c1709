import Rollout.Engine.Timeline

/-!
# Script: callbacks that say what they are told to say

For rehearsing a plan without the outside world.  A script is a list of steps; each call of a
callback takes one step, and the last step is repeated for ever.  The `Stage` holds the scripts of
all callbacks and writes down who was called when.  `callbacks` makes an environment of it.
-/

namespace Rollout.Rehearsal

open Engine

/-- The steps that are left of a script. -/
structure Script (α : Type) where
  steps : List α
deriving Repr, Inhabited

/-- The step that the next call takes; none only for a script without steps. -/
def Script.head? {α : Type} (s : Script α) : Option α := s.steps.head?

/-- The script after a call. -/
def Script.tail {α : Type} (s : Script α) : Script α :=
  match s.steps with
  | _ :: next :: rest => ⟨next :: rest⟩
  | steps => ⟨steps⟩

/-- What a step of a completion check comes to. -/
inductive CheckStep.End where
  | answer (r : Readiness)
  /-- Ready only under one goal, a fault under the other. -/
  | onlyFor (goal : Goal)
  /-- Ready if the outside world reports this status of the element itself. -/
  | reported (status : String)
  /-- Ready if another element has reached its goal. -/
  | reached (element : ElementId)
  | fail (f : Failure)
  | panic
deriving Inhabited

/-- One step of a completion check. -/
structure CheckStep where
  sleep : Nat := 0
  ending : CheckStep.End := .answer .ready
deriving Inhabited

/-- One step of a body. -/
structure BodyStep where
  /-- The length of a sleep, if the body sleeps at all. -/
  sleep : Option Nat := none
  ending : Answer Unit := .reply (.ok ())

instance : Inhabited BodyStep := ⟨{}⟩

/-- One step of a report about an element. -/
structure SourceStep where
  sleep : Nat := 0
  ending : Answer (Option String) := .reply (.ok none)

instance : Inhabited SourceStep := ⟨{}⟩

/-- The script of a completion check, for an element or for a piece of work. -/
structure CheckScript where
  name : String
  element : ElementId
  script : Script CheckStep
deriving Inhabited

/-- The script of a body. -/
structure BodyScript where
  detail : String
  script : Script BodyStep
deriving Inhabited

/-- A call that was made. -/
inductive Call where
  | check (id : CallbackId) (name : String) (goal : Goal)
  | body (id : CallbackId) (detail : String)
  | bodyEnd (detail : String)
  | condition (description : String)
  | source (element : ElementId)
deriving DecidableEq, Repr

/-- A call as text. -/
def Call.text : Call → String
  | check _ name goal => "check " ++ name ++ " " ++ goal.name
  | body _ detail => "act " ++ detail
  | bodyEnd detail => "act-end " ++ detail
  | condition description => "cond " ++ description
  | source element => "source " ++ element

/-- All scripts, and the calls so far. -/
structure Stage where
  now : Nat := 0
  conditions : Array (Script Readiness) := #[]
  checks : Array CheckScript := #[]
  bodies : Array BodyScript := #[]
  /-- Reports about elements; absent when there is nobody to ask. -/
  sources : Option (List (ElementId × Script SourceStep)) := none
  calls : Array (Nat × Call) := #[]
deriving Inhabited

namespace Stage

/-- Write down a call. -/
def log (s : Stage) (c : Call) : Stage := { s with calls := s.calls.push (s.now, c) }

/-- Register a condition. -/
def addCondition (s : Stage) (script : Script Readiness) : Stage × Nat :=
  ({ s with conditions := s.conditions.push script }, s.conditions.size)

/-- Register a completion check. -/
def addCheck (s : Stage) (c : CheckScript) : Stage × CallbackId :=
  ({ s with checks := s.checks.push c }, s.checks.size)

/-- Register a body. -/
def addBody (s : Stage) (b : BodyScript) : Stage × CallbackId :=
  ({ s with bodies := s.bodies.push b }, s.bodies.size)

/-- Ask a condition. -/
def ask (c : Condition) (s : Stage) : Readiness × Stage :=
  let s := s.log (.condition c.description)
  let script := s.conditions.getD c.probe ⟨[]⟩
  (script.head?.getD .ready, { s with conditions := s.conditions.modify c.probe Script.tail })

/-- How often a completion check was called. -/
def checkCount (s : Stage) (id : CallbackId) : Nat :=
  s.calls.foldl (fun n c => match c.2 with
    | .check i _ _ => if i = id then n + 1 else n
    | _ => n) 0

/-- How often a body was started. -/
def bodyCount (s : Stage) (id : CallbackId) : Nat :=
  s.calls.foldl (fun n c => match c.2 with
    | .body i _ => if i = id then n + 1 else n
    | _ => n) 0

end Stage

/-! ## Jobs -/

/-- A job of the rehearsal. -/
abbrev StageJob := Job Stage

/-- Change the stage and go on. -/
def change {α : Type} (f : Stage → Stage) (next : Stage → StageJob α) : StageJob α :=
  .act (fun _ s => f s) (fun _ s => next s)

/-- Whether a reported status is the one that is wanted. -/
def judge (wanted : String) : Answer (Option String) → Answer Readiness
  | .panic => .panic
  | .reply (.error f) => .reply (.error f)
  | .reply (.ok none) => .reply (.ok (.waitingFor "no status"))
  | .reply (.ok (some status)) =>
    .reply (.ok (if status = wanted then .ready else .waitingFor ("status is " ++ status)))

/-- Ask for the status of an element and see whether it is the one that is wanted. -/
def askSource (element : ElementId) (wanted : String) : StageJob Readiness :=
  change id fun s =>
    match s.sources with
    | none => .done (judge wanted (.reply (.ok none)))
    | some table =>
      change (·.log (.source element)) fun _ =>
        match table.lookup element with
        | none => .done (judge wanted (.reply (.ok none)))
        | some script =>
          let step := script.head?.getD {}
          let pass := table.map fun row =>
            if row.1 == element then (row.1, row.2.tail) else row
          change (fun s => { s with sources := some pass }) fun _ =>
            .sleep step.sleep (.done (judge wanted step.ending))

/-- See whether an element has reached its goal. -/
def askReached (element : ElementId) : StageJob Readiness :=
  .act (fun _ s => s) fun view _ =>
    match view element with
    | .error f => .done (.reply (.error (.fault f none)))
    | .ok true => .done (.reply (.ok .ready))
    | .ok false => .done (.reply (.ok (.waitingFor (element ++ " is not deployed"))))

/-- The end of a step of a completion check. -/
def endCheck (element : ElementId) (goal : Goal) : CheckStep.End → StageJob Readiness
  | .answer r => .done (.reply (.ok r))
  | .onlyFor wanted =>
    .done (.reply (if goal = wanted then .ok .ready
      else .error (.fault (.config ("wrong goal " ++ goal.name)) none)))
  | .reported status => askSource element status
  | .reached other => askReached other
  | .fail f => .done (.reply (.error f))
  | .panic => .done .panic

/-- A call of a completion check. -/
def checkJob (id : CallbackId) (goal : Goal) : StageJob Readiness :=
  change (fun s => s.log (.check id (s.checks.getD id default).name goal)) fun s =>
    let check := s.checks.getD id default
    let step := check.script.head?.getD {}
    let pass := fun (s : Stage) =>
      { s with checks := s.checks.modify id fun c => { c with script := c.script.tail } }
    change pass fun _ => .sleep step.sleep (endCheck check.element goal step.ending)

/-- A call of a body. -/
def bodyJob (id : CallbackId) : StageJob Unit :=
  change (fun s => s.log (.body id (s.bodies.getD id default).detail)) fun s =>
    let body := s.bodies.getD id default
    let step := body.script.head?.getD {}
    let pass := fun (s : Stage) =>
      { s with bodies := s.bodies.modify id fun b => { b with script := b.script.tail } }
    change pass fun _ =>
      match step.sleep with
      | none => .done step.ending
      | some millis =>
        .sleep millis (change (·.log (.bodyEnd body.detail)) fun _ => .done step.ending)

/-- The stage as an environment. -/
def callbacks : Callbacks Stage where
  ask := Stage.ask
  body := bodyJob
  check := checkJob
  setClock now s := { s with now }

end Rollout.Rehearsal
