import Rollout.Status.Basic
import Rollout.Duration

/-!
# PlanFile: a deployment as users write it down

A plan file has a section for every element and for every action, options for the run, and series
of actions.  `Draft` is a plan file as it was read, `PlanFile` one whose options have been made
sense of.  Elements and actions are in the order of their names.
-/

namespace Rollout

/-- What is to happen to an element. -/
inductive Fate where
  /-- It is new. -/
  | added
  /-- It is there and stays. -/
  | common
  /-- It is to go. -/
  | deleted
deriving DecidableEq, Repr, Inhabited

/-- The word that plan files write. -/
def Fate.word : Fate → String
  | added => "added"
  | common => "common"
  | deleted => "deleted"

/-- The word that plan files write for a kind of change. -/
def ChangeKind.word : ChangeKind → String
  | none => "none"
  | create => "create"
  | delete => "delete"
  | modify => "modify"
  | replace => "replace"

namespace PlanFile

/-- The section of an element. -/
structure ElementSection where
  fate : Fate := .added
  /-- Names of the elements it needs. -/
  dependsOn : List String := []
  /-- A command that succeeds once the element is there. -/
  readyCommand : Option String := none
  /-- A pattern that a line of the command's output has to match as well. -/
  readyPattern : Option String := none
  component : Option String := none
deriving DecidableEq, Repr, Inhabited

/-- The section of an action. -/
structure ActionSection where
  command : String
  kind : ChangeKind := .modify
  detail : Option String := none
  /-- Names of the elements it changes. -/
  changes : List String := []
deriving DecidableEq, Repr, Inhabited

/-- The options as written. -/
structure OptionsSection where
  goal : Goal := .deployed
  concurrency : Option Nat := none
  dryRun : Bool := false
  pollDelay : Option String := none
  timeout : Option String := none
deriving DecidableEq, Repr, Inhabited

/-- A plan file as it was read. -/
structure Draft where
  series : List (List String) := []
  options : OptionsSection := {}
  elements : List (String × ElementSection) := []
  actions : List (String × ActionSection) := []
deriving DecidableEq, Repr, Inhabited

/-- The options. -/
structure RunOptions where
  goal : Goal := .deployed
  concurrency : Option Nat := none
  dryRun : Bool := false
  pollDelay : Option Duration := none
  timeout : Option Duration := none
deriving DecidableEq, Repr, Inhabited

end PlanFile

/-- A plan file. -/
structure PlanFile where
  options : PlanFile.RunOptions
  elements : List (String × PlanFile.ElementSection)
  actions : List (String × PlanFile.ActionSection)
  series : List (List String)
deriving DecidableEq, Repr, Inhabited

/-- The plan file of a draft whose options are not looked at for durations. -/
def PlanFile.Draft.unchecked (d : PlanFile.Draft) : PlanFile where
  options := ⟨d.options.goal, d.options.concurrency, d.options.dryRun, none, none⟩
  elements := d.elements
  actions := d.actions
  series := d.series

end Rollout
