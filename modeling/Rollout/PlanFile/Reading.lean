import Rollout.PlanFile.Basic
import Rollout.Fault
import Rollout.Toml.Document
import Rollout.Toml.Decode

/-!
# Reading: plan files from TOML

`Draft.ofTable` says which entries of a document mean what, and what stands in for those that are
missing; the command of an action is the only one that may not be.
-/

namespace Rollout.PlanFile

open Toml

/-- Read a goal. -/
def goalOf : Value → Option Goal := Decode.oneOf Goal.all Goal.word

/-- Read what is to happen to an element. -/
def fateOf : Value → Option Fate := Decode.oneOf [.added, .common, .deleted] Fate.word

/-- Read a kind of change. -/
def kindOf : Value → Option ChangeKind :=
  Decode.oneOf ChangeKind.all ChangeKind.word

/-- Read a list of texts. -/
def textsOf : Value → Option (List String) := Decode.list Decode.text

/-- Read the section of the options. -/
def OptionsSection.ofValue (v : Value) : Option OptionsSection := do
  match ← Decode.fields ["goal", "concurrency", "dry_run", "poll_delay", "timeout"] v with
  | [goal, concurrency, dryRun, pollDelay, timeout] =>
    return {
      goal := ← Decode.orElse .deployed goalOf goal
      concurrency := ← Decode.optional Decode.count concurrency
      dryRun := ← Decode.orElse false Decode.boolean dryRun
      pollDelay := ← Decode.optional Decode.text pollDelay
      timeout := ← Decode.optional Decode.text timeout }
  | _ => none

/-- Read the section of an element. -/
def ElementSection.ofValue (v : Value) : Option ElementSection := do
  match ← Decode.fields ["diff", "depends_on", "ready_cmd", "ready_on_stdout", "component"] v with
  | [diff, dependsOn, readyCommand, readyPattern, component] =>
    return {
      fate := ← Decode.orElse .added fateOf diff
      dependsOn := ← Decode.orElse [] textsOf dependsOn
      readyCommand := ← Decode.optional Decode.text readyCommand
      readyPattern := ← Decode.optional Decode.text readyPattern
      component := ← Decode.optional Decode.text component }
  | _ => none

/-- Read the section of an action. -/
def ActionSection.ofValue (v : Value) : Option ActionSection := do
  match ← Decode.fields ["cmd", "type", "detail", "changes"] v with
  | [some command, kind, detail, changes] =>
    return {
      command := ← Decode.text command
      kind := ← Decode.orElse .modify kindOf kind
      detail := ← Decode.optional Decode.text detail
      changes := ← Decode.orElse [] textsOf changes }
  | _ => none

/-- Read a plan file off the table of a document. -/
def Draft.ofTable (t : Table) : Option Draft := do
  match ← Decode.fields ["series", "options", "element", "action"] (.table t) with
  | [series, options, elements, actions] =>
    return {
      series := ← Decode.orElse [] (Decode.list textsOf) series
      options := ← Decode.orElse {} OptionsSection.ofValue options
      elements := ← Decode.orElse [] (Decode.entries ElementSection.ofValue) elements
      actions := ← Decode.orElse [] (Decode.entries ActionSection.ofValue) actions }
  | _ => none

/-- Read a plan file. -/
def Draft.ofText (text : String) : Except Fault Draft :=
  match parse text >>= Draft.ofTable with
  | some d => .ok d
  | none => .error (.malformed "not a plan file")

/-- Read a plan file from the bytes of a file. -/
def Draft.ofBytes (bytes : ByteArray) : Except Fault Draft :=
  match String.fromUTF8? bytes with
  | some text => Draft.ofText text
  | none => .error (.io "stream did not contain valid UTF-8")

end Rollout.PlanFile
