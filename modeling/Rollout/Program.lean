import Rollout.CommandLine.Reading
import Rollout.Engine.Run
import Rollout.Log.Filter
import Rollout.Plan.Dump
import Rollout.PlanFile.Commands
import Rollout.PlanFile.Deployment
import Rollout.PlanFile.Reading

/-!
# Program: from arguments and a plan file to a summary

`PlanFile.course` says what a plan file and the arguments ask for: a plan to be shown, or the run of
a plan.  It is the same for every environment.  `carryOut` reads the plan file, follows its course,
and puts into words what has come of it; a run that ends with another status than the goal is a
fault.
-/

namespace Rollout

open Shell (Directory Octets Path)
open CommandLine (Arguments Refusal)

/-! ## What is asked for -/

/-- The goal: that of the arguments, or else that of the plan file. -/
def PlanFile.goal (f : PlanFile) (a : Arguments) : Goal := a.goal.getD f.options.goal

/-- How the plan is to be run: what the arguments say comes first, then the plan file. -/
def PlanFile.runOptions (f : PlanFile) (a : Arguments) : Except Fault Engine.Options := do
  let concurrency := a.concurrency.or f.options.concurrency
  if concurrency == some 0 then throw (.config "--concurrency must be >= 1 (got 0)")
  return {
    concurrency
    dryRun := a.dryRun || f.options.dryRun
    pollDelay := (a.pollDelay.or f.options.pollDelay).getD (.ofSeconds 1)
    timeout := a.timeout.or f.options.timeout }

/-- The plan of a plan file under a goal, without cycles. -/
def PlanFile.plan (f : PlanFile) (goal : Goal) (judge : Pattern.Judge := Pattern.judge) :
    Except Fault Plan := do
  let d ← f.deployment judge
  let p ← { d with goal }.plan
  p.check
  return p

/-- What is said when a run begins. -/
def startEvent (a : Arguments) (goal : Goal) (o : Engine.Options) : Log.Event :=
  ⟨.info, .program, "starting deployment",
    [("plan", a.plan), ("goal", goal.name), ("options", o.inspect)]⟩

/-- What a plan file and the arguments come to. -/
inductive Course (ω : Type) where
  /-- The plan is shown. -/
  | shown (p : Plan)
  /-- The plan is carried out. -/
  | followed (goal : Goal) (r : Engine.Report ω)

/-- Show the plan of a plan file, or carry it out in an environment. -/
def PlanFile.course {ω : Type} (calls : Engine.Callbacks ω) (f : PlanFile) (a : Arguments)
    (world : ω) (judge : Pattern.Judge := Pattern.judge) : Except Fault (Course ω) := do
  let goal := f.goal a
  let options ← f.runOptions a
  let plan ← f.plan goal judge
  if a.print then return .shown plan
  return .followed goal
    (Engine.execute calls options {} plan world #[startEvent a goal options])

/-! ## What comes of it -/

/-- The lines of a count. -/
def countLines (c : StatusCounts) : String :=
  String.join ((ReportedStatus.all.filter fun s => c.get s != 0).map fun s =>
    "    " ++ s.name ++ ": " ++ toString (c.get s) ++ "\n")

/-- What is said at the end of a run. -/
def Summary.text (s : Summary) (goal : Goal) : String :=
  "deployplan: " ++ goal.name ++ " -> " ++ s.outcome.name ++ "\n  nodes:\n" ++
    countLines s.nodes ++ "  elements:\n" ++ countLines s.primitives

/-- What the program has said and what has come of it. -/
structure Verdict where
  stdout : String := ""
  log : Array Log.Event := #[]
  result : Except Fault Unit
  /-- The program has panicked, and nobody is told of the result. -/
  panicked : Bool := false

/-- The verdict on a course. -/
def Course.verdict {ω : Type} : Course ω → Verdict
  | .shown p => { stdout := p.print ++ "\n", result := .ok () }
  | .followed goal r =>
    let log := r.state.log
    match r.outcome with
    | .completed s =>
      let stdout := s.text goal
      if s.outcome == goal.status.reported then { stdout, log, result := .ok () }
      else
        let fault := .other ("deployment finished with status " ++ s.outcome.name)
        { stdout, log, result := .error fault }
    | .aborted f => { log, result := .error f }
    | .unfinished =>
      { log, result := .error (.other "deployment interrupted"), panicked := r.panicked }

/-- The environment that a course leaves. -/
def Course.world? {ω : Type} : Course ω → Option ω
  | .shown _ => none
  | .followed _ r => some r.state.world

/-! ## The whole program -/

/-- Read the file at a path. -/
def bytesAt (d : Directory) (path : String) : Except Fault ByteArray :=
  let say := fun (e : Directory.Problem) =>
    Except.error (.io (e.text ++ " (os error " ++ toString e.number ++ ")"))
  if path.isEmpty then say .missing
  else if path.contains '\x00' then .error (.io "file name contained an unexpected NUL byte")
  else
    match d.read (Path.ofOctets [] (Octets.ofString path)) with
    | .ok o => .ok o.toBytes
    | .error e => say e

/-- Read the plan file at a path. -/
def PlanFile.Draft.load (d : Directory) (path : String) : Except Fault PlanFile.Draft :=
  bytesAt d path >>= PlanFile.Draft.ofBytes

/-- Read the plan file at a path, and make sense of it. -/
def PlanFile.load (d : Directory) (path : String) (judge : Pattern.Judge := Pattern.judge) :
    Except Fault PlanFile :=
  PlanFile.Draft.load d path >>= fun draft => draft.validate judge

/-- Do what the arguments ask for in a directory: the verdict, and the directory afterwards. -/
def carryOut (a : Arguments) (d : Directory) : Verdict × Directory :=
  match PlanFile.load d a.plan with
  | .error f => ({ result := .error f }, d)
  | .ok file =>
    match file.course file.commands.callbacks a d with
    | .error f => ({ result := .error f }, d)
    | .ok course => (course.verdict, course.world?.getD d)

/-- A fault with the causes behind it. -/
def Fault.report : Fault → String
  | .io text => (Fault.io text).message ++ "\n\nCaused by:\n    " ++ text
  | f => f.message

/-- How the program ends, as others see it. -/
structure Exit where
  code : Nat
  stdout : String := ""
  /-- The events that the filter lets through. -/
  log : List Log.Event := []
  /-- What is said last of a program that has failed. -/
  failure : Option String := none

/-- What is written when the user asks how the program is used. -/
def usage : String :=
  "Deploy or destroy interdependent elements in dependency order.\n\n" ++
  "Usage: deployplan [OPTIONS]\n"

/-- What is written when the user asks for the version. -/
def versionText : String := "deployplan 0.1.0\n"

/-- The end of a program that does not begin. -/
def Exit.ofRefusal (r : Refusal) : Exit :=
  { code := r.exitCode
    stdout := match r with
      | .help => usage
      | .version => versionText
      | _ => "" }

/-- The whole program: arguments, the filter that the environment asks for, and a directory. -/
def invoke (arguments : List String) (filter : Option String) (d : Directory) : Exit × Directory :=
  match Arguments.parse arguments with
  | .error r => (.ofRefusal r, d)
  | .ok a =>
    let (v, d) := carryOut a d
    let filter := Log.Filter.choose a.logLevel filter
    let log := v.log.toList.filter filter.allows
    if v.panicked then ({ code := 101, stdout := v.stdout, log }, d)
    else match v.result with
    | .ok _ => ({ code := 0, stdout := v.stdout, log }, d)
    | .error f =>
      ({ code := 1, stdout := v.stdout, log,
         failure := some ("deployplan error: " ++ f.report) }, d)

end Rollout
