import Rollout.Shell.Arithmetic
import Rollout.Shell.Directory
import Rollout.Shell.Script

/-!
# Machine: what commands work on

A machine is the directory tree together with all that a shell keeps in mind.  What commands write
goes into sinks, what they read comes out of sources; descriptors say which.  A step (`Step`) acts
on a machine and may leave the place where the script has got to.
-/

namespace Rollout.Shell

/-- Where a descriptor leads. -/
inductive Channel where
  | source (n : Nat)
  | sink (n : Nat)
  /-- To the end of a file. -/
  | file (p : Path)
  | nothing
deriving DecidableEq, Repr, Inhabited

/-- The state of a shell. -/
structure Machine where
  directory : Directory
  /-- The working directory. -/
  here : Path := []
  held : Sum.Variables := []
  /-- The variables that other processes see. -/
  published : List Octets := []
  /-- The name of the script. -/
  title : Octets := ['s', 'h']
  /-- Positional parameters. -/
  arguments : List Octets := []
  functions : List (Octets × Command) := []
  /-- What the variables of the function that runs have hidden. -/
  hidden : List (Octets × Option Octets) := []
  /-- What is to be done when the script ends. -/
  farewell : Octets := []
  /-- The status of the last command. -/
  status : Nat := 0
  /-- The status of the last command inside a word, since this was last taken away. -/
  inner : Option Nat := none
  descriptors : List (Nat × Channel) := []
  /-- What is left to read. -/
  sources : Array Octets := #[]
  /-- What has been written, backwards. -/
  sinks : Array Octets := #[]
  /-- The number of the process. -/
  process : Nat := 1000
  /-- Milliseconds spent asleep. -/
  slept : Nat := 0
  /-- A command that fails ends the script. -/
  strict : Bool := false
  /-- A variable that is missing ends the script. -/
  exact : Bool := false
  /-- What is run is a test, which may fail. -/
  testing : Bool := false
deriving Inhabited

/-- Why the script is not continued where it is. -/
inductive Leave where
  | exit (status : Nat)
  /-- A signal has ended the shell. -/
  | killed (signal : Nat)
  /-- Leave so many loops. -/
  | breakOut (loops : Nat)
  /-- Leave all but the last of so many loops, and go on with the next round of that. -/
  | goOn (loops : Nat)
  /-- Leave a function. -/
  | giveBack (status : Nat)
deriving DecidableEq, Repr, Inhabited

/-- An act on a machine. -/
abbrev Step := ExceptT Leave (StateM Machine)

namespace Step

/-- Write to a descriptor. -/
def write (descriptor : Nat) (o : Octets) : Step Unit := modify fun m =>
  match m.descriptors.lookup descriptor with
  | some (.sink n) => { m with sinks := m.sinks.modify n fun s => o.reverse ++ s }
  | some (.file p) =>
    match m.directory.change p (· ++ o) with
    | .ok directory => { m with directory }
    | .error _ => m
  | _ => m

/-- Write to the output. -/
def say (o : Octets) : Step Unit := write 1 o

/-- Write a line to the errors. -/
def complain (text : Octets) : Step Unit := write 2 text.line

/-- Change what is left to read. -/
def takeInput (f : Octets → Octets × Octets) : Step Octets := modifyGet fun m =>
  match m.descriptors.lookup 0 with
  | some (.source n) =>
    let (taken, rest) := f (m.sources.getD n [])
    (taken, { m with sources := m.sources.setIfInBounds n rest })
  | _ => ([], m)

/-- Read all that is left of the input. -/
def input : Step Octets := takeInput fun o => (o, [])

/-- Read a line with its end. -/
def inputLine : Step Octets :=
  takeInput fun o =>
    let line := o.takeWhile (· != '\n')
    (o.take (line.length + 1), o.drop (line.length + 1))

/-- The path that a text names. -/
def path (o : Octets) : Step Path := do return Path.ofOctets (← get).here o

/-- Change the directory tree. -/
def inDirectory (f : Directory → Directory) : Step Unit :=
  modify fun m => { m with directory := f m.directory }

/-- Read a file, or the input if the name is a dash. -/
def contentOf (name : Octets) : Step (Except Directory.Problem Octets) := do
  if name == ['-'] then return .ok (← input)
  else return (← get).directory.read (← path name)

/-- What a variable holds. -/
def held? (name : Octets) : Step (Option Octets) := do return (← get).held.lookup name

/-- Let a variable hold something. -/
def assign (name value : Octets) : Step Unit :=
  modify fun m => { m with held := Sum.assignIn name value m.held }

/-- End the script because it cannot be followed any further. -/
def giveUp {α : Type} (text : Octets) : Step α := do
  complain ("sh: 1: ".toList ++ text)
  throw (.exit 2)

/-- Take a step and let the descriptors lead where they led before. -/
def within {α : Type} (step : Step α) : Step α := ExceptT.mk fun m =>
  let (result, after) := step.run.run m
  (result, { after with descriptors := m.descriptors })

/-- Take a step as a test, whose failure does not end the script. -/
def asTest {α : Type} (step : Step α) : Step α := ExceptT.mk fun m =>
  let (result, after) := step.run.run { m with testing := true }
  (result, { after with testing := m.testing })

/-- Take a step in a shell of its own, of which only what it did to files and streams is left
besides its status. -/
def apart (step : Step Unit) : Step Nat := ExceptT.mk fun m =>
  let (result, after) := step.run.run m
  let left := { m with
    directory := after.directory
    sources := after.sources
    sinks := after.sinks
    slept := after.slept }
  match result with
  | .error (.killed signal) => (.error (.killed signal), left)
  | .error (.exit n) | .error (.giveBack n) => (.ok n, left)
  | _ => (.ok after.status, left)

/-- Let a descriptor lead somewhere. -/
def redirect (descriptor : Nat) (c : Channel) : Step Unit :=
  modify fun m =>
    { m with descriptors := (descriptor, c) :: m.descriptors.filter (·.1 != descriptor) }

/-- A new sink. -/
def newSink : Step Nat := modifyGet fun m => (m.sinks.size, { m with sinks := m.sinks.push [] })

/-- A new source. -/
def newSource (content : Octets) : Step Nat :=
  modifyGet fun m => (m.sources.size, { m with sources := m.sources.push content })

end Step

end Rollout.Shell
