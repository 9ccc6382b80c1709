import Rollout.Engine.Evaluation

/-!
# Pass: evaluations side by side

A pass works through the node queue with one task per queued node.  A task first takes a permit,
if the number of evaluations in flight is limited, then the lock of its node, and then evaluates
the node; permits and locks go to waiting tasks in the order in which they asked.  Nobody closes
the limiter while a pass is under way, so that to ask for a permit never fails: a task has to wait
for one at most.

The moves of a pass are atomic and total: `spawn` turns queued nodes into tasks, `resume` lets a
runnable task go on until it has to wait, and `answerBody` and `answerCheck` hand a paused task
the answer of its callback.  A pass says nothing about the order in which runnable tasks are
resumed and callbacks answer; `runnable` lists the tasks in the order in which they became so.
-/

namespace Rollout.Engine

/-- The number of a task within its pass. -/
abbrev TaskId := Nat

/-- The most permits that a limiter holds. -/
def maxPermits : Nat := 0xffffffffffffffff >>> 3

/-- Where a task stands. -/
inductive Phase where
  /-- About to ask for a permit. -/
  | arriving
  | awaitingPermit
  /-- Given a permit, and about to ask for the lock of its node. -/
  | permitted
  | awaitingLock
  /-- Given the lock, and about to evaluate. -/
  | locked
  /-- Evaluating, and waiting for a callback. -/
  | paused (p : Pause)
deriving DecidableEq, Repr

/-- An evaluation that has been asked for. -/
structure Task where
  id : TaskId
  node : NodeId
  phase : Phase
deriving DecidableEq, Repr

/-- State of a pass. -/
structure Pass (ω : Type) where
  shared : State ω
  /-- Tasks that have not ended, the oldest first. -/
  tasks : List Task := []
  /-- How many tasks there have been. -/
  spawned : Nat := 0
  /-- Tasks that can be resumed, in the order in which they became runnable. -/
  runnable : List TaskId := []
  /-- Permits that nobody holds; absent when evaluations are not limited. -/
  free : Option Nat
  /-- Tasks that wait for a permit, the first in line first. -/
  permitLine : List TaskId := []
  /-- Nodes whose lock is held. -/
  held : List NodeId := []
  /-- Tasks that wait for the lock of a node, the first in line first. -/
  lockLine : List (NodeId × TaskId) := []
  /-- Results of tasks that have ended and have not been looked at, the oldest first. -/
  results : List (Except Fault Unit) := []

namespace Pass

variable {ω : Type}

/-- The pass before anything is queued.  A limit below one counts as one; that it is not above
`maxPermits` is for whoever starts the pass to see to. -/
def ofState (shared : State ω) (concurrency : Option Nat) : Pass ω :=
  { shared, free := concurrency.map (max 1) }

/-- The task with a number. -/
def task? (p : Pass ω) (t : TaskId) : Option Task := p.tasks.find? (·.id == t)

/-- Move a task to another phase. -/
def setPhase (p : Pass ω) (t : TaskId) (s : Phase) : Pass ω :=
  { p with tasks := p.tasks.map fun k => if k.id == t then { k with phase := s } else k }

/-- Move a task to a phase from which it can be resumed. -/
def wake (p : Pass ω) (t : TaskId) (s : Phase) : Pass ω :=
  { p.setPhase t s with runnable := p.runnable ++ [t] }

/-- A new task for a node. -/
def spawnOne (p : Pass ω) (n : NodeId) : Pass ω :=
  { p with
    tasks := p.tasks ++ [⟨p.spawned, n, .arriving⟩]
    spawned := p.spawned + 1
    runnable := p.runnable ++ [p.spawned] }

/-- Turn every queued node into a task. -/
def spawn (p : Pass ω) : Pass ω :=
  p.shared.queue.foldl spawnOne { p with shared := { p.shared with queue := [] } }

/-! ## Ends of tasks -/

/-- Pass the lock of a node on to the first in line, or put it back. -/
def releaseLock (p : Pass ω) (n : NodeId) : Pass ω :=
  match p.lockLine.find? (·.1 == n) with
  | some next =>
    { p with lockLine := p.lockLine.eraseP (·.1 == n) }.wake next.2 .locked
  | none => { p with held := p.held.filter (· != n) }

/-- Pass a permit on to the first in line, or put it back. -/
def releasePermit (p : Pass ω) : Pass ω :=
  match p.free with
  | none => p
  | some free =>
    match p.permitLine with
    | next :: line => { p with permitLine := line }.wake next .permitted
    | [] => { p with free := some (free + 1) }

/-- End a task: its lock is passed on first, then its permit. -/
def finish (p : Pass ω) (k : Task) (result : Except Fault Unit) : Pass ω :=
  let p := { p with tasks := p.tasks.filter (·.id != k.id), results := p.results ++ [result] }
  (p.releaseLock k.node).releasePermit

/-- Run a segment of the evaluation of a task. -/
def runSegment (p : Pass ω) (k : Task) (segment : StateM (State ω) Progress) : Pass ω :=
  let (progress, shared) := segment.run p.shared
  let p := { p with shared }
  match progress with
  | .paused pause => p.setPhase k.id (.paused pause)
  | .finished result => p.finish k result

/-! ## Moves -/

/-- Take the lock of the node and evaluate it, or get in line for the lock. -/
def takeLock (ask : Condition → ω → Readiness × ω) (p : Pass ω) (k : Task) : Pass ω :=
  if p.held.contains k.node then
    { p with lockLine := p.lockLine ++ [(k.node, k.id)] }.setPhase k.id .awaitingLock
  else { p with held := k.node :: p.held }.runSegment k (begin ask k.node)

/-- Take a permit and then the lock, or get in line for a permit. -/
def takePermit (ask : Condition → ω → Readiness × ω) (p : Pass ω) (k : Task) : Pass ω :=
  match p.free with
  | none => p.takeLock ask k
  | some 0 => { p with permitLine := p.permitLine ++ [k.id] }.setPhase k.id .awaitingPermit
  | some (free + 1) => { p with free := some free }.takeLock ask k

/-- Let a runnable task go on until it has to wait or ends. -/
def resume (ask : Condition → ω → Readiness × ω) (p : Pass ω) (t : TaskId) : Pass ω :=
  let p := { p with runnable := p.runnable.erase t }
  match p.task? t with
  | none => p
  | some k =>
    match k.phase with
    | .arriving => p.takePermit ask k
    | .permitted => p.takeLock ask k
    | .locked => p.runSegment k (begin ask k.node)
    | .awaitingPermit | .awaitingLock | .paused _ => p

/-- Hand a task the end of its body. -/
def answerBody (p : Pass ω) (t : TaskId) (answer : Answer Unit) : Pass ω :=
  match p.task? t with
  | some k =>
    match k.phase with
    | .paused (.body _) => p.runSegment k (resumeBody k.node answer)
    | _ => p
  | none => p

/-- Hand a task the answer of its completion check. -/
def answerCheck (p : Pass ω) (t : TaskId) (answer : Answer Readiness) : Pass ω :=
  match p.task? t with
  | some k =>
    match k.phase with
    | .paused (.check _) => p.runSegment k (resumeCheck k.node answer)
    | _ => p
  | none => p

end Pass

end Rollout.Engine
