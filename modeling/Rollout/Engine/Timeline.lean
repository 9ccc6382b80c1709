import Rollout.Engine.Pass

/-!
# Timeline: a pass in virtual time

One definite schedule of a pass.  Runnable tasks are resumed in the order in which they became
runnable; a callback that takes time sets a timer, and when no task can go on the clock jumps to
the earliest timer.  The pass itself looks at results, and turns queued nodes into tasks, only
when no task can go on.

A callback is a `Job`: it acts on the environment, notes events, sleeps, and ends with an answer.
-/

namespace Rollout.Engine

/-- A callback under way. -/
inductive Job (ω : Type) (α : Type) where
  /-- The end. -/
  | done (answer : Answer α)
  /-- Act on the environment, seeing how elements stand, and go on. -/
  | act (effect : Relation.View → ω → ω) (next : Relation.View → ω → Job ω α)
  /-- Note an event in the log and go on. -/
  | note (event : Log.Event) (next : Job ω α)
  /-- Let some milliseconds pass and go on. -/
  | sleep (millis : Nat) (next : Job ω α)

/-- What a job has come to: an answer, or a rest that is to go on after some milliseconds. -/
inductive Job.Halt (ω : Type) (α : Type) where
  | answered (answer : Answer α)
  | asleep (millis : Nat) (rest : Job ω α)

/-- Let a job go on until it sleeps or ends: what it has come to, and the shared state it leaves.
The second part of `act` sees the environment that the first part leaves; a sleep of no length is
none. -/
def Job.advance {ω α : Type} : Job ω α → State ω → Job.Halt ω α × State ω
  | done a, s => (.answered a, s)
  | act effect next, s =>
    let world := effect s.view s.world
    (next s.view world).advance { s with world }
  | note e next, s => next.advance { s with log := s.log.push e }
  | sleep ms rest, s => if ms = 0 then rest.advance s else (.asleep ms rest, s)

/-- What the environment does when it is called. -/
structure Callbacks (ω : Type) where
  ask : Condition → ω → Readiness × ω
  body : CallbackId → Job ω Unit
  check : CallbackId → Goal → Job ω Readiness
  /-- Let the environment know the time. -/
  setClock : Nat → ω → ω

/-- The rest of a callback that sleeps. -/
inductive Sleeper (ω : Type) where
  | body (rest : Job ω Unit)
  | check (rest : Job ω Readiness)

/-- A callback that goes on at a given time. -/
structure Timer (ω : Type) where
  due : Nat
  task : TaskId
  sleeper : Sleeper ω

/-- A pass with a clock. -/
structure Timeline (ω : Type) where
  pass : Pass ω
  now : Nat
  timers : List (Timer ω) := []

/-- How a pass ends. -/
inductive Ending where
  /-- No task is left. -/
  | settled
  /-- A task has met a defect. -/
  | failed (f : Fault)
  /-- The deadline has passed. -/
  | expired

namespace Timeline

variable {ω : Type} (calls : Callbacks ω)

/-- Change the state that tasks share. -/
def setShared (l : Timeline ω) (shared : State ω) : Timeline ω :=
  { l with pass := { l.pass with shared } }

/-- Set the clock. -/
def setNow (l : Timeline ω) (now : Nat) : Timeline ω :=
  let shared := l.pass.shared
  { l with now }.setShared { shared with world := calls.setClock now shared.world }

/-- Set a timer. -/
def addTimer (l : Timeline ω) (millis : Nat) (t : TaskId) (s : Sleeper ω) : Timeline ω :=
  { l with timers := l.timers ++ [⟨l.now + millis, t, s⟩] }

/-- Let the completion check of a task go on. -/
def driveCheck (l : Timeline ω) (t : TaskId) (job : Job ω Readiness) : Timeline ω :=
  let (halt, shared) := job.advance l.pass.shared
  let l := l.setShared shared
  match halt with
  | .asleep ms rest => l.addTimer ms t (.check rest)
  | .answered a => { l with pass := l.pass.answerCheck t a }

/-- Start the completion check of a task, if that is what the task waits for. -/
def startCheck (l : Timeline ω) (t : TaskId) : Timeline ω :=
  match l.pass.task? t with
  | some ⟨_, n, .paused (.check c)⟩ =>
    let goal := (l.pass.shared.plan.nodes[n]?.map (·.goal)).getD .deployed
    l.driveCheck t (calls.check c goal)
  | _ => l

/-- Let the body of a task go on, and start the completion check after it. -/
def driveBody (l : Timeline ω) (t : TaskId) (job : Job ω Unit) : Timeline ω :=
  let (halt, shared) := job.advance l.pass.shared
  let l := l.setShared shared
  match halt with
  | .asleep ms rest => l.addTimer ms t (.body rest)
  | .answered a => { l with pass := l.pass.answerBody t a }.startCheck calls t

/-- Start the callback that a task waits for, if there is one. -/
def startCallback (l : Timeline ω) (t : TaskId) : Timeline ω :=
  match l.pass.task? t with
  | some ⟨_, _, .paused (.body c)⟩ => l.driveBody calls t (calls.body c)
  | _ => l.startCheck calls t

/-- Resume the runnable tasks, the longest runnable first, until there is none.  The first
argument bounds the number of tasks resumed. -/
def drain : Nat → Timeline ω → Timeline ω
  | 0, l => l
  | fuel + 1, l =>
    match l.pass.runnable with
    | [] => l
    | t :: _ => drain fuel ({ l with pass := l.pass.resume calls.ask t }.startCallback calls t)

/-- The timer that goes off next; of two at one time, the one that was set first. -/
def nextTimer (l : Timeline ω) : Option (Timer ω) :=
  l.timers.foldl
    (fun best t => match best with
      | none => some t
      | some b => if t.due < b.due then some t else some b) none

/-- Let a timer go off. -/
def fire (l : Timeline ω) (t : Timer ω) : Timeline ω :=
  let l := { l with timers := l.timers.eraseP fun u => u.task == t.task }
  let l := l.setNow calls t.due
  match t.sleeper with
  | .body rest => l.driveBody calls t.task rest
  | .check rest => l.driveCheck t.task rest

/-- Log an event. -/
def note (l : Timeline ω) (e : Log.Event) : Timeline ω :=
  l.setShared { l.pass.shared with log := l.pass.shared.log.push e }

/-- The clock would have to be set beyond the horizon. -/
def beyond (horizon : Option Nat) (time : Nat) : Bool := horizon.any (· < time)

/-- Let the tasks that are left run to their ends, after the deadline.  Nothing is queued any
more, and defects are only logged. -/
def windDown (horizon : Option Nat) : Nat → Timeline ω → Option (Timeline ω)
  | 0, _ => none
  | fuel + 1, l =>
    match l.pass.results with
    | r :: rest =>
      let l := { l with pass := { l.pass with results := rest } }
      match r with
      | .ok _ => windDown horizon fuel l
      | .error f => windDown horizon fuel (l.note ⟨.warn, .pass,
          "node evaluation failed while stopping", [("error", f.message)]⟩)
    | [] =>
      if l.pass.tasks.isEmpty then some l
      else if l.pass.runnable.isEmpty then
        match l.nextTimer with
        | none => none
        | some t =>
          if beyond horizon t.due then none
          else windDown horizon fuel ((l.fire calls t).drain calls fuel)
      else windDown horizon fuel (l.drain calls fuel)

/-- Raise the stop flag, and say so if there is work under way. -/
def stop (l : Timeline ω) : Timeline ω :=
  let inFlight := l.pass.tasks.length
  let l := l.setShared { l.pass.shared with stopped := true }
  if inFlight = 0 then l
  else l.note ⟨.info, .pass, "deadline passed; waiting for running work to finish",
    [("in_flight", toString inFlight)]⟩

/-- The deadline has passed: stop, and wait for the work under way. -/
def expire (horizon : Option Nat) (fuel deadline : Nat) (l : Timeline ω) :
    Option (Ending × Timeline ω) :=
  if beyond horizon deadline then none
  else ((l.setNow calls deadline).stop.windDown calls horizon fuel).map fun l => (.expired, l)

/-- Run a pass to its end.  The first argument bounds the number of rounds; there is no answer
when it runs out, when nothing can ever happen any more, or when the clock would have to be set
beyond `horizon`. -/
def run (deadline horizon : Option Nat) : Nat → Timeline ω → Option (Ending × Timeline ω)
  | 0, _ => none
  | fuel + 1, l =>
    let l := { l with pass := l.pass.spawn }
    match l.pass.results with
    | r :: rest =>
      let l := { l with pass := { l.pass with results := rest } }
      match r with
      | .ok _ => run deadline horizon fuel l
      | .error f => some (.failed f, l)
    | [] =>
      if !l.pass.runnable.isEmpty then run deadline horizon fuel (l.drain calls fuel)
      else if l.pass.tasks.isEmpty then some (.settled, l)
      else
        match l.nextTimer, deadline with
        | none, none => none
        | none, some d => l.expire calls horizon fuel d
        | some t, none =>
          if beyond horizon t.due then none
          else run deadline horizon fuel ((l.fire calls t).drain calls fuel)
        | some t, some d =>
          if d < t.due then l.expire calls horizon fuel d
          else if beyond horizon t.due then none
          else run deadline horizon fuel ((l.fire calls t).drain calls fuel)

end Timeline

end Rollout.Engine
