import Rollout.Engine.Timeline
import Rollout.Text.Inspect

/-!
# Run: passes over a plan until the deployment settles

A run makes passes over the plan until the tracker reports a final outcome, waiting between two
passes.  A deadline is not a fault: when it passes, every node that has not finished is failed
and the aggregate result is given.  A defect aborts the run.  Each pass makes a limiter of its own,
and one that would have to hold too many permits breaks the run off on the spot: it panics.
-/

namespace Rollout.Engine

/-- How a plan is to be run. -/
structure Options where
  /-- The largest number of evaluations in flight; absent for no limit. -/
  concurrency : Option Nat := none
  /-- Skip bodies; checks and transitions still happen. -/
  dryRun : Bool := false
  /-- The wait between two passes. -/
  pollDelay : Duration := .ofSeconds 1
  /-- The overall deadline; absent, or empty, for none. -/
  timeout : Option Duration := none

/-- A limiter can hold the permits that are asked for. -/
def Options.holdable (o : Options) : Bool := o.concurrency.all fun n => max 1 n ≤ maxPermits

/-- The options as developer dumps show them. -/
def Options.inspect (o : Options) : String :=
  Text.Inspect.record "ExecuteOptions"
    [("concurrency", Text.Inspect.option (o.concurrency.map toString)),
      ("dry_run", Text.Inspect.bool o.dryRun),
      ("poll_delay", Text.Inspect.duration o.pollDelay),
      ("timeout", Text.Inspect.option (o.timeout.map Text.Inspect.duration))]

/-- A run that has not started, as developer dumps show it. -/
def inspectRun (o : Options) (plan : Plan) : String :=
  Text.Inspect.openRecord "Executor"
    [("options", o.inspect), ("nodes", toString plan.nodes.length)]

/-- How much of a run is played out. -/
structure Limits where
  /-- Without a deadline the run is given up when it would sleep more often than this. -/
  sleeps : Option Nat := none
  /-- The run is given up when it would last longer than so many milliseconds. -/
  horizon : Option Nat := none
  /-- Bound on the number of passes, and of rounds within a pass. -/
  rounds : Nat := 100000

/-- What a run comes to. -/
inductive Outcome where
  | completed (s : Summary)
  | aborted (f : Fault)
  /-- The run was given up, or it has panicked. -/
  | unfinished

/-- A run that is over: what it came to, and what it left behind. -/
structure Report (ω : Type) where
  outcome : Outcome
  state : State ω
  /-- Virtual milliseconds since the start. -/
  elapsed : Nat
  /-- How often the run itself set the clock to sleep. -/
  sleeps : Nat
  /-- The run has panicked. -/
  panicked : Bool := false

variable {ω : Type}

/-- The overall deadline of a run. -/
structure Deadline where
  due : Nat
  limit : Duration

/-- Fail every node that is not final. -/
def failUnfinished (fault : Fault) (s : State ω) : State ω :=
  s.plan.nodes.foldl
    (fun s node =>
      if s.tracker.isFinal node.id then s
      else ((record node.id .failed (some fault) none).run.run s).2)
    s

/-- One pass: the current leaves, and whatever their completion unblocks.  A pass that finds no
time left does not start. -/
def pass (calls : Callbacks ω) (options : Options) (limits : Limits) (deadline : Option Deadline)
    (now : Nat) (s : State ω) : Option (Except Fault Summary × State ω × Nat) := do
  if let some d := deadline then
    if d.due ≤ now then return (.error (.timeout d.limit), s, now)
  let s := { s with queue := s.queue ++ s.plan.leaves, stopped := false }
  let start : Timeline ω := { pass := .ofState s options.concurrency, now }
  let (ending, l) ← start.run calls (deadline.map (·.due)) limits.horizon limits.rounds
  let s := { l.pass.shared with queue := [] }
  match ending with
  | .settled => return (.ok s.tracker.summary, s, l.now)
  | .failed f => return (.error f, s, l.now)
  | .expired =>
    match deadline with
    | some d => return (.error (.timeout d.limit), s, l.now)
    | none => none

/-- A pass that is to start makes a limiter that cannot hold its permits. -/
def overdraws (options : Options) (deadline : Option Deadline) (now : Nat) : Bool :=
  !options.holdable && !deadline.any fun d => d.due ≤ now

/-- The sleep of a pass that races a deadline counts as one. -/
def raced (deadline : Option Deadline) (now : Nat) : Nat :=
  if deadline.any fun d => now < d.due then 1 else 0

/-- Log an event of the run itself. -/
def noteRun (level : Log.Level) (message : String) (fields : List (String × String))
    (s : State ω) : State ω :=
  { s with log := s.log.push ⟨level, .run, message, fields⟩ }

/-- Passes until the deployment settles.  The first argument bounds their number; `number` counts
them, and `sleeps` the times the run went to sleep. -/
def passes (calls : Callbacks ω) (options : Options) (limits : Limits)
    (deadline : Option Deadline) : Nat → (number now sleeps : Nat) → State ω → Report ω
  | 0, _, now, sleeps, s => { outcome := .unfinished, state := s, elapsed := now, sleeps }
  | fuel + 1, number, now, sleeps, s =>
    if overdraws options deadline now then
      { outcome := .unfinished, state := s, elapsed := now, sleeps, panicked := true }
    else
      let sleeps := sleeps + raced deadline now
      match pass calls options limits deadline now s with
      | none => { outcome := .unfinished, state := s, elapsed := now, sleeps }
      | some (.ok summary, s, now) =>
        if summary.outcome.isFinal then
          let s := noteRun .info "execution completed"
            [("status", summary.outcome.name), ("passes", toString number)] s
          { outcome := .completed summary, state := s, elapsed := now, sleeps }
        else
          let sleeps := sleeps + 1
          let later := now + options.pollDelay.toMillis
          let giveUp := deadline.isNone && limits.sleeps.any (· < sleeps)
          if giveUp || limits.horizon.any (· < later) then
            { outcome := .unfinished, state := s, elapsed := now, sleeps }
          else
            let s := { s with world := calls.setClock later s.world }
            passes calls options limits deadline fuel (number + 1) later sleeps s
      | some (.error fault, s, now) =>
        let s := noteRun .error ("Deploy operation failed: " ++ fault.message) [] s
        if fault.isTimeout then
          let s := failUnfinished fault s
          { outcome := .completed s.tracker.summary, state := s, elapsed := now, sleeps }
        else { outcome := .aborted fault, state := s, elapsed := now, sleeps }

/-- Run a plan with a tracker that has been told of its nodes.  `log` is what has been logged
before. -/
def run (calls : Callbacks ω) (options : Options) (limits : Limits) (tracker : Tracker)
    (plan : Plan) (world : ω) (log : Array Log.Event) : Report ω :=
  let s : State ω := { plan, tracker, dryRun := options.dryRun, log, world }
  let refused : String → Report ω := fun text =>
    { outcome := .aborted (.defect text), state := s, elapsed := 0, sleeps := 0 }
  if tracker.goal ≠ plan.goal then
    refused ("status tracker goal " ++ tracker.goal.name ++ " does not match plan goal " ++
      plan.goal.name)
  else if plan.context.attached then refused "status tracker already attached to this plan"
  else
    let plan := { plan with context := { plan.context with attached := true } }
    let timeout := options.timeout.filter (!·.isZero)
    let deadline := timeout.map fun d => ⟨d.toMillis, d⟩
    let s := noteRun .info "execution started"
      [("goal", plan.goal.name), ("nodes", toString plan.nodes.length),
        ("dry_run", if options.dryRun then "true" else "false")] { s with plan }
    passes calls options limits deadline limits.rounds 1 0 0 s

/-- Run a plan with a tracker of its own. -/
def execute (calls : Callbacks ω) (options : Options) (limits : Limits) (plan : Plan)
    (world : ω) (log : Array Log.Event) : Report ω :=
  run calls options limits (.ofInfos plan.goal options.dryRun plan.infos) plan world log

end Rollout.Engine
