import Rollout.Plan.Deployment
import Rollout.Status.Tracker

/-!
# Evaluation: what a run does with one node

An evaluation of a node looks at its dependencies, runs its body once, asks its completion check,
and records where the node has got to.  It is a sequence of atomic segments: a segment runs from
the point where the evaluation is resumed to the point where it needs the answer of a callback
(`Pause`) or ends.  What happens between the segments of one evaluation is up to whoever
schedules them, so the segments are plain functions on the `State` that all evaluations share:

* `begin` is the first segment;
* `resumeBody` and `resumeCheck` go on with the answer of a body or of a completion check.

Conditions inside relations are answered at once, by the environment `ω` that the state carries.
-/

namespace Rollout

/-- Fail unless a status tracker has been attached. -/
def Context.ensureAttached (c : Context) : Except Fault Unit :=
  if c.attached then .ok ()
  else .error (.defect "Cannot get node status except during plan execution")

/-- How an element stands: its node is looked up in the context, and the node's status in the
tracker, if one has been attached. -/
def Context.view (c : Context) (t : Tracker) : Relation.View := fun e =>
  match c.elements.lookup e with
  | none => .error (.defect ("Element '" ++ e ++ "' is not part of the plan"))
  | some (n, goal) => do
    c.ensureAttached
    t.hasReached n goal e

namespace Engine

/-- State shared by the evaluations of one run. -/
structure State (ω : Type) where
  plan : Plan
  tracker : Tracker
  /-- Bodies are skipped. -/
  dryRun : Bool
  /-- Nodes whose body has been claimed, the latest first. -/
  started : List NodeId := []
  /-- The deadline has passed: nothing starts any more and no status changes. -/
  stopped : Bool := false
  /-- Nodes to be evaluated in this pass, the next one first. -/
  queue : List NodeId := []
  /-- Transitions that took effect, in order. -/
  transitions : Array (NodeId × NodeStatus) := #[]
  log : Array Log.Event := #[]
  world : ω

/-- The answer of a callback. -/
inductive Answer (α : Type) where
  /-- The callback has returned a value or raised a failure. -/
  | reply (r : Except Failure α)
  /-- The callback has broken down. -/
  | panic

/-- What an evaluation waits for. -/
inductive Pause where
  /-- The end of a body. -/
  | body (c : CallbackId)
  /-- The answer of a completion check. -/
  | check (c : CallbackId)
deriving DecidableEq, Repr

/-- How a segment ends. -/
inductive Progress where
  | paused (p : Pause)
  | finished (result : Except Fault Unit)

/-- A computation on the shared state that may fail and keeps what it did before. -/
abbrev Eval (ω : Type) := ExceptT Fault (StateM (State ω))

section

variable {ω : Type}

/-- Note an event in the log. -/
def note (e : Log.Event) : Eval ω Unit := modify fun s => { s with log := s.log.push e }

/-- The node with a number. -/
def nodeOf (n : NodeId) : Eval ω Node := do (← get).plan.node n

/-- How an element stands, for relations. -/
def State.view (s : State ω) : Relation.View := s.plan.context.view s.tracker

/-- The transitions that took effect, by the labels of their nodes. -/
def State.history (s : State ω) : List (String × NodeStatus) :=
  s.transitions.toList.map fun t => (((s.tracker.lookup? t.1).map (·.label)).getD "", t.2)

/-! ## Recording transitions -/

/-- Record a transition in the tracker and in the log, and say whether it changed anything. -/
def record (n : NodeId) (s : NodeStatus) (error : Option Fault) (description : Option String) :
    Eval ω Bool := do
  let st ← get
  if let some e := st.tracker.eventOf n s error then note e
  let (changed, tracker) := st.tracker.set n s error description
  modify fun st => { st with
    tracker
    transitions := if changed then st.transitions.push (n, s) else st.transitions }
  return changed

/-- Record a transition unless the deadline has passed. -/
def transition (n : NodeId) (s : NodeStatus) (error : Option Fault)
    (description : Option String) : Eval ω Bool := do
  if (← get).stopped then return false
  record n s error description

/-- A node that has become final may unblock the nodes that depend on it: queue them. -/
def signalDependents (n : NodeId) (s : NodeStatus) : Eval ω Unit := do
  if s.isFinal then
    let dependents ← (← get).plan.predecessors n
    modify fun st => { st with queue := st.queue ++ dependents }

/-- The status an element takes while the work on it takes a status. -/
def reflected? : NodeStatus → Option NodeStatus
  | .deploying => some .proxyDeploying
  | .destroying => some .proxyDestroying
  | .failed => some .failed
  | _ => none

/-- Let the elements that work acts for take the reflected status, unless they are final. -/
def reflect (s : NodeStatus) (error : Option Fault) : List ActingFor → Eval ω Unit
  | [] => return ()
  | a :: rest => do
    match (← get).plan.nodeOf? a.element with
    | none => throw (.defect ("Element '" ++ a.element ++ "' is not in the plan"))
    | some target =>
      unless (← get).tracker.isFinal target do
        if ← transition target s error (some a.detail) then signalDependents target s
      reflect s error rest

/-- Record a transition of a node under evaluation and tell whoever is affected: first the
elements the node acts for, then the nodes that depend on it. -/
def update (n : NodeId) (s : NodeStatus) (error : Option Fault) : Eval ω Unit := do
  if ← transition n s error none then
    if let some s' := reflected? s then reflect s' error (← nodeOf n).actsFor
    signalDependents n s

/-! ## Dependencies

Every hard dependency is looked at, so that a failed one is noticed even behind a pending one.
Then come the node's soft dependencies, and those of the elements it leads. -/

/-- Whether all hard dependencies have reached their goals. -/
def hardReady : List NodeId → Eval ω Bool
  | [] => return true
  | d :: ds => do
    let dep ← nodeOf d
    let here ← (← get).tracker.hasReached dep.id dep.goal dep.label
    let rest ← hardReady ds
    return here && rest

/-- Whether a relation is ready, asking the environment where it has conditions. -/
def relationReady (ask : Condition → ω → Readiness × ω) : Option Relation → Eval ω Bool
  | none => return true
  | some r => do
    let st ← get
    let (answer, world) := r.ready st.view ask st.world
    modify fun st => { st with world }
    return (← answer).isReady

/-- Whether the inverse relations of several nodes are ready, up to the first that is not. -/
def inversesReady (ask : Condition → ω → Readiness × ω) : List NodeId → Eval ω Bool
  | [] => return true
  | n :: ns => do
    let node ← nodeOf n
    if ← relationReady ask (node.relation?.map (·.inverse)) then inversesReady ask ns
    else return false

/-- Whether the soft dependencies of a node are ready.  A node to be deployed looks at its own
relation; one to be destroyed looks at the relation of each node it depends on, inverted. -/
def softReady (ask : Condition → ω → Readiness × ω) (node : Node) : Eval ω Bool := do
  match node.goal with
  | .deployed => relationReady ask node.relation?
  | .destroyed => inversesReady ask (← (← get).plan.successors node.id)

/-- Whether the soft dependencies of the nodes that are led are ready, up to the first that is
not.  None of these nodes may have been started. -/
def followersReady (ask : Condition → ω → Readiness × ω) : List NodeId → Eval ω Bool
  | [] => return true
  | f :: fs => do
    let status := (← get).tracker.status f
    let node ← nodeOf f
    unless status.isWaiting do
      throw (.defect ("Invalid status " ++ status.name ++ " for follower " ++ node.label))
    if ← softReady ask node then followersReady ask fs else return false

/-- Whether nothing keeps a node from being started. -/
def dependenciesMet (ask : Condition → ω → Readiness × ω) (node : Node) : Eval ω Bool := do
  let plan := (← get).plan
  let followers := plan.followersOf node.id
  if ← hardReady (plan.hardDependencies node.id) then
    if ← softReady ask node then followersReady ask followers else return false
  else return false

/-! ## Segments

Within a segment, `none` says that the evaluation is over. -/

/-- The node is done: record its goal and take it out of the live graph. -/
def complete (node : Node) : Eval ω (Option Pause) := do
  if (← get).stopped then return none
  update node.id node.goal.status none
  let plan ← (← get).plan.removeNode node.id
  modify fun st => { st with plan }
  return none

/-- Look whether the node is done: ask its check, if it has one. -/
def inspect (node : Node) : Eval ω (Option Pause) := do
  match node.criteria?.bind (·.check) with
  | none => complete node
  | some c => return some (.check c)

/-- Go on after the body: nothing more happens once the deadline has passed. -/
def afterBody (node : Node) : Eval ω (Option Pause) := do
  if (← get).stopped then return none
  inspect node

/-- Claim the body and start it, unless it has been claimed before or bodies are skipped. -/
def startBody (node : Node) (body : CallbackId) : Eval ω (Option Pause) := do
  if (← get).started.contains node.id then afterBody node
  else
    modify fun st => { st with started := node.id :: st.started }
    if node.announced then note ⟨.info, .pass, "Doing " ++ node.description, []⟩
    if (← get).dryRun then afterBody node
    else return some (.body body)

/-- The first segment, once it is known which node is evaluated. -/
def start (ask : Condition → ω → Readiness × ω) (node : Node) : Eval ω (Option Pause) := do
  let status := (← get).tracker.status node.id
  if status.isFinal then return none
  unless status.isWaiting || status.isInProgress do
    throw (.defect ("Unexpected node status " ++ status.name ++ ": " ++ node.label))
  if ← dependenciesMet ask node then
    update node.id node.goal.inProgress none
    match node.body? with
    | some body => startBody node body
    | none => inspect node
  else return none

/-- The body has ended. -/
def bodyEnded (node : Node) : Except Failure Unit → Eval ω (Option Pause)
  | .ok _ => afterBody node
  | .error f => do
    let fault := f.toFault
    if fault.isDefect then throw fault
    note ⟨.error, .pass, "--Error while " ++ node.description ++ "\n" ++ fault.message ++
      "\n----------", [("node", node.label)]⟩
    throw (.actionFailed node.description fault)

/-- The completion check has answered. -/
def checkAnswered (node : Node) : Except Failure Readiness → Eval ω (Option Pause)
  | .ok .ready => complete node
  | .ok (.waiting pending) => do
    let text := (Readiness.waiting pending).text
    modify fun st => { st with tracker := st.tracker.addOutput node.id text }
    return none
  | .error f => throw f.toFault

/-! ## Ends of segments -/

/-- Fail a node.  A defect ends the pass; any other fault stays with the node. -/
def fail (node : Node) (fault : Fault) : StateM (State ω) Progress := do
  let signalled ← (update node.id .failed (some fault)).run
  unless fault.isActionFailed do
    modify fun st => { st with log := st.log.push ⟨.error, .pass,
      "Error while " ++ node.goal.word ++ " " ++ node.description ++ ": " ++ fault.message,
      [("node", node.label)]⟩ }
  return .finished (if fault.isDefect then .error fault else signalled)

/-- Turn the outcome of a segment into progress of the evaluation. -/
def conclude (node : Node) (segment : Eval ω (Option Pause)) : StateM (State ω) Progress := do
  match ← segment.run with
  | .ok none => return .finished (.ok ())
  | .ok (some p) => return .paused p
  | .error fault => fail node fault

/-- The first segment of the evaluation of a node. -/
def begin (ask : Condition → ω → Readiness × ω) (n : NodeId) : StateM (State ω) Progress := do
  let st ← get
  if st.stopped then return .finished (.ok ())
  match st.plan.node n with
  | .error fault => return .finished (.error fault)
  | .ok node => conclude node (start ask node)

/-- Resume an evaluation with the answer of a callback.  A callback that has broken down takes
the evaluation with it, which leaves no trace in the statuses. -/
def resume {α : Type} (segment : Node → Except Failure α → Eval ω (Option Pause)) (n : NodeId) :
    Answer α → StateM (State ω) Progress
  | .panic => return .finished (.error (.defect "node evaluation panicked"))
  | .reply r => do
    match (← get).plan.node n with
    | .error fault => return .finished (.error fault)
    | .ok node => conclude node (segment node r)

/-- Go on with the end of the node's body. -/
def resumeBody (n : NodeId) (answer : Answer Unit) : StateM (State ω) Progress :=
  resume bodyEnded n answer

/-- Go on with the answer of the node's completion check. -/
def resumeCheck (n : NodeId) (answer : Answer Readiness) : StateM (State ω) Progress :=
  resume checkAnswered n answer

end

end Engine

end Rollout
