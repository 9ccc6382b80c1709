import Rollout.Status.Counts
import Rollout.Plan.Node
import Rollout.Log.Event
import Rollout.Text.Inspect

/-!
# Tracker: the status of every node of a run

The tracker is the one source of truth for where nodes stand.  `Tracker.set` records a
transition and keeps the two histograms in step; `Tracker.summary` reads the aggregate result
off them.  A node that the tracker was not told of counts as initial and cannot be set.
-/

namespace Rollout

/-- What is known about one node. -/
structure Tracked where
  label : String
  primitive : Bool
  status : NodeStatus := .waiting
  error : Option String := none
  description : Option String := none
  output : List String := []
deriving DecidableEq, Repr, Inhabited

/-- The status of every node, with running counts. -/
structure Tracker where
  goal : Goal
  dryRun : Bool
  nodes : List (NodeId × Tracked)
  counts : StatusCounts
  primitiveCounts : StatusCounts
deriving Repr, Inhabited

namespace Tracker

/-- Put an entry for a node in place of the one it has, or at the end. -/
def put (nodes : List (NodeId × Tracked)) (n : NodeId) (t : Tracked) : List (NodeId × Tracked) :=
  if (nodes.lookup n).isSome then nodes.map fun e => if e.1 == n then (n, t) else e
  else nodes ++ [(n, t)]

/-- Take note of one more node, which waits. -/
def add (t : Tracker) (i : NodeInfo) : Tracker :=
  { t with
    nodes := put t.nodes i.id ⟨i.label, i.primitive, .waiting, none, none, []⟩
    counts := t.counts.increment .waiting
    primitiveCounts :=
      if i.primitive then t.primitiveCounts.increment .waiting else t.primitiveCounts }

/-- The tracker of a run that has not started: every node waits. -/
def ofInfos (goal : Goal) (dryRun : Bool) (infos : List NodeInfo) : Tracker :=
  infos.foldl add ⟨goal, dryRun, [], {}, {}⟩

/-- The entry of a node. -/
def lookup? (t : Tracker) (n : NodeId) : Option Tracked := t.nodes.lookup n

/-- The entry of the node with a label. -/
def labelled? (t : Tracker) (label : String) : Option Tracked :=
  (t.nodes.find? (·.2.label == label)).map (·.2)

/-- Where a node stands. -/
def status (t : Tracker) (n : NodeId) : NodeStatus :=
  ((t.lookup? n).map (·.status)).getD .initial

/-- The node is past every further change. -/
def isFinal (t : Tracker) (n : NodeId) : Bool := (t.status n).isFinal

/-! ## Transitions -/

/-- The entry after a transition: what is not given stays. -/
def Tracked.after (e : Tracked) (s : NodeStatus) (error : Option Fault)
    (description : Option String) : Tracked :=
  { e with
    status := s
    error := (error.map (·.message)).or e.error
    description := description.or e.description }

/-- A histogram after one node has moved from one status to another. -/
def moved (c : StatusCounts) (old new : NodeStatus) : StatusCounts :=
  (c.decrement old.reported).increment new.reported

/-- Record a transition, and say whether anything changed: nothing does for an unknown node, nor
when a node is given the status it has, without an error. -/
def set (t : Tracker) (n : NodeId) (s : NodeStatus) (error : Option Fault)
    (description : Option String) : Bool × Tracker :=
  match t.lookup? n with
  | none => (false, t)
  | some e =>
    if e.status = s ∧ error = none then (false, t)
    else
      (true, { t with
        nodes := put t.nodes n (Tracked.after e s error description)
        counts := moved t.counts e.status s
        primitiveCounts :=
          if e.primitive then moved t.primitiveCounts e.status s else t.primitiveCounts })

/-- The log event of a call of `set`: final statuses are announced, failures as warnings, and
so is a node that is not known. -/
def eventOf (t : Tracker) (n : NodeId) (s : NodeStatus) (error : Option Fault) :
    Option Log.Event :=
  match t.lookup? n with
  | none => some ⟨.warn, .tracker, "status update for unknown node; ignoring",
      [("node", toString n), ("status", s.name)]⟩
  | some e =>
    if e.status = s ∧ error = none then none
    else if s = .failed then
      let why := (error.map fun f => ("error", f.message)).toList
      some ⟨.warn, .tracker, "node failed", ("node", e.label) :: why⟩
    else if s.isFinal then
      some ⟨.info, .tracker, "node finished", [("node", e.label), ("status", s.name)]⟩
    else none

/-- Attach a diagnostic to a node. -/
def addOutput (t : Tracker) (n : NodeId) (text : String) : Tracker :=
  match t.lookup? n with
  | none => t
  | some e => { t with nodes := put t.nodes n { e with output := e.output ++ [text] } }

/-! ## Reading off -/

/-- The aggregate result. -/
def summary (t : Tracker) : Summary :=
  ⟨t.counts.outcome t.goal, t.counts, t.primitiveCounts⟩

/-- Whether a node has reached its goal.  A failed node is a fault, so that whatever depends on
it fails as well instead of waiting. -/
def hasReached (t : Tracker) (n : NodeId) (goal : Goal) (label : String) : Except Fault Bool :=
  let s := t.status n
  if s = goal.status then .ok true
  else if s = .failed then .error .dependencyFailed
  else if s.isWaiting || s.isInProgress then .ok false
  else .error (.defect ("Invalid status " ++ s.name ++ " for " ++ label))

/-- One line per node, by number. -/
def dump (t : Tracker) : String :=
  let line := fun (e : NodeId × Tracked) =>
    "  " ++ e.2.label ++ ": " ++ e.2.status.name ++
      (match e.2.error with
        | some text => " (" ++ text ++ ")"
        | none => "")
  "\n".intercalate ((t.nodes.mergeSort fun a b => a.1 ≤ b.1).map line)

/-- The tracker as developer dumps show it. -/
def inspect (t : Tracker) : String :=
  Text.Inspect.openRecord "MemoryStatusTracker"
    [("goal_status", t.goal.name), ("dry_run", Text.Inspect.bool t.dryRun)]

end Tracker

end Rollout
