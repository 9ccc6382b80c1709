import Rollout.Status.Basic

/-!
# Counts: how many nodes sit in each reported status

`StatusCounts` is a histogram over the reported statuses.  The tracker updates it one
transition at a time; `StatusCounts.ofList` counts a list from scratch and is what the
incremental updates are compared with.  `StatusCounts.outcome` condenses a histogram into the
status of the whole deployment.
-/

namespace Rollout

/-- Number of nodes in each reported status. -/
structure StatusCounts where
  initial : Nat := 0
  waiting : Nat := 0
  deploying : Nat := 0
  destroying : Nat := 0
  deployed : Nat := 0
  failed : Nat := 0
  destroyed : Nat := 0
deriving DecidableEq, Repr, Inhabited

namespace StatusCounts

/-- The count of one status. -/
def get (c : StatusCounts) : ReportedStatus → Nat
  | .initial => c.initial
  | .waiting => c.waiting
  | .deploying => c.deploying
  | .destroying => c.destroying
  | .deployed => c.deployed
  | .failed => c.failed
  | .destroyed => c.destroyed

/-- Change the count of one status. -/
def modify (c : StatusCounts) (s : ReportedStatus) (f : Nat → Nat) : StatusCounts :=
  match s with
  | .initial => { c with initial := f c.initial }
  | .waiting => { c with waiting := f c.waiting }
  | .deploying => { c with deploying := f c.deploying }
  | .destroying => { c with destroying := f c.destroying }
  | .deployed => { c with deployed := f c.deployed }
  | .failed => { c with failed := f c.failed }
  | .destroyed => { c with destroyed := f c.destroyed }

theorem get_modify (c : StatusCounts) (s t : ReportedStatus) (f : Nat → Nat) :
    (c.modify s f).get t = if t = s then f (c.get t) else c.get t := by
  cases s <;> cases t <;> rfl

/-- One more node in a status. -/
def increment (c : StatusCounts) (s : ReportedStatus) : StatusCounts := c.modify s (· + 1)

/-- One node fewer in a status; an empty count stays empty. -/
def decrement (c : StatusCounts) (s : ReportedStatus) : StatusCounts := c.modify s (· - 1)

/-- All nodes. -/
def total (c : StatusCounts) : Nat := (ReportedStatus.all.map c.get).foldr (· + ·) 0

/-- Nodes that are deployed, destroyed or failed. -/
def finished (c : StatusCounts) : Nat := c.deployed + c.destroyed + c.failed

/-- The histogram of a list of statuses. -/
def ofList (l : List ReportedStatus) : StatusCounts where
  initial := l.count .initial
  waiting := l.count .waiting
  deploying := l.count .deploying
  destroying := l.count .destroying
  deployed := l.count .deployed
  failed := l.count .failed
  destroyed := l.count .destroyed

@[simp] theorem get_ofList (l : List ReportedStatus) (s : ReportedStatus) :
    (ofList l).get s = l.count s := by cases s <;> rfl

/-- The status of a whole deployment.  Any unfinished node keeps it in progress; once all are
finished, a single failure fails it; otherwise it has reached its goal. -/
def outcome (goal : Goal) (c : StatusCounts) : ReportedStatus :=
  if c.finished < c.total then goal.inProgress.reported
  else if 0 < c.failed then .failed
  else goal.reported

end StatusCounts

/-- The aggregate result of a run: the outcome, and the counts over all nodes and over the
primitive elements. -/
structure Summary where
  outcome : ReportedStatus
  nodes : StatusCounts
  primitives : StatusCounts
deriving DecidableEq, Repr, Inhabited

end Rollout
