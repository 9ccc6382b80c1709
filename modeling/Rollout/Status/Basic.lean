/-!
# Statuses: where a node stands and where it is meant to end

A plan node is driven towards one of two goals.  While it is on its way it carries a
`NodeStatus`; what users are shown is the coarser `ReportedStatus`, in which the two
*proxy* statuses (an element whose action is at work) read as plain progress.
-/

namespace Rollout

/-- The terminal state a node is trying to reach. -/
inductive Goal where
  | deployed
  | destroyed
deriving DecidableEq, Repr, Inhabited

/-- Where a node stands, as reported to users; the order of the constructors is the order in
which summaries list them. -/
inductive ReportedStatus where
  | initial
  | waiting
  | deploying
  | destroying
  | deployed
  | failed
  | destroyed
deriving DecidableEq, Repr, Inhabited

/-- Where a node stands, as tracked.  The proxy statuses are only ever given to elements that
an action is acting for. -/
inductive NodeStatus where
  | initial
  | waiting
  | deploying
  | destroying
  | deployed
  | failed
  | destroyed
  | proxyDeploying
  | proxyDestroying
deriving DecidableEq, Repr, Inhabited

/-- How an action affects an element. -/
inductive ChangeKind where
  | none
  | create
  | delete
  | modify
  | replace
deriving DecidableEq, Repr, Inhabited

/-! ## Reported statuses -/

namespace ReportedStatus

/-- Every reported status once, in summary order. -/
def all : List ReportedStatus :=
  [.initial, .waiting, .deploying, .destroying, .deployed, .failed, .destroyed]

/-- Nothing moves a node out of a final status. -/
def isFinal : ReportedStatus → Bool
  | deployed | failed | destroyed => true
  | initial | waiting | deploying | destroying => false

/-- The name shown in logs and summaries. -/
def name : ReportedStatus → String
  | initial => "Initial"
  | waiting => "Waiting"
  | deploying => "Deploying"
  | destroying => "Destroying"
  | deployed => "Deployed"
  | failed => "Failed"
  | destroyed => "Destroyed"

/-- Position in summary order. -/
def rank : ReportedStatus → Nat
  | initial => 0
  | waiting => 1
  | deploying => 2
  | destroying => 3
  | deployed => 4
  | failed => 5
  | destroyed => 6

end ReportedStatus

/-! ## Tracked statuses -/

namespace NodeStatus

/-- What users are shown for a tracked status: a proxy reads as plain progress. -/
def reported : NodeStatus → ReportedStatus
  | initial => .initial
  | waiting => .waiting
  | deploying | proxyDeploying => .deploying
  | destroying | proxyDestroying => .destroying
  | deployed => .deployed
  | failed => .failed
  | destroyed => .destroyed

/-- The element reflects an action that is at work on it. -/
def isProxy : NodeStatus → Bool
  | proxyDeploying | proxyDestroying => true
  | _ => false

/-- The node is past every further change. -/
def isFinal (s : NodeStatus) : Bool := s.reported.isFinal && !s.isProxy

/-- The node itself is being worked on. -/
def isInProgress : NodeStatus → Bool
  | deploying | destroying => true
  | _ => false

/-- The node has not been started itself: it is plainly waiting, or it reflects an action. -/
def isWaiting (s : NodeStatus) : Bool := s == waiting || s.isProxy

/-- The node sits at one of the two goals. -/
def isGoal : NodeStatus → Bool
  | deployed | destroyed => true
  | _ => false

/-- The name shown in logs; a proxy keeps its own. -/
def name : NodeStatus → String
  | proxyDeploying => "ProxyDeploying"
  | proxyDestroying => "ProxyDestroying"
  | s => s.reported.name

end NodeStatus

/-- A reported status read back as a tracked one. -/
def ReportedStatus.tracked : ReportedStatus → NodeStatus
  | initial => .initial
  | waiting => .waiting
  | deploying => .deploying
  | destroying => .destroying
  | deployed => .deployed
  | failed => .failed
  | destroyed => .destroyed

/-- Every tracked status once. -/
def NodeStatus.all : List NodeStatus :=
  ReportedStatus.all.map (·.tracked) ++ [.proxyDeploying, .proxyDestroying]

/-! ## Goals -/

namespace Goal

/-- Every goal once. -/
def all : List Goal := [deployed, destroyed]

/-- The status a node sits in while it works towards the goal. -/
def inProgress : Goal → NodeStatus
  | deployed => .deploying
  | destroyed => .destroying

/-- The status of a node that has reached the goal. -/
def status : Goal → NodeStatus
  | deployed => .deployed
  | destroyed => .destroyed

/-- The reported status of a deployment that has reached the goal. -/
def reported (g : Goal) : ReportedStatus := g.status.reported

/-- The name shown in logs and summaries. -/
def name (g : Goal) : String := g.reported.name

/-- The name in small letters, as plan files and sentences write it. -/
def word : Goal → String
  | deployed => "deployed"
  | destroyed => "destroyed"

@[simp] theorem isFinal_status (g : Goal) : g.status.isFinal = true := by cases g <;> rfl

@[simp] theorem isInProgress_inProgress (g : Goal) : g.inProgress.isInProgress = true := by
  cases g <;> rfl

@[simp] theorem isGoal_status (g : Goal) : g.status.isGoal = true := by cases g <;> rfl

@[simp] theorem isGoal_inProgress (g : Goal) : g.inProgress.isGoal = false := by cases g <;> rfl

@[simp] theorem isFinal_inProgress (g : Goal) : g.inProgress.isFinal = false := by cases g <;> rfl

theorem inProgress_ne_failed (g : Goal) : g.inProgress ≠ .failed := by cases g <;> exact nofun

theorem status_ne_failed (g : Goal) : g.status ≠ .failed := by cases g <;> exact nofun

end Goal

namespace ChangeKind

/-- Every kind of change once. -/
def all : List ChangeKind := [none, create, delete, modify, replace]

/-- Deleting destroys; every other change leaves the element deployed. -/
def goal : ChangeKind → Goal
  | delete => .destroyed
  | none | create | modify | replace => .deployed

/-- The name shown in dumps. -/
def name : ChangeKind → String
  | none => "None"
  | create => "Create"
  | delete => "Delete"
  | modify => "Modify"
  | replace => "Replace"

end ChangeKind

end Rollout
