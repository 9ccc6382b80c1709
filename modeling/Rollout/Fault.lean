import Rollout.Duration
import Rollout.Decimal.Shortest

/-!
# Fault: what can go wrong, and how it is worded

Faults fall into four groups: those of configuration, reported while a plan is built or
checked; those of a single node, which the run turns into the status *failed*; the expiry of
the deadline; and defects of the plan or the scheduler, which abort the run.  A fault is a
cause; `Fault.message` is its only wording.

Callbacks (completion checks, action bodies) raise a `Failure`: free text or a fault, possibly
wrapped in a line of context.  `Failure.toFault` says which fault a node is failed with.
-/

namespace Rollout

/-- The cause of an unsuccessful operation. -/
inductive Fault where
  /-- The input contradicts itself or names something unknown. -/
  | config (text : String)
  /-- The plan has cycles, listed one per line. -/
  | cycle (lines : String)
  /-- Two actions change one element. -/
  | duplicateAction (element : String)
  /-- A node to be deployed depends on one to be destroyed. -/
  | invalidGoalPair (text : String)
  /-- Something the node depends on has failed. -/
  | dependencyFailed
  /-- The body of an action has failed. -/
  | actionFailed (description : String) (source : Fault)
  /-- A callback has failed. -/
  | nodeFailed (text : String)
  /-- The deadline has passed. -/
  | timeout (limit : Duration)
  /-- An invariant is broken. -/
  | defect (text : String)
  /-- A file cannot be read. -/
  | io (text : String)
  /-- A plan file is not well formed. -/
  | malformed (text : String)
  /-- Any other failure, by its own text. -/
  | other (text : String)
deriving DecidableEq, Repr, Inhabited

/-- A duration as a decimal number of seconds: the double-precision sum of the seconds and the
fraction, by its shortest digits. -/
def Duration.secondsText (d : Duration) : String :=
  let whole := Decimal.Binary64.ofQuotient d.seconds 1
  let part := Decimal.Binary64.ofQuotient d.nanos 1000000000
  (whole.add part).positional

namespace Fault

/-- The wording of a fault. -/
def message : Fault → String
  | config text => "Configuration error: " ++ text
  | cycle lines =>
    "There are circular dependencies present in this deployment:\n" ++ lines
  | duplicateAction element =>
    "More than one Action referenced Element '" ++ element ++
      "'. An Element may only be affected by one Action"
  | invalidGoalPair text =>
    "Unable to create dependency for invalid goal pair '" ++ text ++ "'"
  | dependencyFailed => "A dependency failed to deploy successfully"
  | actionFailed description source => "Error while " ++ description ++ ": " ++ source.message
  | nodeFailed text => text
  | timeout limit => "Deploy operation timed out after " ++ limit.secondsText ++ " seconds"
  | defect text => "Internal error: " ++ text
  | io text => "IO error: " ++ text
  | malformed text => "TOML parsing error: " ++ text
  | other text => text

/-- A broken invariant aborts the whole run. -/
def isDefect : Fault → Bool
  | defect _ => true
  | _ => false

/-- The deadline has passed. -/
def isTimeout : Fault → Bool
  | timeout _ => true
  | _ => false

/-- The body of an action has failed. -/
def isActionFailed : Fault → Bool
  | actionFailed _ _ => true
  | _ => false

end Fault

/-! ## Failures of callbacks -/

/-- What a callback raises. -/
inductive Failure where
  /-- Free text, possibly behind a line of context. -/
  | text (text : String) (context : Option String)
  /-- A fault, possibly behind a line of context. -/
  | fault (fault : Fault) (context : Option String)
deriving DecidableEq, Repr, Inhabited

namespace Failure

/-- What is shown of a failure: the context where there is one. -/
def shown : Failure → String
  | text t context => context.getD t
  | fault f context => context.getD f.message

/-- The fault a node is failed with.  A fault keeps its kind and wording even behind a
context; free text becomes the failure of the node. -/
def toFault : Failure → Fault
  | fault f _ => f
  | text t context => .nodeFailed (context.getD t)

end Failure

end Rollout
