import Rollout.Fault
import Rollout.Relation.Readiness

/-!
# Relations: what a node waits for before it may start

A `Relation` is a tree over two kinds of leaves.  An edge waits for an element to reach its
goal; a condition asks the environment.  `Relation.ready` evaluates the tree from left to right
against a view of the elements and an environment `ω` that answers the conditions, and stops at
the first edge whose element cannot be waited for.  `Relation.inverse` turns every edge round,
which is how a node that is being destroyed looks at its dependents.
-/

namespace Rollout

/-- The name of an element. -/
abbrev ElementId := String

/-- A check made while relations are evaluated.  The environment knows it by its number, so the
inverse of a relation asks the very same check. -/
structure Condition where
  description : String
  probe : Nat
deriving DecidableEq, Repr, Inhabited

/-- A dependency of a node. -/
inductive Relation where
  /-- No dependency. -/
  | none
  /-- `source` depends on `target`: ready once `target` is at its goal. -/
  | edge (source target : ElementId)
  /-- Ready when every member is. -/
  | all (members : List Relation)
  /-- Ready when the environment says so. -/
  | condition (check : Condition)
deriving Repr, Inhabited

namespace Relation

/-- A short name for the relation. -/
def description : Relation → String
  | none => "None"
  | edge source target => "Edge( " ++ source ++ ", " ++ target ++ " )"
  | all _ => "And"
  | condition c => c.description

/-- The members of a composite relation. -/
def members : Relation → List Relation
  | all rs => rs
  | _ => []

/-! ## Evaluation -/

/-- How an element stands: at its goal, pending, or a fault when it cannot be waited for. -/
abbrev View := ElementId → Except Fault Bool

/-- What an edge to `target` reports. -/
def edgeReady (view : View) (target : ElementId) : Except Fault Readiness := do
  if ← view target then return .ready
  else return .waitingFor ("Waiting for dependency " ++ target)

/-- What a composite of `size` members reports when its members have reported `pending`. -/
def allReady (size : Nat) (pending : List Diagnostic) : Readiness :=
  if pending.isEmpty then .ready
  else .waiting [.mk ("Waiting for " ++ toString pending.length ++ " of " ++ toString size ++
    " dependencies") pending]

section Evaluation

variable {ω : Type} (view : View) (ask : Condition → ω → Readiness × ω)

mutual

/-- Evaluate a relation.  The environment is handed through all conditions that are asked, also
when a fault ends the evaluation. -/
def ready : Relation → ω → Except Fault Readiness × ω
  | none, w => (.ok .ready, w)
  | edge _ target, w => (edgeReady view target, w)
  | all rs, w =>
    match pendingOf rs w with
    | (.ok pending, w') => (.ok (allReady rs.length pending), w')
    | (.error f, w') => (.error f, w')
  | condition c, w =>
    match ask c w with
    | (r, w') => (.ok r, w')

/-- The diagnostics of several relations, in order. -/
def pendingOf : List Relation → ω → Except Fault (List Diagnostic) × ω
  | [], w => (.ok [], w)
  | r :: rs, w =>
    match ready r w with
    | (.error f, w') => (.error f, w')
    | (.ok answer, w') =>
      match pendingOf rs w' with
      | (.ok pending, w'') => (.ok (answer.pending ++ pending), w'')
      | (.error f, w'') => (.error f, w'')

end

end Evaluation

/-! ## Inverse and footprint -/

mutual

/-- The same dependency seen from the other side. -/
def inverse : Relation → Relation
  | none => none
  | edge source target => edge target source
  | all rs => all (inverseAll rs)
  | condition c => condition c

/-- The inverses of several relations. -/
def inverseAll : List Relation → List Relation
  | [] => []
  | r :: rs => inverse r :: inverseAll rs

end

mutual

/-- The targets of all edges, from left to right, with repetitions. -/
def targets : Relation → List ElementId
  | edge _ target => [target]
  | all rs => targetsAll rs
  | none | condition _ => []

/-- The targets of several relations. -/
def targetsAll : List Relation → List ElementId
  | [] => []
  | r :: rs => targets r ++ targetsAll rs

end

/-- Each item at its first place only. -/
def firsts : List ElementId → List ElementId → List ElementId
  | _, [] => []
  | seen, x :: xs => if seen.contains x then firsts seen xs else x :: firsts (x :: seen) xs

/-- Every element the relation waits for, in order of first occurrence. -/
def handles (r : Relation) : List ElementId := firsts [] r.targets

/-! ## Written form -/

mutual

/-- The relation as indented lines. -/
def lines (depth : Nat) : Relation → List String
  | all rs =>
    (Diagnostic.indent depth ++ "And(") :: linesAll (depth + 1) rs ++
      [Diagnostic.indent depth ++ ")"]
  | none => [Diagnostic.indent depth ++ none.description]
  | edge source target => [Diagnostic.indent depth ++ (edge source target).description]
  | condition c => [Diagnostic.indent depth ++ (condition c).description]

/-- The lines of several relations. -/
def linesAll (depth : Nat) : List Relation → List String
  | [] => []
  | r :: rs => lines depth r ++ linesAll depth rs

end

/-- The relation as text; every line is ended. -/
def display (r : Relation) : String := String.join ((r.lines 0).map (· ++ "\n"))

/-- Dependency of one element on several others; a single one is a plain edge. -/
def dependsOn (source : ElementId) : List ElementId → Relation
  | [target] => edge source target
  | targets => all (targets.map (edge source))

/-- Several relations as one, if there are any; a single one stays as it is. -/
def combined : List Relation → Option Relation
  | [] => Option.none
  | [r] => some r
  | rs => some (all rs)

end Relation

end Rollout
