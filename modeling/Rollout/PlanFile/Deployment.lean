import Rollout.PlanFile.Validation
import Rollout.Plan.Deployment

/-!
# Deployment: what a plan file asks for

`PlanFile.deployment` makes a deployment of a plan file.  The completion check of an element and
the body of an action are known by the place of their section: the environment finds the commands
there.  Actions that a series names belong to the series alone.
-/

namespace Rollout.PlanFile

/-- The element of a section. -/
def elementOf (judge : Pattern.Judge) (place : Nat) (id : String) (s : ElementSection) :
    Except Fault Element := do
  if let some pattern := s.readyPattern then
    checkPattern judge id pattern
  let relation :=
    if s.dependsOn.isEmpty then none else some (Relation.dependsOn id s.dependsOn)
  return {
    id
    component := s.component.getD "shell"
    relation := fun _ => relation
    check := if s.readyCommand.isSome then some place else none }

/-- The elements of a plan file with what is to happen to them. -/
def placedElements (f : PlanFile) (judge : Pattern.Judge) :
    Except Fault (List (Fate × Element)) :=
  f.elements.zipIdx.mapM fun e => do return (e.1.2.fate, ← elementOf judge e.2 e.1.1 e.1.2)

/-- The change of an element by an action. -/
def changeOf (es : List (Fate × Element)) (name detail : String) (kind : ChangeKind)
    (id : String) : Except Fault ElementChange :=
  match es.find? (·.2.id == id) with
  | some e => .ok ⟨kind, e.2, detail⟩
  | none => refuse ("action '" ++ name ++ "' changes unknown element '" ++ id ++ "'")

/-- The action with a name. -/
def actionOf (f : PlanFile) (es : List (Fate × Element)) (name : String) :
    Except Fault Action :=
  match f.actions.zipIdx.find? (·.1.1 == name) with
  | none => refuse ("unknown action '" ++ name ++ "'")
  | some ((_, s), place) => do
    let detail := s.detail.getD name
    let changes ← s.changes.mapM (changeOf es name detail s.kind)
    return ⟨s.kind, detail, changes, place⟩

/-- What a plan file asks for. -/
def deployment (f : PlanFile) (judge : Pattern.Judge := Pattern.judge) :
    Except Fault Deployment := do
  let es ← f.placedElements judge
  let ofFate := fun (fate : Fate) => (es.filter (·.1 = fate)).map (·.2)
  let inSeries := f.series.flatten
  let alone := (f.actions.map (·.1)).filter fun name => !inSeries.contains name
  let actions ← alone.mapM (f.actionOf es)
  let series ← f.series.mapM fun group => group.mapM (f.actionOf es)
  return {
    goal := f.options.goal
    added := ofFate .added
    kept := ofFate .common
    deleted := ofFate .deleted
    actions
    series }

end Rollout.PlanFile
