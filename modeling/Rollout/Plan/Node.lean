import Rollout.Status.Basic
import Rollout.Relation.Basic
import Rollout.Digraph.Basic

/-!
# Nodes: what a plan is made of

Elements are the things to deploy; actions are the side effects that bring elements about.
Both reach the plan from outside, together with callbacks (completion checks and action bodies)
that the plan only knows by number.

A plan `Node` stands either for an element or for a piece of work.  The two are told apart by
`Node.Role`, so that only work has a body and only work can act for elements.
-/

namespace Rollout

/-- The number by which the environment knows a completion check or an action body. -/
abbrev CallbackId := Nat

/-- Something deployable: what it depends on under each goal, and how to tell that it is
done. -/
structure Element where
  id : ElementId
  component : String
  /-- Primitive elements are counted separately in summaries. -/
  primitive : Bool := true
  relation : Goal → Option Relation := fun _ => none
  check : Option CallbackId := none

instance : Inhabited Element := ⟨⟨"", "", true, fun _ => none, none⟩⟩

/-- What an action does to one element. -/
structure ElementChange where
  kind : ChangeKind
  element : Element
  detail : String
deriving Inhabited

/-- One side effect, and the element changes it stands for. -/
structure Action where
  kind : ChangeKind
  detail : String
  changes : List ElementChange := []
  body : CallbackId
deriving Inhabited

/-- An element whose status reflects the work on it. -/
structure ActingFor where
  kind : ChangeKind
  element : ElementId
  detail : String
deriving DecidableEq, Repr, Inhabited

/-- What a node waits for before it starts, and when it counts as done.  Without a check it is
done as soon as it is looked at. -/
structure Criteria where
  description : String
  relation : Option Relation := none
  check : Option CallbackId := none
deriving Repr, Inhabited

/-- A piece of work: criteria, the body to run once, and the elements the work acts for. -/
structure Work extends Criteria where
  body : Option CallbackId := none
  actsFor : List ActingFor := []
  /-- The start of the body is announced in the log. -/
  announced : Bool := false
deriving Repr, Inhabited

/-- What a plan node stands for. -/
inductive Node.Role where
  /-- An element; the criteria are absent until they are resolved, and stay so for an element
  that declares nothing. -/
  | element (e : Element) (criteria : Option Criteria)
  /-- A piece of work. -/
  | work (w : Work)
deriving Inhabited

/-- A vertex of the plan. -/
structure Node where
  id : NodeId
  /-- `E:` and the element's name, or `W:` and a running number. -/
  label : String
  goal : Goal
  role : Node.Role
deriving Inhabited

/-- What a status tracker has to know about a node. -/
structure NodeInfo where
  id : NodeId
  label : String
  goal : Goal
  primitive : Bool
deriving DecidableEq, Repr, Inhabited

namespace Node

/-- The element the node stands for. -/
def element? (n : Node) : Option Element :=
  match n.role with
  | .element e _ => some e
  | .work _ => none

/-- The node's criteria. -/
def criteria? (n : Node) : Option Criteria :=
  match n.role with
  | .element _ c => c
  | .work w => some w.toCriteria

/-- The relation the node waits for. -/
def relation? (n : Node) : Option Relation := n.criteria?.bind (·.relation)

/-- The node's body. -/
def body? (n : Node) : Option CallbackId :=
  match n.role with
  | .element _ _ => none
  | .work w => w.body

/-- The elements the node acts for. -/
def actsFor (n : Node) : List ActingFor :=
  match n.role with
  | .element _ _ => []
  | .work w => w.actsFor

/-- The start of the node's body is announced. -/
def announced (n : Node) : Bool :=
  match n.role with
  | .element _ _ => false
  | .work w => w.announced

/-- The node stands for work. -/
def isWork (n : Node) : Bool := n.element?.isNone

/-- The node stands for a primitive element. -/
def isPrimitive (n : Node) : Bool := n.element?.any (·.primitive)

/-- A name for messages. -/
def description (n : Node) : String :=
  match n.role with
  | .work w => w.description
  | .element _ (some c) => c.description
  | .element e none => e.component ++ " (id=" ++ e.id ++ ")"

/-- What a status tracker has to know. -/
def info (n : Node) : NodeInfo := ⟨n.id, n.label, n.goal, n.isPrimitive⟩

end Node

/-- The criteria an element declares for a goal, or nothing if it declares neither a relation
nor a check. -/
def Element.criteria? (e : Element) (goal : Goal) : Option Criteria :=
  match e.relation goal, e.check with
  | none, none => none
  | none, check => some ⟨e.component, none, check⟩
  | some r, check => some ⟨r.description, some r, check⟩

end Rollout
