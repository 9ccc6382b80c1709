import Rollout.Plan.Deployment
import Rollout.Digraph.Topological
import Rollout.Text.Inspect

/-!
# Dump: plans and their parts as text

`Plan.dependencies` lists the live nodes with what they depend on, dependencies first;
`Plan.print` is the same for operators.  The `inspect` functions are for developers.
-/

namespace Rollout

/-- One outgoing dependency. -/
structure Dependency where
  id : NodeId
  label : String
  kind : EdgeKind
deriving DecidableEq, Repr, Inhabited

/-- One node with its outgoing dependencies. -/
structure DependencyEntry where
  id : NodeId
  label : String
  detail : String
  dependencies : List Dependency
deriving DecidableEq, Repr, Inhabited

namespace Plan

/-- What a dump says about a node besides its label. -/
def detail (p : Plan) (n : NodeId) : String :=
  match p.nodes[n]? with
  | none => ""
  | some node =>
    match node.criteria?, node.element? with
    | some c, _ => c.description
    | none, some e => e.id
    | none, none => "unknown"

/-- One entry of the dump. -/
def dependencyEntry (p : Plan) (n : NodeId) : DependencyEntry where
  id := n
  label := p.label n
  detail := p.detail n
  dependencies := (p.graph.outgoing n).map fun d => ⟨d.1, p.label d.1, d.2⟩

/-- The live nodes with their dependencies: each behind everything it depends on, if the graph
has no cycle. -/
def dependencies (p : Plan) : List DependencyEntry :=
  p.graph.dependenciesFirst.map p.dependencyEntry

/-- A node as operators see it: the label, and the description once the criteria are known. -/
def title (p : Plan) (n : NodeId) : String :=
  match (p.nodes[n]?).bind (·.criteria?) with
  | some c => p.label n ++ " (" ++ c.description ++ ")"
  | none => p.label n

/-- One entry as operators see it. -/
def printEntry (p : Plan) (e : DependencyEntry) : String :=
  let below :=
    if e.dependencies.isEmpty then ["  <none>"]
    else e.dependencies.map fun d => "  " ++ p.title d.id ++ " [" ++ d.kind.tag ++ "]"
  "\n".intercalate (p.title e.id :: below)

/-- The dump for operators. -/
def print (p : Plan) : String := "\n".intercalate (p.dependencies.map p.printEntry)

end Plan

/-! ## Developer dumps -/

open Text Text.Inspect

/-- The name of an element. -/
def inspectElementId (e : ElementId) : String := wrapped "ElementId" (quoted e)

mutual

/-- A relation. -/
def Relation.inspect : Relation → String
  | .none => "None"
  | .edge source target =>
    record "Edge" [("from", inspectElementId source), ("to", inspectElementId target)]
  | .all rs => wrapped "And" (Inspect.list (Relation.inspectAll rs))
  | .condition c => openRecord "Condition" [("description", quoted c.description)]

/-- Several relations. -/
def Relation.inspectAll : List Relation → List String
  | [] => []
  | r :: rs => r.inspect :: Relation.inspectAll rs

end

/-- An element that work acts for. -/
def ActingFor.inspect (a : ActingFor) : String :=
  record "ActingFor" [("change_type", a.kind.name), ("element", inspectElementId a.element),
    ("detail", quoted a.detail)]

/-- The criteria of a node together with its work. -/
def Node.inspectCriteria (n : Node) (c : Criteria) : String :=
  record "WaitInfo" [("description", quoted c.description),
    ("has_action", Inspect.bool n.body?.isSome),
    ("depends_on", Inspect.option (c.relation.map (·.inspect))),
    ("acting_for", Inspect.list (n.actsFor.map (·.inspect))),
    ("log_action", Inspect.bool n.announced)]

/-- A node. -/
def Node.inspect (n : Node) : String :=
  openRecord "PlanNode" [("id", wrapped "NodeId" (toString n.id)), ("label", quoted n.label),
    ("goal_status", n.goal.name),
    ("wait_info", Inspect.option (n.criteria?.map n.inspectCriteria))]

/-- The context of a plan. -/
def Context.inspect (c : Context) : String :=
  openRecord "DeployContext" [("elements", toString c.elements.length),
    ("executing", Inspect.bool c.attached)]

/-- What an element is handed while its criteria are resolved: its own name and the context. -/
def Context.inspectFor (c : Context) (e : ElementId) : String :=
  record "DeployHelpers" [("current", inspectElementId e), ("context", c.inspect)]

/-- What an action does to one element. -/
def ElementChange.inspect (c : ElementChange) : String :=
  record "ActionChange" [("change_type", c.kind.name), ("element", inspectElementId c.element.id),
    ("detail", quoted c.detail)]

/-- An action. -/
def Action.inspect (a : Action) : String :=
  openRecord "Action" [("change_type", a.kind.name), ("detail", quoted a.detail),
    ("changes", Inspect.list (a.changes.map (·.inspect)))]

/-- The elements of a deployment by what happens to them. -/
def Deployment.inspectDiff (d : Deployment) : String :=
  let ids := fun (es : List Element) => Inspect.list (es.map fun e => inspectElementId e.id)
  record "Diff" [("added", ids d.added), ("common_new", ids d.kept), ("deleted", ids d.deleted)]

/-- A deployment. -/
def Deployment.inspect (d : Deployment) : String :=
  let actions := fun (as : List Action) => Inspect.list (as.map (·.inspect))
  openRecord "ExecutionPlanOptions" [("goal_status", d.goal.name), ("diff", d.inspectDiff),
    ("actions", actions d.actions), ("series_actions", Inspect.list (d.series.map actions))]

end Rollout
