import Rollout.Plan.Node
import Rollout.Digraph.Components

/-!
# Plan: the dependency graph of everything one deployment has to do

Nodes live in an arena that only grows and are known by their place in it; the live graph holds
those that have not reached their goal yet.  An edge from `a` to `b` says that `a` depends on
`b`.  Next to the graph the plan remembers which action leads which elements.

The operations keep three rules.  An edge that is hard stays hard.  A dependency runs between
nodes of one goal, forwards when both are deployed and backwards when both are destroyed.  And
the dependencies of an element that an action leads belong to the action.
-/

namespace Rollout

/-- What relations can learn about elements: the node and goal of each element of the plan, and
whether a status tracker has been attached. -/
structure Context where
  elements : List (ElementId × NodeId × Goal) := []
  attached : Bool := false
deriving Repr, Inhabited

/-- Remember the node of an element; the first one stays. -/
def Context.register (c : Context) (e : ElementId) (n : NodeId) (g : Goal) : Context :=
  if (c.elements.lookup e).isSome then c else { c with elements := c.elements ++ [(e, n, g)] }

/-- An execution plan. -/
structure Plan where
  goal : Goal
  nodes : List Node := []
  graph : Digraph := .empty
  elementNodes : List (ElementId × NodeId) := []
  leaders : List (NodeId × NodeId) := []
  followers : List (NodeId × List NodeId) := []
  completed : List NodeId := []
  nextWork : Nat := 0
  context : Context := {}
deriving Inhabited

namespace Plan

/-- The plan without nodes, on a context. -/
def empty (goal : Goal) (context : Context) : Plan := { goal, context }

/-! ## Looking up -/

/-- The node with a number. -/
def node (p : Plan) (n : NodeId) : Except Fault Node :=
  match p.nodes[n]? with
  | some node => .ok node
  | none => .error (.defect ("Node not found: " ++ toString n))

/-- The label of a node; a question mark for a number the plan never gave out. -/
def label (p : Plan) (n : NodeId) : String := (p.nodes[n]?.map (·.label)).getD "?"

/-- The node of an element. -/
def nodeOf? (p : Plan) (e : ElementId) : Option NodeId := p.elementNodes.lookup e

/-- The first node with a label. -/
def nodeLabelled? (p : Plan) (label : String) : Option NodeId :=
  (p.nodes.find? (·.label == label)).map (·.id)

/-- The node is in the live graph. -/
def isLive (p : Plan) (n : NodeId) : Bool := p.graph.contains n

/-- The node has been taken out of the live graph. -/
def isComplete (p : Plan) (n : NodeId) : Bool := p.completed.contains n

/-- The action that leads a node. -/
def leader? (p : Plan) (n : NodeId) : Option NodeId := p.leaders.lookup n

/-- The nodes that a node leads, in the order in which they joined. -/
def followersOf (p : Plan) (n : NodeId) : List NodeId := (p.followers.lookup n).getD []

/-- What a status tracker has to know about the nodes. -/
def infos (p : Plan) : List NodeInfo := p.nodes.map (·.info)

/-- Fail unless the node is in the live graph. -/
def ensureLive (p : Plan) (n : NodeId) : Except Fault Unit :=
  if p.isLive n then .ok ()
  else .error (.defect ("Requested node that's not in graph id=" ++ p.label n))

/-- The nodes that depend on a live node. -/
def predecessors (p : Plan) (n : NodeId) : Except Fault (List NodeId) := do
  p.ensureLive n
  return p.graph.predecessors n

/-- The nodes that a live node depends on. -/
def successors (p : Plan) (n : NodeId) : Except Fault (List NodeId) := do
  p.ensureLive n
  return p.graph.successors n

/-- The outstanding hard dependencies of a node. -/
def hardDependencies (p : Plan) (n : NodeId) : List NodeId :=
  (p.graph.outgoing n).filterMap fun d => if d.2 = .hard then some d.1 else none

/-- Live nodes without outstanding dependencies. -/
def leaves (p : Plan) : List NodeId := p.graph.leaves

/-! ## Adding nodes -/

/-- Put a node at the end of the arena and into the live graph. -/
def pushNode (p : Plan) (label : String) (goal : Goal) (role : Node.Role) : Plan × NodeId :=
  let id := p.nodes.length
  ({ p with nodes := p.nodes ++ [⟨id, label, goal, role⟩], graph := p.graph.addNode id }, id)

/-- The node of an element, new unless the element has one already; the goal of a node that is
there does not change. -/
def addElement (p : Plan) (e : Element) (goal : Goal) : Plan × NodeId :=
  match p.nodeOf? e.id with
  | some n => (p, n)
  | none =>
    let (p, id) := p.pushNode ("E:" ++ e.id) goal (.element e none)
    ({ p with
        elementNodes := p.elementNodes ++ [(e.id, id)]
        context := p.context.register e.id id goal }, id)

/-- A new node for a piece of work. -/
def addWork (p : Plan) (w : Work) (goal : Goal) : Plan × NodeId :=
  let label := "W:" ++ toString p.nextWork
  { p with nextWork := p.nextWork + 1 }.pushNode label goal (.work w)

/-! ## Adding dependencies -/

/-- Add an edge; one that is hard stays hard. -/
def link (p : Plan) (a b : NodeId) (k : EdgeKind) : Plan :=
  let k := if p.graph.edge? a b = some .hard then .hard else k
  { p with graph := p.graph.addEdge a b k }

/-- The direction rule for `dependent` depending on `dependency`: which node the edge leaves and
which it reaches, if there is to be one.  A node to be deployed cannot hold on to one that is to
be destroyed, and a node to be destroyed never waits for one to be deployed. -/
def direction (p : Plan) (dependent dependency : NodeId) :
    Except Fault (Option (NodeId × NodeId)) := do
  let a ← p.node dependent
  let b ← p.node dependency
  match a.goal, b.goal with
  | .deployed, .deployed => return some (dependent, dependency)
  | .destroyed, .destroyed => return some (dependency, dependent)
  | .destroyed, .deployed => return none
  | .deployed, .destroyed =>
    throw (.invalidGoalPair (a.goal.name ++ "," ++ b.goal.name ++ " (" ++ p.label dependent ++
      " -> " ++ p.label dependency ++ ")"))

/-- Make `dependent` depend on `dependency`, as the direction rule says.  The dependency of a
node that is led by another becomes the leader's. -/
def addDependency (p : Plan) (dependent dependency : NodeId) (k : EdgeKind) :
    Except Fault Plan := do
  match ← p.direction dependent dependency with
  | none => return p
  | some (a, b) => return p.link ((p.leader? a).getD a) b k

/-- Hand one dependency of `n` over to `leader`. -/
def handOver (n leader : NodeId) (p : Plan) (d : NodeId × EdgeKind) : Plan :=
  { p with graph := p.graph.removeEdge n d.1 }.link leader d.1 d.2

/-- Add a node to the list of those that another one leads. -/
def enlist (p : Plan) (n leader : NodeId) : Plan :=
  let followers :=
    if (p.followers.lookup leader).isSome then
      p.followers.map fun row => if row.1 == leader then (row.1, row.2 ++ [n]) else row
    else p.followers ++ [(leader, [n])]
  { p with leaders := p.leaders ++ [(n, leader)], followers }

/-- Let `leader` lead `n`: the leader takes over every dependency of `n`, and `n` depends, hard,
on the leader. -/
def setGroup (p : Plan) (n leader : NodeId) : Except Fault Plan :=
  match p.leader? n with
  | some old =>
    .error (.defect ("Node '" ++ p.label n ++ "' already in group '" ++ p.label old ++ "'"))
  | none =>
    let p := (p.graph.outgoing n).foldl (handOver n leader) p
    .ok ((p.link n leader .hard).enlist n leader)

/-! ## Adding actions -/

/-- The work an action stands for. -/
def workOf (a : Action) : Work where
  description := a.detail
  body := some a.body
  actsFor := a.changes.map fun c => ⟨c.kind, c.element.id, c.detail⟩
  announced := true

/-- Let the work `leader` lead the elements it changes.  An element that another action leads is
refused; what was done up to there stays. -/
def adopt (leader : NodeId) : List ElementChange → Plan → Plan × Option Fault
  | [], p => (p, none)
  | c :: cs, p =>
    let (p, n) := p.addElement c.element c.kind.goal
    match p.leader? n with
    | some l => if l = leader then adopt leader cs p else (p, some (.duplicateAction c.element.id))
    | none =>
      match p.setGroup n leader with
      | .ok p => adopt leader cs p
      | .error f => (p, some f)

/-- A node for an action, leading every element the action changes.  A failing call keeps what
it has done. -/
def addAction (p : Plan) (a : Action) : Plan × Except Fault NodeId :=
  let (p, n) := p.addWork (workOf a) a.kind.goal
  match adopt n a.changes p with
  | (p, none) => (p, .ok n)
  | (p, some f) => (p, .error f)

/-! ## Completing nodes, and checking -/

/-- Take a node that has reached its goal out of the live graph; it stays in the arena. -/
def removeNode (p : Plan) (n : NodeId) : Except Fault Plan := do
  p.ensureLive n
  return { p with
    graph := p.graph.removeNode n
    completed := if p.completed.contains n then p.completed else p.completed ++ [n] }

/-- A group of nodes on common cycles as one line, the first node repeated at the end. -/
def cycleLine (p : Plan) (group : List NodeId) : String :=
  let labels := group.map p.label
  "  " ++ " -> ".intercalate (labels ++ labels.take 1)

/-- Fail if the live graph has a cycle, with one line per group of nodes on common cycles. -/
def check (p : Plan) : Except Fault Unit :=
  match p.graph.cycleGroups with
  | [] => .ok ()
  | groups => .error (.cycle ("\n".intercalate (groups.map p.cycleLine)))

end Plan

end Rollout
