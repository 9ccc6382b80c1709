/-!
# Digraph: a directed graph that remembers the order of its parts

Nodes stand in a row in the order in which they came.  Each node has one list of links, mixed
from edges that leave it and edges that reach it, in the order in which those edges were added;
an edge from a node to itself is a single outgoing link.  Removing anything fills the hole with
the last entry of the same list, so the order changes in a fixed way.

Everything the order shows in (`nodes`, `successors`, `predecessors`, `leaves`) is defined here;
traversals are in `Digraph.Topological` and `Digraph.Components`.
-/

namespace Rollout

/-- The number of a node. -/
abbrev NodeId := Nat

/-- Strength of a dependency.  A hard one must have reached its goal before the dependent is
even checked for readiness. -/
inductive EdgeKind where
  | hard
  | soft
deriving DecidableEq, Repr, Inhabited

/-- The letter dumps tag an edge with. -/
def EdgeKind.tag : EdgeKind → String
  | hard => "h"
  | soft => "s"

namespace Digraph

/-- One end of an edge, as the list of a node holds it. -/
inductive Link where
  /-- An edge that leaves the node. -/
  | out (target : NodeId) (kind : EdgeKind)
  /-- An edge that reaches the node from another one. -/
  | into (source : NodeId)
deriving DecidableEq, Repr

/-- The link is the outgoing end of an edge to `b`. -/
def Link.leavesFor (b : NodeId) : Link → Bool
  | out t _ => t == b
  | into _ => false

/-- The link is the incoming end of an edge from `a`. -/
def Link.comesFrom (a : NodeId) : Link → Bool
  | out _ _ => false
  | into s => s == a

end Digraph

/-- A directed graph: the nodes in order, each with its links in order. -/
structure Digraph where
  rows : List (NodeId × List Digraph.Link)
deriving Repr, Inhabited

/-- Take out the entry at a place by moving the last entry there. -/
def swapRemove {α : Type} (l : List α) (i : Nat) : List α :=
  match l.getLast? with
  | none => []
  | some last => (l.set i last).dropLast

/-- Take out the first entry that passes a test, if there is one. -/
def swapRemoveFirst {α : Type} (p : α → Bool) (l : List α) : List α :=
  match l.findIdx? p with
  | none => l
  | some i => swapRemove l i

namespace Digraph

/-- The graph without nodes. -/
def empty : Digraph := ⟨[]⟩

/-- The nodes, in order. -/
def nodes (g : Digraph) : List NodeId := g.rows.map (·.1)

/-- The node is in the graph. -/
def contains (g : Digraph) (n : NodeId) : Bool := g.rows.any (·.1 == n)

/-- The links of a node, none for one that is not in the graph. -/
def links (g : Digraph) (n : NodeId) : List Link := (g.rows.lookup n).getD []

/-- Change the links of one node. -/
def modifyLinks (g : Digraph) (n : NodeId) (f : List Link → List Link) : Digraph :=
  ⟨g.rows.map fun row => if row.1 == n then (row.1, f row.2) else row⟩

/-! ## Looking around -/

/-- The edges that leave a node, in order. -/
def outgoing (g : Digraph) (n : NodeId) : List (NodeId × EdgeKind) :=
  (g.links n).filterMap fun
    | .out t k => some (t, k)
    | .into _ => none

/-- The nodes that a node has an edge to, in order. -/
def successors (g : Digraph) (n : NodeId) : List NodeId := (g.outgoing n).map (·.1)

/-- The nodes that have an edge to a node, in order, the node itself included if it has one. -/
def predecessors (g : Digraph) (n : NodeId) : List NodeId :=
  (g.links n).filterMap fun
    | .out t _ => if t == n then some n else none
    | .into s => some s

/-- The kind of the edge from one node to another. -/
def edge? (g : Digraph) (a b : NodeId) : Option EdgeKind := (g.outgoing a).lookup b

/-- The nodes without outgoing edges, in order. -/
def leaves (g : Digraph) : List NodeId := g.nodes.filter fun n => (g.successors n).isEmpty

/-- The number of edges. -/
def edgeCount (g : Digraph) : Nat := (g.nodes.map fun n => (g.outgoing n).length).foldr (· + ·) 0

/-! ## Changing -/

/-- Put a node at the end, unless it is in the graph already. -/
def addNode (g : Digraph) (n : NodeId) : Digraph :=
  if g.contains n then g else ⟨g.rows ++ [(n, [])]⟩

/-- Add an edge, together with the nodes it needs; an edge that is there only takes the new
kind. -/
def addEdge (g : Digraph) (a b : NodeId) (k : EdgeKind) : Digraph :=
  if (g.edge? a b).isSome then
    g.modifyLinks a (·.map fun l => if l.leavesFor b then .out b k else l)
  else
    let g := (g.addNode a).modifyLinks a (· ++ [.out b k])
    if a == b then g else (g.addNode b).modifyLinks b (· ++ [.into a])

/-- Remove an edge, if it is there. -/
def removeEdge (g : Digraph) (a b : NodeId) : Digraph :=
  let g := g.modifyLinks a (swapRemoveFirst (Link.leavesFor b))
  if a == b then g else g.modifyLinks b (swapRemoveFirst (Link.comesFrom a))

/-- Remove from the other node's list the end of an edge that `n`'s own list showed as `l`. -/
def dropFarEnd (n : NodeId) (g : Digraph) (l : Link) : Digraph :=
  match l with
  | .out t _ => g.modifyLinks t (swapRemoveFirst (Link.comesFrom n))
  | .into s => g.modifyLinks s (swapRemoveFirst (Link.leavesFor n))

/-- Remove a node with all its edges, if it is there. -/
def removeNode (g : Digraph) (n : NodeId) : Digraph :=
  (g.links n).foldl (dropFarEnd n) ⟨swapRemoveFirst (·.1 == n) g.rows⟩

end Digraph

end Rollout
