import Rollout.Digraph.Basic

/-!
# Components: the strongly connected components of a digraph

One depth-first search.  A node that is being visited carries a number, at first its own and
later the smallest number it can lead back to; a node that keeps its own number is the root of a
component, which then consists of the root and of everything put aside above it.  Nodes of
finished components are closed and count as larger than every number.
-/

namespace Rollout.Digraph

/-- What the search knows about a node it has reached. -/
inductive Mark where
  /-- The smallest number the node is known to lead back to. -/
  | low (number : Nat)
  /-- The component of the node is complete. -/
  | closed
deriving DecidableEq, Repr

/-- Closed nodes are larger than all numbers. -/
def Mark.lt : Mark → Mark → Bool
  | low a, low b => a < b
  | low _, closed => true
  | closed, _ => false

/-- State of the search: the marks, the next number, the nodes put aside (the latest first), and
the components found so far (the latest last). -/
structure ComponentSearch where
  marks : List (NodeId × Mark)
  next : Nat
  aside : List NodeId
  found : List (List NodeId)
deriving Repr, Inhabited

namespace ComponentSearch

/-- The mark of a node, if it has been reached. -/
def mark? (s : ComponentSearch) (n : NodeId) : Option Mark := s.marks.lookup n

/-- Mark a node. -/
def setMark (s : ComponentSearch) (n : NodeId) (m : Mark) : ComponentSearch :=
  { s with marks := (n, m) :: s.marks }

/-- The first node leads back further than the second. -/
def below (s : ComponentSearch) (w v : NodeId) : Bool :=
  match s.mark? w, s.mark? v with
  | some a, some b => a.lt b
  | _, _ => false

/-- Close the component of the root `v`: everything put aside that does not lead back beyond
it, in the order in which it was put aside, and the root last. -/
def close (s : ComponentSearch) (v : NodeId) : ComponentSearch :=
  let group := (s.aside.takeWhile fun w => !s.below w v).reverse ++ [v]
  { marks := group.foldl (fun marks n => (n, Mark.closed) :: marks) s.marks
    next := s.next - group.length
    aside := s.aside.dropWhile fun w => !s.below w v
    found := s.found ++ [group] }

/-- Put a node aside until the root of its component is known. -/
def putAside (s : ComponentSearch) (v : NodeId) : ComponentSearch :=
  { s with aside := v :: s.aside }

end ComponentSearch

/-- Visit a node.  The first argument bounds the depth; the number of nodes is enough. -/
def visitComponent (g : Digraph) : Nat → NodeId → ComponentSearch → ComponentSearch
  | 0, _, s => s
  | depth + 1, v, s =>
    let start := { s.setMark v (.low s.next) with next := s.next + 1 }
    let look := fun (acc : ComponentSearch × Bool) w =>
      let s := if (acc.1.mark? w).isNone then visitComponent g depth w acc.1 else acc.1
      if s.below w v then (s.setMark v ((s.mark? w).getD .closed), false) else (s, acc.2)
    let (s, isRoot) := (g.successors v).foldl look (start, true)
    if isRoot then s.close v else s.putAside v

/-- The strongly connected components, in the order in which the search completes them. -/
def components (g : Digraph) : List (List NodeId) :=
  let visit := fun (s : ComponentSearch) v =>
    if (s.mark? v).isNone then visitComponent g (g.nodes.length + 1) v s else s
  (g.nodes.foldl visit ⟨[], 0, [], []⟩).found

/-- The components that hold a cycle: those with several members, and single nodes with an edge
to themselves. -/
def cycleGroups (g : Digraph) : List (List NodeId) :=
  g.components.filter fun
    | [single] => (g.edge? single single).isSome
    | _ => true

end Rollout.Digraph
