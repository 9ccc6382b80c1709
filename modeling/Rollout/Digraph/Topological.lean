import Rollout.Digraph.Basic

/-!
# Topological: the order in which a depth-first search finishes

A depth-first search from every node in turn, the successors of a node taken last to first,
lists each node once it has listed everything the node leads to.  On a graph without cycles
every edge then points backwards in the list; on a graph with a cycle no list has that property.
-/

namespace Rollout.Digraph

/-- What a depth-first search has seen, and what it has finished, in order. -/
structure Finishing where
  seen : List NodeId
  finished : List NodeId
deriving Repr, Inhabited

/-- Search from one node.  The first argument bounds the depth; the number of nodes is
enough. -/
def finishFrom (g : Digraph) : Nat → NodeId → Finishing → Finishing
  | 0, _, s => s
  | depth + 1, n, s =>
    if s.seen.contains n then s
    else
      let s := (g.successors n).foldr (finishFrom g depth) { s with seen := n :: s.seen }
      { s with finished := s.finished ++ [n] }

/-- The nodes in the order in which the search finishes them. -/
def finishOrder (g : Digraph) : List NodeId :=
  (g.nodes.foldl (fun s n => finishFrom g (g.nodes.length + 1) n s) ⟨[], []⟩).finished

/-- Every edge of the graph points from a later entry of the list to an earlier one. -/
def pointsBack (g : Digraph) (order : List NodeId) : Bool :=
  order.all fun n => (g.successors n).all fun t => order.idxOf t < order.idxOf n

/-- Everything a node leads to in front of it, if the graph allows that; otherwise the nodes in
reverse order. -/
def dependenciesFirst (g : Digraph) : List NodeId :=
  let order := g.finishOrder
  if g.pointsBack order then order else g.nodes.reverse

end Rollout.Digraph
