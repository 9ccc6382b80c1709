import Rollout.Plan.Basic

/-!
# Deployment: what is to be done, and the plan it makes

A `Deployment` lists the elements to add, to keep and to delete, the actions, and series of
actions that must run strictly one after another.  `Deployment.plan` builds the plan: first a
node for every element, then one for every action, then the dependencies within each series, and
last the criteria of the elements, whose relations may bring in elements that only an action
mentions.
-/

namespace Rollout

/-- Everything one deployment is asked to do. -/
structure Deployment where
  goal : Goal := .deployed
  added : List Element := []
  /-- Elements that stay as they are. -/
  kept : List Element := []
  deleted : List Element := []
  actions : List Action := []
  series : List (List Action) := []
deriving Inhabited

namespace Deployment

/-- The elements that are there when all is done. -/
def present (d : Deployment) : List Element := d.added ++ d.kept

/-- The actions, those of the series last. -/
def allActions (d : Deployment) : List Action := d.actions ++ d.series.flatten

/-- Every element the deployment mentions, those that only an action changes last. -/
def mentioned (d : Deployment) : List Element :=
  d.present ++ d.deleted ++ d.allActions.flatMap fun a => a.changes.map (·.element)

/-- The element a handle stands for: the first one mentioned with that name. -/
def find? (d : Deployment) (e : ElementId) : Option Element := d.mentioned.find? (·.id == e)

/-- Fail if an element is both kept and deleted. -/
def ensureConsistent (d : Deployment) : Except Fault Unit :=
  match d.deleted.find? fun e => d.present.any (·.id == e.id) with
  | some e => .error (.config ("Element '" ++ e.id ++ "' is both kept and deleted by this diff"))
  | none => .ok ()

/-- Add a list of elements under one goal. -/
def addElements (goal : Goal) (es : List Element) (p : Plan) : Plan :=
  es.foldl (fun p e => (p.addElement e goal).1) p

/-- Add an action, or fail. -/
def addAction (p : Plan) (a : Action) : Except Fault (Plan × NodeId) :=
  match p.addAction a with
  | (p, .ok n) => .ok (p, n)
  | (_, .error f) => .error f

/-- Add the actions of a series, each depending on the one before it. -/
def addSeries : Option NodeId → List Action → Plan → Except Fault Plan
  | _, [], p => .ok p
  | before, a :: rest, p => do
    let (p, n) ← addAction p a
    let p ← match before with
      | some b => p.addDependency n b .hard
      | none => pure p
    addSeries (some n) rest p

/-! ## Criteria of the elements -/

/-- Make the node `n` of element `e`, with criteria `c`, depend softly on the elements its
relation names; those without a node get one, with the same goal. -/
def addHandles (d : Deployment) (n : NodeId) (goal : Goal) (e : Element) (c : Criteria) :
    List ElementId → Plan → Except Fault Plan
  | [], p => .ok p
  | h :: hs, p => do
    match d.find? h with
    | none =>
      throw (.config ("Element '" ++ e.id ++ "' depends on '" ++ h ++ "' (" ++ c.description ++
        "), which is not part of this deployment"))
    | some target =>
      let (p, t) := p.addElement target goal
      let p ← p.addDependency n t .soft
      addHandles d n goal e c hs p

/-- The plan in which a node has criteria.  Those it has had stay, and so do those of work. -/
def withCriteria (p : Plan) (n : NodeId) (c : Criteria) : Plan :=
  let settle : Node → Node := fun node =>
    match node.role with
    | .element e none => { node with role := .element e (some c) }
    | _ => node
  { p with nodes := p.nodes.modify n settle }

/-- Settle the criteria of a node, or fail: there has to be such a node, and it must not have any
yet. -/
def setCriteria (p : Plan) (n : NodeId) (c : Criteria) : Except Fault Plan := do
  let node ← p.node n
  match node.role with
  | .element _ none => return withCriteria p n c
  | _ => throw (.defect ("Expected wait info of " ++ node.label ++ " to be empty"))

/-- Resolve the criteria of one node, if it stands for an element that declares any. -/
def resolve (d : Deployment) (n : NodeId) (p : Plan) : Except Fault Plan :=
  match p.nodes[n]? with
  | some ⟨_, _, goal, .element e none⟩ =>
    match e.criteria? goal with
    | none => .ok p
    | some c => do
      let p ← match c.relation with
        | none => pure p
        | some r => addHandles d n goal e c r.handles p
      setCriteria p n c
  | _ => .ok p

/-- Resolve the criteria of every node from `n` on, those that come in on the way included.  The
first argument bounds the number of nodes to look at. -/
def resolveFrom (d : Deployment) : Nat → NodeId → Plan → Except Fault Plan
  | 0, _, p => .ok p
  | count + 1, n, p =>
    if n < p.nodes.length then do
      let p ← resolve d n p
      resolveFrom d count (n + 1) p
    else .ok p

/-- The plan as it stands before the criteria are resolved. -/
def skeleton (d : Deployment) : Except Fault Plan := do
  d.ensureConsistent
  let p := addElements .deployed d.present (Plan.empty d.goal {})
  let p := addElements .destroyed d.deleted p
  let p ← d.actions.foldlM (fun p a => Prod.fst <$> addAction p a) p
  d.series.foldlM (fun p group => addSeries none group p) p

/-- Build the plan.  It has not been checked for cycles. -/
def plan (d : Deployment) : Except Fault Plan := do
  let p ← d.skeleton
  resolveFrom d (p.nodes.length + d.mentioned.length) 0 p

end Deployment

end Rollout
