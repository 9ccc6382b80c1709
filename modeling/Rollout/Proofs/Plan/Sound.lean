import Rollout.Plan.Basic
import Rollout.Proofs.Digraph.Edges

/-!
# Sound plans

What a plan says about one node is spread over the arena, the graph, the groups and the context.
`Plan.Sound` says that these agree with each other.  The second half of the file says when the
dependencies of a node are met, given where every node stands: `Plan.Met` is what a node has to
wait for before it is started.
-/

namespace Rollout

namespace Plan

/-- The parts of a plan agree with each other. -/
structure Sound (p : Plan) : Prop where
  id_eq : ∀ {n : NodeId} {node : Node}, p.nodes[n]? = some node → node.id = n
  coherent : p.graph.Coherent
  contains_iff : ∀ {n}, p.graph.contains n = true ↔ n < p.nodes.length
  nodeOf?_eq_some_iff : ∀ {e n}, p.nodeOf? e = some n ↔
    ∃ node el, p.nodes[n]? = some node ∧ node.element? = some el ∧ el.id = e
  context_iff : ∀ {e n g}, p.context.elements.lookup e = some (n, g) ↔
    p.nodeOf? e = some n ∧ ∃ node, p.nodes[n]? = some node ∧ node.goal = g
  mem_followersOf : ∀ {f l}, f ∈ p.followersOf l ↔ p.leader? f = some l
  edge_leader : ∀ {f l}, p.leader? f = some l → p.graph.edge? f l = some .hard
  follower_element : ∀ {f l}, p.leader? f = some l →
    ∃ node el, p.nodes[f]? = some node ∧ node.element? = some el
  leader_work : ∀ {f l}, p.leader? f = some l →
    ∃ node, p.nodes[l]? = some node ∧ node.element? = none

theorem node_eq_ok_iff {p : Plan} {n : NodeId} {node : Node} :
    p.node n = .ok node ↔ p.nodes[n]? = some node := by
  unfold Plan.node
  cases p.nodes[n]? <;> simp

theorem node_of_lt {p : Plan} {n : NodeId} (h : n < p.nodes.length) :
    ∃ node, p.nodes[n]? = some node :=
  ⟨_, List.getElem?_eq_getElem h⟩

theorem lt_of_node {p : Plan} {n : NodeId} {node : Node} (h : p.nodes[n]? = some node) :
    n < p.nodes.length :=
  (List.getElem?_eq_some_iff.1 h).1

namespace Sound

variable {p : Plan} {a b : NodeId} {k : EdgeKind}

/-- An edge leaves a node of the arena. -/
theorem source_lt (hp : p.Sound) (h : p.graph.edge? a b = some k) : a < p.nodes.length :=
  hp.contains_iff.1 (Digraph.contains_of_mem_successors (Digraph.mem_successors_of_edge h))

/-- An edge reaches a node of the arena. -/
theorem target_lt (hp : p.Sound) (h : p.graph.edge? a b = some k) : b < p.nodes.length :=
  hp.contains_iff.1 (hp.coherent.contains_target (Digraph.mem_successors_of_edge h))

theorem follower_lt (hp : p.Sound) (h : a ∈ p.followersOf b) : a < p.nodes.length :=
  hp.source_lt (hp.edge_leader (hp.mem_followersOf.1 h))

/-- Whoever leads is not led. -/
theorem leader_free (hp : p.Sound) (h : p.leader? a = some b) : p.leader? b = none := by
  cases hb : p.leader? b with
  | none => rfl
  | some c =>
    obtain ⟨node, hnode, hwork⟩ := hp.leader_work h
    obtain ⟨node', el, hnode', hel⟩ := hp.follower_element hb
    obtain rfl : node = node' := Option.some.inj (hnode.symm.trans hnode')
    rw [hwork] at hel
    cases hel

/-- Nobody follows himself. -/
theorem follower_ne (hp : p.Sound) (h : a ∈ p.followersOf b) : a ≠ b := by
  rintro rfl
  have hled := hp.mem_followersOf.1 h
  rw [hp.leader_free hled] at hled
  cases hled

end Sound

/-- A sound plan in a run: relations can be evaluated, and work acts only for elements it
leads. -/
structure Runnable (p : Plan) : Prop extends Sound p where
  attached : p.context.attached = true
  acts_for_follower : ∀ {l : NodeId} {node : Node} {a : ActingFor}, p.nodes[l]? = some node →
    a ∈ node.actsFor → ∃ f ∈ p.followersOf l, p.nodeOf? a.element = some f

/-- The hard dependencies of a node are the targets of its hard edges. -/
theorem mem_hardDependencies {p : Plan} (hp : p.graph.Tidy) {n d : NodeId} :
    d ∈ p.hardDependencies n ↔ p.graph.edge? n d = some .hard := by
  unfold hardDependencies
  rw [List.mem_filterMap, hp.edge?_eq_some]
  constructor
  · rintro ⟨⟨t, k⟩, hmem, hk⟩
    by_cases hhard : k = .hard
    · simp only [hhard, if_true, Option.some.injEq] at hk
      rwa [hk, hhard] at hmem
    · simp [hhard] at hk
  · intro hmem
    exact ⟨_, hmem, by simp⟩

/-! ## Met dependencies

A status map says where every node stands. -/

/-- A node of the plan stands at its own goal. -/
def AtGoal (p : Plan) (status : NodeId → NodeStatus) (n : NodeId) : Prop :=
  ∃ node, p.nodes[n]? = some node ∧ status n = node.goal.status

/-- A node at its goal is final. -/
theorem AtGoal.isFinal {p : Plan} {status : NodeId → NodeStatus} {n : NodeId}
    (h : p.AtGoal status n) : (status n).isFinal = true := by
  obtain ⟨node, -, hs⟩ := h
  rw [hs]
  exact Goal.isFinal_status _

theorem AtGoal.isGoal {p : Plan} {status : NodeId → NodeStatus} {n : NodeId}
    (h : p.AtGoal status n) : (status n).isGoal = true := by
  obtain ⟨node, -, hs⟩ := h
  rw [hs]
  exact Goal.isGoal_status _

theorem AtGoal.congr {p : Plan} {status status' : NodeId → NodeStatus} {n : NodeId}
    (h : p.AtGoal status n) (hsame : status' n = status n) : p.AtGoal status' n :=
  h.imp fun _ h => ⟨h.1, hsame.trans h.2⟩

/-- An element of the plan stands at its goal. -/
def Reached (p : Plan) (status : NodeId → NodeStatus) (e : ElementId) : Prop :=
  ∃ n g, p.context.elements.lookup e = some (n, g) ∧ status n = g.status

/-- Every element on the far side of a node's relation stands at its goal. -/
def InverseMet (p : Plan) (status : NodeId → NodeStatus) (n : NodeId) : Prop :=
  ∀ node r, p.nodes[n]? = some node → node.relation? = some r →
    ∀ e ∈ r.inverse.targets, p.Reached status e

/-- The soft dependencies of a node are met: those of its own relation if it is to be deployed,
and if it is to be destroyed those of every node that it has an edge to. -/
def SoftMet (p : Plan) (status : NodeId → NodeStatus) (n : NodeId) : Prop :=
  ∀ node, p.nodes[n]? = some node →
    match node.goal with
    | .deployed => ∀ r, node.relation? = some r → ∀ e ∈ r.targets, p.Reached status e
    | .destroyed => ∀ d k, p.graph.edge? n d = some k → p.AtGoal status d ∨ p.InverseMet status d

/-- Everything a node has to wait for before it is started. -/
structure Met (p : Plan) (status : NodeId → NodeStatus) (n : NodeId) : Prop where
  hard : ∀ d, p.graph.edge? n d = some .hard → p.AtGoal status d
  soft : ∀ y ∈ n :: p.followersOf n, p.SoftMet status y

section Monotone

variable {p : Plan} {status status' : NodeId → NodeStatus}

/-- What is reached stays so while more nodes come to their goals. -/
theorem Reached.mono (hp : p.Sound) (h : ∀ n, p.AtGoal status n → p.AtGoal status' n)
    {e : ElementId} (he : p.Reached status e) : p.Reached status' e := by
  obtain ⟨n, g, hlookup, hstatus⟩ := he
  obtain ⟨node, hnode, hgoal⟩ := (hp.context_iff.1 hlookup).2
  obtain ⟨node', hnode', hstatus'⟩ := h n ⟨node, hnode, by rw [hgoal, hstatus]⟩
  obtain rfl : node = node' := Option.some.inj (hnode.symm.trans hnode')
  exact ⟨n, g, hlookup, by rw [hstatus', hgoal]⟩

/-- What is met stays so while more nodes come to their goals. -/
theorem SoftMet.mono (hp : p.Sound) (h : ∀ n, p.AtGoal status n → p.AtGoal status' n)
    {n : NodeId} (hn : p.SoftMet status n) : p.SoftMet status' n := by
  intro node hnode
  have hold := hn node hnode
  cases hgoal : node.goal with
  | deployed =>
    rw [hgoal] at hold
    exact fun r hr e he => (hold r hr e he).mono hp h
  | destroyed =>
    rw [hgoal] at hold
    intro d k hk
    rcases hold d k hk with hd | hd
    · exact .inl (h d hd)
    · exact .inr fun nd r hnd hr e he => (hd nd r hnd hr e he).mono hp h

/-- Dependencies that are met stay so while nodes only ever come to their goals. -/
theorem Met.mono (hp : p.Sound) (h : ∀ n, p.AtGoal status n → p.AtGoal status' n)
    {n : NodeId} (hn : p.Met status n) : p.Met status' n where
  hard d hd := h d (hn.hard d hd)
  soft y hy := (hn.soft y hy).mono hp h

end Monotone

end Plan

end Rollout
