import Rollout.Proofs.Engine.Schedule
import Rollout.Proofs.Plan.Resolution

/-!
# Starting a node

A node is started when it takes its own status of progress or when its body is under way.  In
every run, over whatever callbacks and in whatever order these take their turns, its dependencies
are met at that moment.  The theorems about the order of a run say what this comes to for the
elements and actions of a deployment.
-/

namespace Rollout.Engine

open Rollout.Plan

variable {ω : Type} {d : Deployment} {p : Plan} {q : Pass ω} {n : NodeId}
  {status : NodeId → NodeStatus}

/-- A node is started at a moment of the run at which the nodes stand as `status` says: either
a transition gives it its own progress, or its body is under way. -/
def Pass.Begins (q : Pass ω) (n : NodeId) (status : NodeId → NodeStatus) : Prop :=
  (∃ pre s post, q.shared.trace = pre ++ (n, s) :: post ∧ s.isInProgress = true ∧
      status = statusAfter pre) ∨
    q.InBody n ∧ status = q.shared.tracker.status

/-- An element is shown as being worked on by its leader, at a moment of the run at which the nodes
stand as `status` says. -/
def Pass.Reflects (q : Pass ω) (n : NodeId) (status : NodeId → NodeStatus) : Prop :=
  ∃ pre s post, q.shared.trace = pre ++ (n, s) :: post ∧ s.isProxy = true ∧
    status = statusAfter pre

/-- The plan that is run is sound once its tracker has been attached. -/
theorem runnable_attach (h : p.Built d) : p.attach.Runnable where
  id_eq := h.sound.id_eq
  coherent := h.sound.coherent
  contains_iff := h.sound.contains_iff
  nodeOf?_eq_some_iff := h.sound.nodeOf?_eq_some_iff
  context_iff := h.sound.context_iff
  mem_followersOf := h.sound.mem_followersOf
  edge_leader := h.sound.edge_leader
  follower_element := h.sound.follower_element
  leader_work := h.sound.leader_work
  attached := rfl
  acts_for_follower hl ha := by
    obtain ⟨f, hf, hnode⟩ := h.acts hl ha
    exact ⟨f, h.sound.mem_followersOf.2 hf, hnode⟩

/-- A node that has been started has its dependencies met. -/
theorem Steady.met_of_started (hp : p.Sound) (h : Steady p q)
    (hn : Started p q.shared.tracker.status n) : p.Met q.shared.tracker.status n := by
  have hsame : ∀ {m node}, p.nodes[m]? = some node →
      q.shared.tracker.status m = statusAfter q.shared.trace m :=
    fun hm => h.consistent.status_eq (lt_of_node hm)
  have hn' : Started p (statusAfter q.shared.trace) n := by
    obtain ⟨node, hnode, hs⟩ := hn
    exact ⟨node, hnode, by rwa [← hsame hnode]⟩
  refine (h.consistent.lawful.met_of_started hp hn').mono hp ?_
  rintro m ⟨node, hnode, hs⟩
  exact ⟨node, hnode, by rw [hsame hnode, hs]⟩

/-- In a lawful trace, a node is put in progress only if its dependencies were met just before. -/
theorem Lawful.met_of_inProgress {pre post : List (NodeId × NodeStatus)} {s : NodeStatus}
    (h : Lawful p (pre ++ (n, s) :: post)) (hs : s.isInProgress = true) :
    p.Met (statusAfter pre) n := by
  obtain ⟨node, -, hcause⟩ := h.permitted.cause
  rcases hcause with rfl | ⟨hproxy, -⟩ | ⟨-, hmet⟩
  · cases hs
  · cases s <;> cases hproxy <;> cases hs
  · exact hmet

/-- Whenever a node is started its dependencies are met. -/
theorem Steady.met_of_begins (hp : p.Sound) (h : Steady p q) (hn : q.Begins n status) :
    p.Met status n := by
  rcases hn with ⟨pre, s, post, htrace, hs, rfl⟩ | ⟨⟨t, k, c, hk, rfl, hphase⟩, rfl⟩
  · have hlawful := h.consistent.lawful
    rw [htrace] at hlawful
    exact hlawful.met_of_inProgress hs
  · obtain ⟨node, hnode, hs⟩ := (h.paused hk hphase).1
    refine h.met_of_started hp ⟨node, hnode, .inl ?_⟩
    rw [h.consistent.status_eq (lt_of_node hnode), hs]

/-- When an element is shown as being worked on, its leader has been started, and so the
dependencies of the leader are met. -/
theorem Steady.met_of_reflects (hp : p.Sound) (h : Steady p q) (hn : q.Reflects n status) :
    ∃ l, p.leader? n = some l ∧ p.Met status l := by
  obtain ⟨pre, s, post, htrace, hs, rfl⟩ := hn
  have hlawful := h.consistent.lawful
  rw [htrace] at hlawful
  obtain ⟨node, -, hcause⟩ := hlawful.permitted.cause
  rcases hcause with rfl | ⟨-, l, hl, hstarted⟩ | ⟨hgoal, -⟩
  · cases hs
  · exact ⟨l, hl, hlawful.of_append.1.met_of_started hp hstarted⟩
  · cases hg : node.goal <;> rw [hg] at hgoal <;> rcases hgoal with rfl | rfl <;> cases hs

/-- A node that begins has begun only after every node that it needs hard has been started: what
such a node has had to wait for is met as well. -/
theorem Steady.met_of_begins_hard (hp : p.Sound) (h : Steady p q) (hn : q.Begins n status)
    {m : NodeId} (hm : p.graph.edge? n m = some .hard) : p.Met status m := by
  have hgoal := (h.met_of_begins hp hn).hard m hm
  rcases hn with ⟨pre, s, post, htrace, -, rfl⟩ | ⟨-, rfl⟩
  · have hlawful := h.consistent.lawful
    rw [htrace] at hlawful
    exact hlawful.of_append.1.met_of_started hp (.of_atGoal hgoal)
  · exact h.met_of_started hp (.of_atGoal hgoal)

/-- The passes of all runs of a plan that a deployment makes. -/
theorem Reachable.steady_of_plan (hplan : d.plan = .ok p)
    {ask : Condition → ω → Readiness × ω} {concurrency : Option Nat} {dryRun : Bool} {world : ω}
    {log : Array Log.Event}
    (h : Reachable ask concurrency (.first p concurrency dryRun world log) q) :
    p.attach.Sound ∧ Steady p.attach q :=
  have hp := runnable_attach (built_of_plan hplan)
  ⟨hp.toSound, h.steady hp⟩

/-- When an executed run starts a node, the dependencies of the node are met. -/
theorem execute_met (hplan : d.plan = .ok p) {calls : Callbacks ω} {options : Options}
    {limits : Limits} {world : ω} {log : Array Log.Event} {pre post : List (NodeId × NodeStatus)}
    {s : NodeStatus}
    (htrace : (execute calls options limits p world log).state.trace = pre ++ (n, s) :: post)
    (hs : s.isInProgress = true) : p.attach.Met (statusAfter pre) n := by
  obtain ⟨q, late, -, hlawful, -⟩ :=
    execute_interleaves (runnable_attach (built_of_plan hplan)) calls options limits world log
  rw [htrace] at hlawful
  exact hlawful.met_of_inProgress hs

end Rollout.Engine
