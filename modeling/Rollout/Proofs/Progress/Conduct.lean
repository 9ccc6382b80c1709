import Rollout.Proofs.Engine.Waiting
import Rollout.Proofs.Order.Bodies
import Rollout.Proofs.Progress.Attention
import Rollout.Proofs.Progress.Verdict

/-!
# How callbacks conduct themselves

A `Conduct` says of every body whether it succeeds, and of every completion check what it comes to
once it does not wait any more.  Whatever the order of a run, the conduct of its callbacks and the
graph tell which nodes may fail and which may come to their goals (`Verdict`).
-/

namespace Rollout.Engine

open Rollout.Plan

/-- How the callbacks of the nodes conduct themselves: bodies end once, and completion checks wait
for a while before they come to an end. -/
structure Conduct where
  body : NodeId → Except Failure Unit
  check : NodeId → Except Failure Unit

namespace Conduct

/-- No callback raises a defect. -/
def Sound (c : Conduct) : Prop :=
  ∀ n f, c.body n = .error f ∨ c.check n = .error f → f.toFault.isDefect = false

/-- The node has a body or a completion check that fails. -/
def Fails (c : Conduct) (p : Plan) (n : NodeId) : Prop :=
  ∃ node, p.nodes[n]? = some node ∧
    ((node.body?.isSome = true ∧ ∃ f, c.body n = .error f) ∨
      (node.criteria?.bind (·.check)).isSome = true ∧ ∃ f, c.check n = .error f)

/-- A node that fails can be reached from this one. -/
def Doomed (c : Conduct) (p : Plan) (n : NodeId) : Prop :=
  ∃ m, Relation.ReflTransGen p.Needs n m ∧ c.Fails p m

/-- The statuses that the callbacks of a node may bring it to: it fails if one of them does, and
comes to its goal if its check does not fail. -/
def Earns (c : Conduct) (p : Plan) (node : Node) (status : NodeStatus) : Prop :=
  status = .failed ∧ c.Fails p node.id ∨ status = node.goal.status ∧
    ((node.criteria?.bind (·.check)).isSome = true → c.check node.id = .ok ())

/-- The answer of a completion check that does not wait. -/
def answer (c : Conduct) (n : NodeId) : Answer Readiness :=
  .reply ((c.check n).map fun _ => .ready)

/-- What is heard of a callback is in keeping with its conduct. -/
def Bears (c : Conduct) : Notice → Prop
  | .began _ => True
  | .ended n answer => answer = .reply (c.body n)
  | .checked n answer =>
    (∃ pending, answer = .reply (.ok (.waiting pending))) ∨ answer = c.answer n

/-- Nothing speaks against a node that is at its goal. -/
structure Cleared (c : Conduct) (p : Plan) (status : NodeId → NodeStatus) (n : NodeId) : Prop where
  needs : ∀ b, p.Needs n b → p.AtGoal status b
  check : ∀ node, p.nodes[n]? = some node →
    (node.criteria?.bind (·.check)).isSome = true → c.check n = .ok ()

/-- The statuses are in keeping with the conduct of the callbacks, except that nothing is said of
the bodies of nodes that are at their goals. -/
structure Verdict (c : Conduct) (p : Plan) (status : NodeId → NodeStatus) : Prop where
  blamed : ∀ n, status n = .failed → c.Doomed p n
  cleared : ∀ n, p.AtGoal status n → c.Cleared p status n

end Conduct

variable {ω : Type} {d : Deployment} {p : Plan} {c : Conduct} {s s' : State ω} {q q' : Pass ω}
  {n m : NodeId} {node : Node} {ask : Condition → ω → Readiness × ω} {concurrency : Option Nat}
  {status status' : NodeId → NodeStatus} {progress : Progress} {move : Move ω}

/-- Who needs a doomed node is doomed. -/
theorem Conduct.Doomed.of_needs (hm : c.Doomed p m) (h : Relation.ReflTransGen p.Needs n m) :
    c.Doomed p n := by
  obtain ⟨x, hx, hfails⟩ := hm
  exact ⟨x, h.trans hx, hfails⟩

/-- A node stays cleared while more nodes come to their goals. -/
theorem Conduct.Cleared.mono (h : c.Cleared p status n)
    (hgoal : ∀ m, p.AtGoal status m → p.AtGoal status' m) : c.Cleared p status' n :=
  ⟨fun b hb => hgoal b (h.needs b hb), h.check⟩

theorem Conduct.Verdict.closed (h : c.Verdict p status) : p.Closed status :=
  fun a b hab ha => (h.cleared a ha).needs b hab

theorem Conduct.verdict_waiting : c.Verdict p fun _ => .waiting := by
  refine ⟨nofun, fun n hgoal => ?_⟩
  have hfinal := hgoal.isFinal
  cases hfinal

/-! ## Turns -/

/-- A turn keeps the verdict if failures are of the doomed and goals of the cleared. -/
theorem Turn.verdict (hp : p.Sound) {own : NodeStatus} (h : Turn p n own s s')
    (hfailed : own = .failed → c.Doomed p n)
    (hgoal : own.isGoal = true → c.Cleared p (statusAfter s.trace) n)
    (hv : c.Verdict p (statusAfter s.trace)) : c.Verdict p (statusAfter s'.trace) := by
  have hkept : ∀ m, p.AtGoal (statusAfter s.trace) m → p.AtGoal (statusAfter s'.trace) m := by
    intro m hm
    exact hm.congr (h.final hm.isFinal)
  constructor
  · intro m hm
    by_cases hmn : m = n
    · subst hmn
      exact hfailed (h.own.symm.trans hm)
    · rcases h.others hmn with hsame | ⟨hf, -, hreflected⟩
      · exact hv.blamed m (hsame.symm.trans hm)
      · -- It has failed along with its leader.
        have hown : own = .failed := by
          rw [hm] at hreflected
          cases own <;> cases hreflected
          rfl
        exact (hfailed hown).of_needs (.single ⟨_, hp.edge_leader (hp.mem_followersOf.1 hf)⟩)
  · intro m hm
    by_cases hmn : m = n
    · subst hmn
      exact (hgoal (h.own ▸ hm.isGoal)).mono hkept
    · rcases h.others hmn with hsame | ⟨-, -, hreflected⟩
      · exact (hv.cleared m (hm.congr hsame.symm)).mono hkept
      · -- followers are never given a goal
        have hnoGoal := (reflected?_eq_some hreflected).2
        rw [hm.isGoal] at hnoGoal
        cases hnoGoal

/-- The statuses stay in keeping with the conduct of the callbacks, if the node at work fails or
comes to its goal only when it may. -/
theorem Course.verdict (hp : p.Sound) {own : NodeStatus → Prop} (h : Course p n own s s')
    (hown : ∀ status, own status → (status = .failed → c.Doomed p n) ∧
      (status.isGoal = true → c.Cleared p (statusAfter s.trace) n))
    (hv : c.Verdict p (statusAfter s.trace)) : c.Verdict p (statusAfter s'.trace) := by
  induction h with
  | quiet htrace => rwa [htrace]
  | turn hstatus h =>
    obtain ⟨hfailed, hgoal⟩ := hown _ hstatus
    exact h.verdict hp hfailed hgoal hv
  | trans h _ ih ih' =>
    refine ih' (fun status hstatus => ?_) (ih hown hv)
    refine (hown status hstatus).imp_right fun hgoal hs => ?_
    exact (hgoal hs).mono fun m hm => hm.congr (h.final hm.isFinal)

/-! ## Segments -/

section Segments

variable (h : p.Built d) (hown : d.OwnEdges) (hgoals : p.SharesGoals)
  (hs : Consistent p.attach s) (hv : c.Verdict p.attach (statusAfter s.trace))

include h hown hgoals

/-- What a node needs that may start does not speak against it, and its check has yet to. -/
theorem cleared_of_met (hnode : p.nodes[node.id]? = some node)
    (hmet : p.attach.Met status node.id)
    (hcheck : (node.criteria?.bind (·.check)).isSome = true → c.check node.id = .ok ()) :
    c.Cleared p.attach status node.id where
  needs _ hb := h.atGoal_of_met hown hgoals ⟨hmet.hard, hmet.soft⟩ hb
  check node' hnode' := by
    have hnode' : p.nodes[node.id]? = some node' := hnode'
    obtain rfl := Option.some.inj (hnode.symm.trans hnode')
    exact hcheck

include hs

/-- A node that goes on has its dependencies met. -/
theorem cleared_of_inProgress (hnode : p.nodes[node.id]? = some node)
    (hn : statusAfter s.trace node.id = node.goal.inProgress)
    (hcheck : (node.criteria?.bind (·.check)).isSome = true → c.check node.id = .ok ()) :
    c.Cleared p.attach (statusAfter s.trace) node.id :=
  cleared_of_met h hown hgoals hnode
    (hs.lawful.met_of_started (runnable_attach h).toSound ⟨node, hnode, .inl hn⟩) hcheck

include hv

/-- The first segment keeps the verdict. -/
theorem Begun.verdict (hmirrors : p.attach.Mirrors (statusAfter s.trace))
    (hnode : p.nodes[node.id]? = some node) (hbegun : Begun ask p.attach node s progress s') :
    c.Verdict p.attach (statusAfter s'.trace) := by
  have hsound := (runnable_attach h).toSound
  cases hbegun with
  | idle => exact hv
  | withheld => exact hv
  | failed hnot hrun hfailed =>
    obtain ⟨-, hfoiled⟩ := foiled_of_run h hown hs hmirrors hnode hnot hrun
    obtain ⟨x, hx, hbroken⟩ := h.exists_failed_of_foiled hown hfoiled hnot
    -- the look at the dependencies has found one that has failed, and the verdict blames that
    have hdoomed : c.Doomed p.attach node.id := (hv.blamed x hbroken).of_needs hx.to_reflTransGen
    have hcourse : Course p.attach node.id (· = .failed) _ s' := hfailed.course rfl
    exact hcourse.verdict hsound
      (fun _ hstatus => ⟨fun _ => hdoomed, fun hgoal => by rw [hstatus] at hgoal; cases hgoal⟩) hv
  | @entered world s₁ _ _ _ hmet hturn _ hentered =>
    let own : NodeStatus → Prop := fun status =>
      status = node.goal.inProgress ∨
        node.criteria?.bind (·.check) = none ∧ status = node.goal.status
    have hcourse : Course p.attach node.id own s s' :=
      ((Course.turn (.inl rfl) hturn).trans
        (hentered.course fun hcheck => .inr ⟨hcheck, rfl⟩)).after rfl
    refine hcourse.verdict hsound (fun status hstatus => ⟨fun hfailed => ?_, fun hgoal => ?_⟩) hv
    · rcases hstatus with rfl | ⟨-, rfl⟩
      · exact absurd hfailed (Goal.inProgress_ne_failed _)
      · exact absurd hfailed (Goal.status_ne_failed _)
    · rcases hstatus with rfl | ⟨hcheck, -⟩
      · rw [Goal.isGoal_inProgress] at hgoal
        cases hgoal
      · refine cleared_of_met h hown hgoals hnode hmet fun hsome => ?_
        rw [hcheck] at hsome
        cases hsome

/-- What a node comes to that goes on is in keeping with the conduct of its callbacks. -/
theorem Course.verdict_of_earns (hnode : p.nodes[node.id]? = some node)
    (hn : statusAfter s.trace node.id = node.goal.inProgress)
    (hcourse : Course p.attach node.id (c.Earns p.attach node) s s') :
    c.Verdict p.attach (statusAfter s'.trace) := by
  refine hcourse.verdict (runnable_attach h).toSound
    (fun status hstatus => ⟨fun hfailed => ?_, fun hgoal => ?_⟩) hv
  · rcases hstatus with ⟨-, hfails⟩ | ⟨rfl, -⟩
    · exact ⟨node.id, .refl, hfails⟩
    · exact absurd hfailed (Goal.status_ne_failed _)
  · rcases hstatus with ⟨rfl, -⟩ | ⟨-, hcheck⟩
    · cases hgoal
    · exact cleared_of_inProgress h hown hgoals hs hnode hn hcheck

/-- The segment after a body keeps the verdict. -/
theorem Ended.verdict (hnode : p.nodes[node.id]? = some node)
    (hn : statusAfter s.trace node.id = node.goal.inProgress) (hbody : node.body?.isSome = true)
    (hended : Ended p.attach node s (c.body node.id) progress s') :
    c.Verdict p.attach (statusAfter s'.trace) := by
  refine Course.verdict_of_earns h hown hgoals hs hv hnode hn (hended.course (fun f hf => ?_) ?_)
  · exact .inl ⟨rfl, node, hnode, .inl ⟨hbody, f, hf⟩⟩
  · refine fun _ hcheck => .inr ⟨rfl, fun hsome => ?_⟩
    rw [hcheck] at hsome
    cases hsome

/-- The segment after a completion check keeps the verdict. -/
theorem Checked.verdict (hnode : p.nodes[node.id]? = some node)
    (hn : statusAfter s.trace node.id = node.goal.inProgress)
    (hcheck : (node.criteria?.bind (·.check)).isSome = true) {r : Except Failure Readiness}
    (hr : (∃ pending, r = .ok (.waiting pending)) ∨ r = (c.check node.id).map fun _ => .ready)
    (hchecked : Checked p.attach node s r progress s') :
    c.Verdict p.attach (statusAfter s'.trace) := by
  refine Course.verdict_of_earns h hown hgoals hs hv hnode hn
    (hchecked.course (fun f hf => .inl ⟨rfl, node, hnode, .inr ⟨hcheck, f, ?_⟩⟩)
      fun hready => .inr ⟨rfl, fun _ => ?_⟩)
  all_goals
    rcases hr with ⟨pending, rfl⟩ | rfl
    · first | cases hf | cases hready
    · cases hverdict : c.check node.id <;> simp_all [Except.map]

end Segments

end Rollout.Engine
