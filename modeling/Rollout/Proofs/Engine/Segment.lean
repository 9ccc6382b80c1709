import Rollout.Proofs.Engine.Dependencies
import Rollout.Proofs.Engine.Update

/-!
# Segments

What one segment of the evaluation of a node can do is said once, along the lines of the code:
`Begun` for the first segment, `Ended` and `Checked` for those that go on with the answer of a
callback, with `Past` and `Failed` for the ends they have in common.  `Advance` is what matters
about all of them: what a segment may have done to the other nodes, that a node whose evaluation
pauses has been started, and that a node whose evaluation has ended without a fault either needs no
further one or still waits for something.
-/

namespace Rollout.Engine

open Rollout.Plan

variable {ω α : Type} {p : Plan} {s s' s'' : State ω} {n : NodeId} {node : Node}
  {progress : Progress}

/-- The node is being worked on. -/
def InProgress (p : Plan) (status : NodeId → NodeStatus) (n : NodeId) : Prop :=
  ∃ node, p.nodes[n]? = some node ∧ status n = node.goal.inProgress

theorem InProgress.started {status : NodeId → NodeStatus} (h : InProgress p status n) :
    Started p status n :=
  h.imp fun _ h => ⟨h.1, .inl h.2⟩

/-- A node in progress is not final. -/
theorem InProgress.not_final {status : NodeId → NodeStatus} (h : InProgress p status n) :
    (status n).isFinal = false := by
  obtain ⟨node, -, hs⟩ := h
  rw [hs]
  exact Goal.isFinal_inProgress _

/-- The node has a completion check. -/
def HasCheck (p : Plan) (n : NodeId) : Prop :=
  ∃ node c, p.nodes[n]? = some node ∧ node.criteria?.bind (·.check) = some c

/-! ## Ends of segments -/

theorem run_andThen {σ α β : Type} (x : StateM σ α) (f : α → StateM σ β) (s : σ) :
    (x >>= f).run s = (f (x.run s).1).run (x.run s).2 := rfl

/-- To read the state first is to start with it. -/
theorem run_getThen {σ β : Type} (f : σ → StateM σ β) (s : σ) :
    (get >>= f).run s = (f s).run s := rfl

/-- A segment that ends without a fault. -/
def progressOf : Option Pause → Progress
  | none => .finished (.ok ())
  | some pause => .paused pause

/-- A segment that does not throw is concluded as it is. -/
theorem conclude_of_ok {x : Eval ω (Option Pause)} {r : Option Pause}
    (h : x.run.run s = (.ok r, s')) : (conclude node x).run s = (progressOf r, s') := by
  unfold conclude
  rw [run_andThen, h]
  cases r <;> rfl

/-- A segment that throws is concluded by its failure. -/
theorem conclude_of_error {x : Eval ω (Option Pause)} {fault : Fault}
    (h : x.run.run s = (.error fault, s')) :
    (conclude node x).run s = (fail node fault).run s' := by
  unfold conclude
  rw [run_andThen, h]

/-- A failure is recorded and logged.  A defect, or an error of the update, is what the evaluation
ends with. -/
theorem run_fail (node : Node) (fault : Fault) {r : Except Fault Unit}
    (hrun : (update node.id .failed (some fault)).run.run s = (r, s')) :
    ∃ log, (fail node fault).run s =
      (.finished (if fault.isDefect then .error fault else r), { s' with log }) := by
  unfold fail
  rw [run_andThen, hrun]
  cases fault.isActionFailed with
  | true => exact ⟨s'.log, rfl⟩
  | false => exact ⟨_, rfl⟩

/-- How a segment ends that has met with a fault: a defect is passed on. -/
def failing (fault : Fault) : Progress :=
  .finished (if fault.isDefect then .error fault else .ok ())

/-- The node fails, unless the deadline has passed. -/
inductive Failed (p : Plan) (node : Node) (s : State ω) : State ω → Prop where
  | late {log : Array Log.Event} (hstop : s.stopped = true) : Failed p node s { s with log }
  | recorded {s' : State ω} {log : Array Log.Event} (hstop : s.stopped = false)
      (h : Turn p node.id .failed s s') : Failed p node s { s' with log }

/-- What follows once the body of a node is past: its check is asked, or else the node is done. -/
inductive Past (p : Plan) (node : Node) (s : State ω) : Progress → State ω → Prop where
  | late (hstop : s.stopped = true) : Past p node s (.finished (.ok ())) s
  | asks {c : CallbackId} (hcheck : node.criteria?.bind (·.check) = some c) :
      Past p node s (.paused (.check c)) s
  | done {s' : State ω} (hstop : s.stopped = false)
      (hcheck : node.criteria?.bind (·.check) = none)
      (h : Turn p node.id node.goal.status s s') : Past p node s (.finished (.ok ())) s'

/-- A failure of a node that is not final is recorded, unless it comes after the stop. -/
theorem failed_fail (hp : p.Runnable) (h : Consistent p s) (hnode : p.nodes[node.id]? = some node)
    (hnot : (statusAfter s.trace node.id).isFinal = false) (fault : Fault) :
    ∃ s', (fail node fault).run s = (failing fault, s') ∧ Failed p node s s' := by
  cases hstop : s.stopped with
  | true =>
    -- The failure is only logged.
    obtain ⟨log, hrun⟩ := run_fail node fault (run_update_of_stopped hstop .failed (some fault))
    exact ⟨_, hrun, .late hstop⟩
  | false =>
    obtain ⟨s', hupdate, hturn, -⟩ :=
      run_update hp h hstop ⟨hnot, node, hnode, .inl rfl⟩ rfl (some fault)
    obtain ⟨log, hrun⟩ := run_fail node fault hupdate
    exact ⟨_, hrun, .recorded hstop hturn⟩

/-! ## After the node has been started -/

/-- What follows once a node has been started. -/
def enter (node : Node) : Eval ω (Option Pause) :=
  match node.body? with
  | some body => startBody node body
  | none => inspect node

/-- What the claim on the body of a node comes to. -/
theorem run_startBody_cases (node : Node) (body : CallbackId) (s : State ω) :
    (node.id ∈ s.started ∧
        (startBody node body).run.run s = (afterBody node).run.run s) ∨
      node.id ∉ s.started ∧ ∃ log,
        (startBody node body).run.run s =
          (if s.dryRun then afterBody node else pure (some (.body body))).run.run
            { s with started := node.id :: s.started, log } := by
  unfold startBody
  rw [run_get_bind]
  by_cases hclaimed : node.id ∈ s.started
  · refine .inl ⟨hclaimed, ?_⟩
    rw [if_pos (by simpa using hclaimed)]
  · refine .inr ⟨hclaimed, ?_⟩
    rw [if_neg (by simpa using hclaimed)]
    cases node.announced with
    | true => exact ⟨_, rfl⟩
    | false => exact ⟨s.log, rfl⟩

/-- The end of a body with a failure is a failure of its segment, and a defect is one of both. -/
theorem run_bodyEnded_error (node : Node) (f : Failure) (s : State ω) :
    ∃ fault log, (bodyEnded node (.error f)).run.run s = (.error fault, { s with log }) ∧
      fault.isDefect = f.toFault.isDefect := by
  unfold bodyEnded
  cases hdefect : f.toFault.isDefect with
  | true => exact ⟨f.toFault, s.log, by simp only [hdefect]; rfl, hdefect⟩
  | false => exact ⟨_, _, by simp only [hdefect]; rfl, rfl⟩

/-- What a node does that has just been started. -/
inductive Entered (p : Plan) (node : Node) (s : State ω) : Progress → State ω → Prop where
  /-- Its body is started. -/
  | starts {c : CallbackId} {log : Array Log.Event} (hbody : node.body? = some c)
      (hfree : node.id ∉ s.started) (hdry : s.dryRun = false) :
      Entered p node s (.paused (.body c)) { s with started := node.id :: s.started, log }
  /-- It has none, or the body has been started before. -/
  | skips {progress : Progress} {s' : State ω} (hbody : node.body? = none ∨ node.id ∈ s.started)
      (h : Past p node s progress s') : Entered p node s progress s'
  /-- The body is claimed and passed over. -/
  | pretends {progress : Progress} {s' : State ω} {log : Array Log.Event} (hdry : s.dryRun = true)
      (h : Past p node { s with started := node.id :: s.started, log } progress s') :
      Entered p node s progress s'

section InProgress

variable (h : Consistent p s) (hnode : p.nodes[node.id]? = some node)
  (hn : statusAfter s.trace node.id = node.goal.inProgress)

include h hnode hn

/-- A node in progress may come to its goal. -/
theorem permitted_goal (hp : p.Sound) :
    Permitted p (statusAfter s.trace) node.id node.goal.status where
  not_final := InProgress.not_final ⟨node, hnode, hn⟩
  cause := ⟨node, hnode, .inr (.inr ⟨.inr rfl,
    h.lawful.met_of_started hp ⟨node, hnode, .inl hn⟩⟩)⟩

/-- An inspection asks the completion check, or puts the node at its goal. -/
theorem past_inspect (hp : p.Sound) (hstop : s.stopped = false) :
    ∃ r s', (inspect node).run.run s = (.ok r, s') ∧ Past p node s (progressOf r) s' := by
  unfold inspect
  cases hc : node.criteria?.bind (·.check) with
  | none =>
    have hperm := permitted_goal h hnode hn hp
    exact ⟨none, _, run_complete h hstop hnode hperm,
      .done hstop hc (turn_completed hp h hnode hperm)⟩
  | some c => exact ⟨some (.check c), s, rfl, .asks hc⟩

/-- What is done after a body is an inspection, unless it comes after the stop. -/
theorem past_afterBody (hp : p.Sound) :
    ∃ r s', (afterBody node).run.run s = (.ok r, s') ∧ Past p node s (progressOf r) s' := by
  unfold afterBody
  rw [run_get_bind]
  cases hstop : s.stopped with
  | true => exact ⟨none, s, rfl, .late hstop⟩
  | false => exact past_inspect h hnode hn hp hstop

/-- A node that has been put in progress has its body started, or goes on to the inspection. -/
theorem entered_enter (hp : p.Sound) (hstop : s.stopped = false) :
    ∃ r s', (enter node).run.run s = (.ok r, s') ∧ Entered p node s (progressOf r) s' := by
  unfold enter
  cases hbody : node.body? with
  | none =>
    obtain ⟨r, s', hrun, hpast⟩ := past_inspect h hnode hn hp hstop
    exact ⟨r, s', hrun, .skips (.inl hbody) hpast⟩
  | some body =>
    rcases run_startBody_cases node body s with ⟨hclaimed, hrun⟩ | ⟨hfree, log, hrun⟩
    · obtain ⟨r, s', hrun', hpast⟩ := past_afterBody h hnode hn hp
      exact ⟨r, s', hrun.trans hrun', .skips (.inr hclaimed) hpast⟩
    · cases hdry : s.dryRun with
      | false =>
        rw [if_neg (by rw [hdry]; exact nofun)] at hrun
        exact ⟨some (.body body), _, hrun, .starts hbody hfree hdry⟩
      | true =>
        -- Claiming the body and announcing it changes nothing that matters here.
        have hclaimed : Consistent p { s with started := node.id :: s.started, log } :=
          (h.withStarted (node.id :: s.started)).withWorld s.world log
        rw [if_pos hdry] at hrun
        obtain ⟨r, s', hrun', hpast⟩ := past_afterBody hclaimed hnode hn hp
        exact ⟨r, s', hrun.trans hrun', .pretends hdry hpast⟩

end InProgress

/-! ## The first segment -/

/-- What the first segment of the evaluation of a node does. -/
inductive Begun (ask : Condition → ω → Readiness × ω) (p : Plan) (node : Node) (s : State ω) :
    Progress → State ω → Prop where
  /-- A node may be queued once more after it has become final. -/
  | idle (hfinal : (statusAfter s.trace node.id).isFinal = true) :
      Begun ask p node s (.finished (.ok ())) s
  | withheld {world : ω} (hnot : (statusAfter s.trace node.id).isFinal = false)
      (h : p.Withheld (statusAfter s.trace) node.id) :
      Begun ask p node s (.finished (.ok ())) { s with world }
  | failed {world : ω} {fault : Fault} {s' : State ω}
      (hnot : (statusAfter s.trace node.id).isFinal = false)
      (hrun : (dependenciesMet ask node).run.run s = (.error fault, { s with world }))
      (h : Failed p node { s with world } s') : Begun ask p node s (failing fault) s'
  | entered {world : ω} {s₁ s' : State ω} {progress : Progress}
      (hnot : (statusAfter s.trace node.id).isFinal = false)
      (hmet : p.Met (statusAfter s.trace) node.id)
      (hturn : Turn p node.id node.goal.inProgress { s with world } s₁)
      (hplan : s₁.plan = s.plan) (h : Entered p node s₁ progress s') :
      Begun ask p node s progress s'

/-- A node that is not final is waiting, or reflects another one, or is in progress. -/
theorem Lawful.active_of_not_final {trace : List (NodeId × NodeStatus)} (h : Lawful p trace)
    (hnot : (statusAfter trace n).isFinal = false) :
    ((statusAfter trace n).isWaiting || (statusAfter trace n).isInProgress) = true := by
  rcases h.status_cases n with hs | hs | hs | ⟨node, -, hs | hs⟩
  · rw [hs]
    rfl
  · rw [hs] at hnot
    cases hnot
  · unfold NodeStatus.isWaiting
    rw [hs, Bool.or_true]
    rfl
  · rw [hs, Goal.isInProgress_inProgress, Bool.or_true]
  · rw [hs, Goal.isFinal_status] at hnot
    cases hnot

theorem begun_start (ask : Condition → ω → Readiness × ω) (hp : p.Runnable) (h : Consistent p s)
    (hstop : s.stopped = false) (hnode : p.nodes[node.id]? = some node) :
    Begun ask p node s ((conclude node (start ask node)).run s).1
      ((conclude node (start ask node)).run s).2 := by
  have hstatus := h.status_eq (lt_of_node hnode)
  cases hfinal : (statusAfter s.trace node.id).isFinal with
  | true =>
    have hrun : (start ask node).run.run s = (.ok none, s) := by
      unfold start
      rw [run_get_bind]
      simp only [hstatus, hfinal, if_true]
      rfl
    rw [conclude_of_ok hrun]
    exact .idle hfinal
  | false =>
    have hstart : (start ask node).run.run s = (do
        if ← dependenciesMet ask node then
          update node.id node.goal.inProgress none
          enter node
        else return none : Eval ω (Option Pause)).run.run s := by
      unfold start enter
      rw [run_get_bind]
      simp only [hstatus, hfinal, h.lawful.active_of_not_final hfinal, if_true]
      rfl
    obtain ⟨met, world, hrun, hyes, hno⟩ := peeks_dependenciesMet ask hp h hnode hfinal
    have hworld : Consistent p { s with world } := h.withWorld world s.log
    cases met with
    | error fault =>
      have hend := hstart.trans (run_bind_error hrun _)
      obtain ⟨s', hfail, hfailed⟩ := failed_fail hp hworld hnode hfinal fault
      rw [conclude_of_error hend, hfail]
      exact .failed hfinal hrun hfailed
    | ok yes =>
      cases yes with
      | false =>
        have hend : (start ask node).run.run s = (.ok none, { s with world }) :=
          hstart.trans (run_bind_ok hrun _)
        rw [conclude_of_ok hend]
        exact .withheld hfinal (hno rfl)
      | true =>
        -- The dependencies are met, which is what permits the node to start.
        have hperm : Permitted p (statusAfter s.trace) node.id node.goal.inProgress :=
          ⟨hfinal, node, hnode, .inr (.inr ⟨.inl rfl, hyes rfl⟩)⟩
        obtain ⟨s₁, hupdate, hturn, hplan⟩ :=
          run_update hp hworld (s := { s with world }) hstop hperm (Goal.isGoal_inProgress _) none
        obtain ⟨r, s₂, henter, hentered⟩ :=
          entered_enter hturn.consistent hnode hturn.own hp.toSound (hturn.stopped.trans hstop)
        have hend : (start ask node).run.run s = (.ok r, s₂) := by
          rw [hstart, run_bind_ok hrun]
          simp only [if_true]
          rw [run_bind_ok hupdate]
          exact henter
        rw [conclude_of_ok hend]
        exact .entered hfinal (hyes rfl) hturn hplan hentered

/-! ## Going on -/

/-- What a node does whose body has ended. -/
inductive Ended (p : Plan) (node : Node) (s : State ω) :
    Except Failure Unit → Progress → State ω → Prop where
  | ok {progress : Progress} {s' : State ω} (h : Past p node s progress s') :
      Ended p node s (.ok ()) progress s'
  | error {f : Failure} {fault : Fault} {log : Array Log.Event} {s' : State ω}
      (hdefect : fault.isDefect = f.toFault.isDefect) (h : Failed p node { s with log } s') :
      Ended p node s (.error f) (failing fault) s'

/-- What a node does whose completion check has answered. -/
inductive Checked (p : Plan) (node : Node) (s : State ω) :
    Except Failure Readiness → Progress → State ω → Prop where
  | waits {pending : List Diagnostic} {text : String} :
      Checked p node s (.ok (.waiting pending)) (.finished (.ok ()))
        { s with tracker := s.tracker.addOutput node.id text }
  | late (hstop : s.stopped = true) : Checked p node s (.ok .ready) (.finished (.ok ())) s
  | done {s' : State ω} (hstop : s.stopped = false)
      (h : Turn p node.id node.goal.status s s') :
      Checked p node s (.ok .ready) (.finished (.ok ())) s'
  | error {f : Failure} {s' : State ω} (h : Failed p node s s') :
      Checked p node s (.error f) (failing f.toFault) s'

section InProgress

variable (hp : p.Runnable) (h : Consistent p s) (hnode : p.nodes[node.id]? = some node)
  (hn : statusAfter s.trace node.id = node.goal.inProgress)

include hp h hnode hn

/-- The segment after a body does one of the things that `Ended` lists. -/
theorem ended_bodyEnded (r : Except Failure Unit) :
    Ended p node s r ((conclude node (bodyEnded node r)).run s).1
      ((conclude node (bodyEnded node r)).run s).2 := by
  cases r with
  | ok u =>
    obtain ⟨r, s', hrun, hpast⟩ := past_afterBody h hnode hn hp.toSound
    have hended : (bodyEnded node (.ok u)).run.run s = (.ok r, s') := hrun
    rw [conclude_of_ok hended]
    exact .ok hpast
  | error f =>
    obtain ⟨fault, log, hended, hdefect⟩ := run_bodyEnded_error node f s
    obtain ⟨s', hfail, hfailed⟩ := failed_fail hp (s := { s with log }) (h.withWorld s.world log)
      hnode (InProgress.not_final ⟨node, hnode, hn⟩) fault
    rw [conclude_of_error hended, hfail]
    exact .error hdefect hfailed

/-- The segment after a completion check does one of the things that `Checked` lists. -/
theorem checked_checkAnswered (r : Except Failure Readiness) :
    Checked p node s r ((conclude node (checkAnswered node r)).run s).1
      ((conclude node (checkAnswered node r)).run s).2 := by
  match r with
  | .error f =>
    have hrun : (checkAnswered node (.error f)).run.run s = (.error f.toFault, s) := rfl
    obtain ⟨s', hfail, hfailed⟩ :=
      failed_fail hp h hnode (InProgress.not_final ⟨node, hnode, hn⟩) f.toFault
    rw [conclude_of_error hrun, hfail]
    exact .error hfailed
  | .ok (.waiting pending) =>
    have hrun : (checkAnswered node (.ok (.waiting pending))).run.run s = (.ok none, { s with
        tracker := s.tracker.addOutput node.id (Readiness.waiting pending).text }) := rfl
    rw [conclude_of_ok hrun]
    exact .waits
  -- the node comes to its goal, unless the pass has been stopped in the meantime
  | .ok .ready =>
    have hready : (checkAnswered node (.ok .ready)).run.run s = (complete node).run.run s := rfl
    cases hstop : s.stopped with
    | true =>
      have hrun : (complete node).run.run s = (.ok none, s) := by
        unfold complete
        rw [run_get_bind, hstop]
        rfl
      rw [conclude_of_ok (hready.trans hrun)]
      exact .late hstop
    | false =>
      have hperm := permitted_goal h hnode hn hp.toSound
      rw [conclude_of_ok (hready.trans (run_complete h hstop hnode hperm))]
      exact .done hstop (turn_completed hp.toSound h hnode hperm)

end InProgress

/-! ## Whole segments -/

/-- The nodes of the plan stand at their own places. -/
def Numbered (s : State ω) : Prop :=
  ∀ {n : NodeId} {node : Node}, s.plan.nodes[n]? = some node → node.id = n

theorem Consistent.numbered (hp : p.Sound) (h : Consistent p s) : Numbered s := by
  intro n node hnode
  rw [h.nodes_eq] at hnode
  exact hp.id_eq hnode

/-- A first segment does nothing, for the deadline has passed or there is no such node, or it is
that of a node of the plan. -/
theorem run_begin_cases (ask : Condition → ω → Readiness × ω) (hids : Numbered s) (n : NodeId) :
    (∃ r, (begin ask n).run s = (.finished r, s) ∧
        (s.stopped = true ∧ r = .ok () ∨ s.plan.nodes[n]? = none ∧ r ≠ .ok ())) ∨
      ∃ node, s.plan.nodes[n]? = some node ∧ n = node.id ∧ s.stopped = false ∧
        (begin ask n).run s = (conclude node (start ask node)).run s := by
  unfold begin
  rw [run_getThen]
  by_cases hstop : s.stopped = true
  · rw [if_pos hstop]
    exact .inl ⟨_, rfl, .inl ⟨hstop, rfl⟩⟩
  · rw [if_neg hstop]
    unfold Plan.node
    cases hnode : s.plan.nodes[n]? with
    | none => exact .inl ⟨_, rfl, .inr ⟨rfl, nofun⟩⟩
    | some node => exact .inr ⟨node, rfl, (hids hnode).symm, by simpa using hstop, rfl⟩

/-- An evaluation that is resumed with a reply goes on at its node. -/
theorem run_resume_reply (segment : Node → Except Failure α → Eval ω (Option Pause))
    (hnode : s.plan.nodes[n]? = some node) (r : Except Failure α) :
    (resume segment n (.reply r)).run s = (conclude node (segment node r)).run s := by
  unfold resume
  rw [run_getThen, node_eq_ok_iff.2 hnode]

/-! ## Courses -/

/-- A segment as a course of turns that one node takes, with nothing of note in between. -/
inductive Course (p : Plan) (n : NodeId) (own : NodeStatus → Prop) : State ω → State ω → Prop where
  | quiet {s s' : State ω} (htrace : s'.trace = s.trace) : Course p n own s s'
  | turn {status : NodeStatus} {s s' : State ω} (hown : own status) (h : Turn p n status s s') :
      Course p n own s s'
  | trans {s s' s'' : State ω} (h : Course p n own s s') (h' : Course p n own s' s'') :
      Course p n own s s''

section Course

variable {own : NodeStatus → Prop}

/-- What nobody sees may come first. -/
theorem Course.after (h : Course p n own s' s'') (htrace : s'.trace = s.trace) :
    Course p n own s s'' :=
  .trans (.quiet htrace) h

/-- Whatever course is taken, a final status stays. -/
theorem Course.final (h : Course p n own s s') {m : NodeId}
    (hm : (statusAfter s.trace m).isFinal = true) :
    statusAfter s'.trace m = statusAfter s.trace m := by
  induction h with
  | quiet htrace => rw [htrace]
  | turn _ h => exact h.final hm
  | trans _ _ ih ih' =>
    have hfirst := ih hm
    exact (ih' (hfirst ▸ hm)).trans hfirst

/-- A failure turns its node to failed, or changes no status. -/
theorem Failed.course (h : Failed p node s s') (hown : own .failed) :
    Course p node.id own s s' := by
  cases h with
  | late hstop => exact .quiet rfl
  | recorded _ hturn => exact .trans (.turn hown hturn) (.quiet rfl)

/-- After the body, the node is turned to its goal only if it has no completion check. -/
theorem Past.course (h : Past p node s progress s')
    (hown : node.criteria?.bind (·.check) = none → own node.goal.status) :
    Course p node.id own s s' := by
  cases h with
  | late hstop => exact .quiet rfl
  | asks hcheck => exact .quiet rfl
  | done _ hcheck hturn => exact .turn (hown hcheck) hturn

/-- The same holds from the start of the body on. -/
theorem Entered.course (h : Entered p node s progress s')
    (hown : node.criteria?.bind (·.check) = none → own node.goal.status) :
    Course p node.id own s s' := by
  cases h with
  | starts => exact .quiet rfl
  | skips _ hpast => exact hpast.course hown
  | pretends _ hpast => exact (hpast.course hown).after rfl

/-- A body that fails turns its node to failed, and one that succeeds can turn it to its goal. -/
theorem Ended.course {r : Except Failure Unit} (h : Ended p node s r progress s')
    (hfailed : ∀ f, r = .error f → own .failed)
    (hown : r = .ok () → node.criteria?.bind (·.check) = none → own node.goal.status) :
    Course p node.id own s s' := by
  cases h with
  | ok hpast => exact hpast.course (hown rfl)
  | error _ hfail => exact (hfail.course (hfailed _ rfl)).after rfl

/-- A check that fails turns its node to failed, and one that answers ready to its goal. -/
theorem Checked.course {r : Except Failure Readiness} (h : Checked p node s r progress s')
    (hfailed : ∀ f, r = .error f → own .failed) (hown : r = .ok .ready → own node.goal.status) :
    Course p node.id own s s' := by
  cases h with
  | waits => exact .quiet rfl
  | late => exact .quiet rfl
  | done _ hturn => exact .turn (hown rfl) hturn
  | error hfail => exact hfail.course (hfailed _ rfl)

end Course

/-! ## Advances -/

/-- What one segment of the evaluation of `n` makes of the shared state. -/
structure Advance (p : Plan) (n : NodeId) (s : State ω) (progress : Progress) (s' : State ω) :
    Prop where
  moved : Moved p n s s'
  signalled : Signalled n s s'
  paused : ∀ pause, progress = .paused pause →
    InProgress p (statusAfter s'.trace) n ∧ ∀ c, pause = .check c → HasCheck p n
  rested : progress = .finished (.ok ()) → s.stopped = false → n < p.nodes.length →
    (statusAfter s'.trace n).isFinal = true ∨
      InProgress p (statusAfter s'.trace) n ∧ HasCheck p n ∨ p.Withheld (statusAfter s'.trace) n

namespace Advance

/-- What happens before a segment and leaves the node unfinished may be counted as part of it. -/
theorem after (h : Moved p n s s') (hplan : s'.plan = s.plan)
    (hn : (statusAfter s'.trace n).isFinal = false) (h' : Advance p n s' progress s'') :
    Advance p n s progress s'' where
  moved := h.trans hplan h'.moved
  signalled _ hfinal a k ha := h'.signalled hn hfinal (by rw [hplan]; exact ha)
  paused := h'.paused
  rested hprogress hstop := h'.rested hprogress (h.stopped.trans hstop)

/-- Nothing has happened. -/
theorem of_quiet (h : Moved p n s s') (htrace : s'.trace = s.trace)
    (hpaused : ∀ pause, progress = .paused pause →
      InProgress p (statusAfter s.trace) n ∧ ∀ c, pause = .check c → HasCheck p n)
    (hrested : progress = .finished (.ok ()) → s.stopped = false → n < p.nodes.length →
      (statusAfter s.trace n).isFinal = true ∨
        InProgress p (statusAfter s.trace) n ∧ HasCheck p n ∨
        p.Withheld (statusAfter s.trace) n) : Advance p n s progress s' where
  moved := h
  signalled hn hn' := by
    rw [htrace, hn] at hn'
    cases hn'
  paused := by rw [htrace]; exact hpaused
  rested := by rw [htrace]; exact hrested

/-- The node has become final, and the log may have grown since. -/
theorem of_turn {status : NodeStatus} {r : Except Fault Unit} (h : Turn p n status s s')
    (hfinal : status.isFinal = true) (log : Array Log.Event) :
    Advance p n s (.finished r) { s' with log } where
  moved := { h.toMoved with consistent := h.consistent.withWorld s'.world log }
  signalled := h.signalled
  paused := nofun
  rested _ _ _ := .inl (h.own.symm ▸ hfinal)

end Advance

/-- A failure advances its node. -/
theorem Failed.advance (h : Consistent p s) (hfailed : Failed p node s s') (fault : Fault) :
    Advance p node.id s (failing fault) s' := by
  cases hfailed with
  | @late log hstop =>
    refine .of_quiet (.of_quiet (h.withWorld s.world log) rfl rfl rfl) rfl nofun ?_
    rw [hstop]
    exact fun _ => nofun
  | recorded _ hturn => exact .of_turn hturn rfl _

/-- What follows on a body advances the node. -/
theorem Past.advance (h : Consistent p s) (hprogress : InProgress p (statusAfter s.trace) node.id)
    (hnode : p.nodes[node.id]? = some node) (hpast : Past p node s progress s') :
    Advance p node.id s progress s' := by
  cases hpast with
  | late hstop =>
    -- After the deadline the node stays in progress; nothing is claimed of such an end.
    refine .of_quiet (.refl h) rfl nofun ?_
    rw [hstop]
    exact fun _ => nofun
  | @asks c hcheck =>
    exact .of_quiet (.refl h) rfl (fun _ _ => ⟨hprogress, fun _ _ => ⟨node, c, hnode, hcheck⟩⟩)
      nofun
  | done _ _ hturn => exact .of_turn hturn (Goal.isFinal_status _) s'.log

/-- The start of a body advances the node. -/
theorem Entered.advance (h : Consistent p s)
    (hprogress : InProgress p (statusAfter s.trace) node.id)
    (hnode : p.nodes[node.id]? = some node) (hentered : Entered p node s progress s') :
    Advance p node.id s progress s' := by
  have hclaimed : ∀ log, Consistent p { s with started := node.id :: s.started, log } :=
    fun log => (h.withStarted (node.id :: s.started)).withWorld s.world log
  cases hentered with
  | @starts c log =>
    refine .of_quiet (.of_quiet (hclaimed log) rfl rfl rfl) rfl (fun pause hpause => ?_)
      nofun
    obtain rfl : .body c = pause := Progress.paused.inj hpause
    exact ⟨hprogress, nofun⟩
  | skips _ hpast => exact hpast.advance h hprogress hnode
  | @pretends _ _ log _ hpast =>
    exact .after (.of_quiet (hclaimed log) rfl rfl rfl) rfl hprogress.not_final
      (hpast.advance (hclaimed log) hprogress hnode)

variable {ask : Condition → ω → Readiness × ω}

/-- The first segment advances its node. -/
theorem Begun.advance (h : Consistent p s) (hnode : p.nodes[node.id]? = some node)
    (hbegun : Begun ask p node s progress s') : Advance p node.id s progress s' := by
  have hquiet : ∀ world, Moved p node.id s { s with world } := fun world =>
    .of_quiet (h.withWorld world s.log) rfl rfl rfl
  cases hbegun with
  | idle hfinal => exact .of_quiet (.refl h) rfl nofun fun _ _ _ => .inl hfinal
  | withheld _ hwithheld =>
    exact .of_quiet (hquiet _) rfl nofun fun _ _ _ => .inr (.inr hwithheld)
  | @failed world _ _ hnot _ hfailed =>
    exact .after (hquiet world) rfl hnot (hfailed.advance (hquiet world).consistent _)
  | @entered world _ _ _ _ _ hturn hplan hentered =>
    have hprogress : InProgress p _ node.id := ⟨node, hnode, hturn.own⟩
    exact .after ((hquiet world).trans rfl hturn.toMoved) hplan hprogress.not_final
      (hentered.advance hturn.consistent hprogress hnode)

/-- The segment after a body advances its node. -/
theorem Ended.advance (h : Consistent p s) (hprogress : InProgress p (statusAfter s.trace) node.id)
    (hnode : p.nodes[node.id]? = some node) {r : Except Failure Unit}
    (hended : Ended p node s r progress s') : Advance p node.id s progress s' := by
  cases hended with
  | ok hpast => exact hpast.advance h hprogress hnode
  | @error f fault log s' _ hfailed =>
    have hlog := h.withWorld s.world log
    exact .after (.of_quiet hlog rfl rfl rfl) rfl hprogress.not_final
      (hfailed.advance hlog _)

/-- The segment after a completion check advances its node. -/
theorem Checked.advance (h : Consistent p s)
    (hprogress : InProgress p (statusAfter s.trace) node.id) (hcheck : HasCheck p node.id)
    {r : Except Failure Readiness} (hchecked : Checked p node s r progress s') :
    Advance p node.id s progress s' := by
  have hresting := And.intro hprogress hcheck
  cases hchecked with
  | @waits pending text =>
    refine .of_quiet (.of_quiet (h.addOutput node.id text) rfl rfl rfl) rfl nofun ?_
    exact fun _ _ _ => .inr (.inl hresting)
  | late => exact .of_quiet (.refl h) rfl nofun fun _ _ _ => .inr (.inl hresting)
  | done _ hturn => exact .of_turn hturn (Goal.isFinal_status _) s'.log
  | error hfailed => exact hfailed.advance h _

/-- To begin an evaluation advances its node, whatever state the pass is in. -/
theorem begin_advance (ask : Condition → ω → Readiness × ω) (hp : p.Runnable)
    (h : Consistent p s) (n : NodeId) :
    Advance p n s ((begin ask n).run s).1 ((begin ask n).run s).2 := by
  rcases run_begin_cases ask (h.numbered hp.toSound) n with
    ⟨r, hrun, hwhy⟩ | ⟨node, hnode, rfl, hstop, hrun⟩
  · rw [hrun]
    refine .of_quiet (.refl h) rfl nofun fun hok hstop hn => ?_
    -- The evaluation of a node of the plan begins, unless the deadline has passed.
    rcases hwhy with ⟨hstop', -⟩ | ⟨-, hr⟩
    · rw [hstop] at hstop'
      cases hstop'
    · exact absurd (Progress.finished.inj hok) hr
  · rw [h.nodes_eq] at hnode
    rw [hrun]
    exact (begun_start ask hp h hstop hnode).advance h hnode

/-- A segment that goes on with the answer of a callback. -/
theorem resume_advance {segment : Node → Except Failure α → Eval ω (Option Pause)}
    (h : Consistent p s) (hnode : p.nodes[node.id]? = some node)
    (hsegment : ∀ r, Advance p node.id s ((conclude node (segment node r)).run s).1
      ((conclude node (segment node r)).run s).2) (answer : Answer α) :
    Advance p node.id s ((resume segment node.id answer).run s).1
      ((resume segment node.id answer).run s).2 := by
  cases answer with
  | panic => exact .of_quiet (.refl h) rfl nofun nofun
  | reply r =>
    rw [run_resume_reply segment (by rw [h.nodes_eq]; exact hnode)]
    exact hsegment r

/-- To go on after a body advances the node. -/
theorem resumeBody_advance (hp : p.Runnable) (h : Consistent p s)
    (hprogress : InProgress p (statusAfter s.trace) n) (answer : Answer Unit) :
    Advance p n s ((resumeBody n answer).run s).1 ((resumeBody n answer).run s).2 := by
  obtain ⟨node, hnode, hn⟩ := hprogress
  obtain rfl := hp.id_eq hnode
  exact resume_advance h hnode (fun r => (ended_bodyEnded hp h hnode hn r).advance h
    ⟨node, hnode, hn⟩ hnode) answer

/-- To go on after a completion check advances the node. -/
theorem resumeCheck_advance (hp : p.Runnable) (h : Consistent p s)
    (hprogress : InProgress p (statusAfter s.trace) n) (hcheck : HasCheck p n)
    (answer : Answer Readiness) :
    Advance p n s ((resumeCheck n answer).run s).1 ((resumeCheck n answer).run s).2 := by
  obtain ⟨node, hnode, hn⟩ := hprogress
  obtain rfl := hp.id_eq hnode
  exact resume_advance h hnode (fun r => (checked_checkAnswered hp h hnode hn r).advance h
    ⟨node, hnode, hn⟩ hcheck) answer

end Rollout.Engine
