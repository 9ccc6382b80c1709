import Mathlib.Logic.Relation
import Rollout.Proofs.Engine.Segment
import Rollout.Proofs.Plan.Extension

/-!
# Elementary changes

Whatever an evaluation does to the shared state, it does by a few elementary changes: it takes a
note, it claims a body, it records a transition, it takes a node out of the live graph.  `Change`
lists them.  That every segment is a sequence of such changes is shown once, along the code, for
every plan; what evaluations keep, and what they never touch, then only has to be looked up in the
list.
-/

namespace Rollout.Engine

open Rollout.Plan

variable {ω α β : Type} {s s' s'' : State ω} {n m : NodeId} {node : Node} {status : NodeStatus}
  {may : NodeId → NodeStatus → Prop} {claims : NodeId → Prop}
  {ask : Condition → ω → Readiness × ω}

/-- An elementary change: `may` says what may be recorded about which node, and `claims` whose
body may be claimed. -/
inductive Change (may : NodeId → NodeStatus → Prop) (claims : NodeId → Prop) (s : State ω) :
    State ω → Prop where
  /-- The log, the environment, the queue and the live graph are of no account here. -/
  | aside {s' : State ω} (hnodes : s'.plan.nodes = s.plan.nodes)
      (helements : s'.plan.elementNodes = s.plan.elementNodes)
      (htracker : s'.tracker = s.tracker) (hdry : s'.dryRun = s.dryRun)
      (hstarted : s'.started = s.started) (hstopped : s'.stopped = s.stopped)
      (htransitions : s'.transitions = s.transitions) : Change may claims s s'
  | told (n : NodeId) (text : String) :
      Change may claims s { s with tracker := s.tracker.addOutput n text }
  | claimed {n : NodeId} (h : claims n) : Change may claims s { s with started := n :: s.started }
  /-- Nothing is recorded once the deadline has passed. -/
  | recorded {n : NodeId} {status : NodeStatus} (h : may n status) (hgoes : s.stopped = false)
      (error : Option Fault) (description : Option String) :
      Change may claims s (s.turned n status error description)

/-- A sequence of elementary changes. -/
abbrev Changes (may : NodeId → NodeStatus → Prop) (claims : NodeId → Prop) :
    State ω → State ω → Prop :=
  Relation.ReflTransGen (Change may claims)

/-- What elementary changes leave alone. -/
theorem Changes.same (h : Changes may claims s s') :
    s'.plan.nodes = s.plan.nodes ∧ s'.plan.elementNodes = s.plan.elementNodes ∧
      s'.stopped = s.stopped := by
  induction h with
  | refl => exact ⟨rfl, rfl, rfl⟩
  | tail _ h ih =>
    obtain ⟨hnodes, helements, hstopped⟩ := ih
    cases h with
    | aside hnodes' helements' _ _ _ hstopped' _ =>
      exact ⟨hnodes'.trans hnodes, helements'.trans helements, hstopped'.trans hstopped⟩
    | told n text => exact ⟨hnodes, helements, hstopped⟩
    | claimed _ => exact ⟨hnodes, helements, hstopped⟩
    | recorded _ _ error description => exact ⟨hnodes, helements, hstopped⟩

/-- The node of an element may take any status short of a goal, as it reflects its leader. -/
def Lenient (may : NodeId → NodeStatus → Prop) (s : State ω) : Prop :=
  ∀ e n, s.plan.nodeOf? e = some n → ∀ status : NodeStatus, status.isGoal = false → may n status

/-- What is allowed for elements stays allowed, since no change touches the table of element nodes.
-/
theorem Changes.lenient (h : Changes may claims s s') (hs : Lenient may s) : Lenient may s' := by
  intro e n he
  unfold Plan.nodeOf? at he
  rw [h.same.2.1] at he
  exact hs e n he

/-! ## Computations -/

/-- A computation comes to a sequence of elementary changes. -/
def Alters (may : NodeId → NodeStatus → Prop) (claims : NodeId → Prop) (x : Eval ω α) : Prop :=
  ∀ s, Lenient may s → Changes may claims s (x.run.run s).2

namespace Alters

/-- A step that makes one change, whatever the state, makes only allowed changes. -/
theorem of_run {x : Eval ω α} (h : ∀ s, Change may claims s (x.run.run s).2) :
    Alters may claims x := fun s _ => .single (h s)

theorem pure (a : α) : Alters may claims (pure a : Eval ω α) := fun _ _ => .refl

theorem throw (f : Fault) : Alters may claims (throw f : Eval ω α) := fun _ _ => .refl

theorem liftExcept (x : Except Fault α) : Alters may claims (liftM x : Eval ω α) := by
  intro s _
  rw [run_liftExcept]

/-- The changes of a sequence are those of the first step and then those of the rest, which starts
in a state that is as lenient. -/
theorem bind {x : Eval ω α} {f : α → Eval ω β} (hx : Alters may claims x)
    (hf : ∀ a, Alters may claims (f a)) : Alters may claims (x >>= f) := by
  intro s hs
  have hfirst := hx s hs
  rw [run_bind]
  cases h : x.run.run s with
  | mk r s' =>
    rw [h] at hfirst
    cases r with
    | error e => exact hfirst
    | ok a => exact hfirst.trans (hf a s' (hfirst.lenient hs))

theorem get_bind {f : State ω → Eval ω β} (hf : ∀ a, Alters may claims (f a)) :
    Alters may claims (get >>= f) := fun s hs => hf s s hs

theorem ite {c : Prop} [Decidable c] {x y : Eval ω α} (hx : Alters may claims x)
    (hy : Alters may claims y) : Alters may claims (if c then x else y) := by
  split
  · exact hx
  · exact hy

theorem nodeOf_bind {f : Node → Eval ω β} (hf : ∀ a, Alters may claims (f a)) :
    Alters may claims (nodeOf m >>= f) :=
  .bind (.get_bind fun _ => .liftExcept _) hf

end Alters

theorem alters_note (e : Log.Event) : Alters (ω := ω) may claims (note e) :=
  .of_run fun _ => .aside rfl rfl rfl rfl rfl rfl rfl

/-- The only change of a transition is that its node gets the status. -/
theorem alters_transition (h : may n status) (error : Option Fault)
    (description : Option String) :
    Alters (ω := ω) may claims (transition n status error description) := by
  intro s _
  rw [run_transition]
  cases hstop : s.stopped with
  | true => exact .refl
  | false => exact .single (.recorded h hstop error description)

/-- To wake the nodes that wait for a node changes the queue and the live graph at most. -/
theorem alters_signalDependents (n : NodeId) (status : NodeStatus) :
    Alters (ω := ω) may claims (signalDependents n status) := by
  unfold signalDependents
  refine .ite ?_ (.pure _)
  refine .get_bind fun s => .bind (.liftExcept _) fun dependents => ?_
  exact .of_run fun _ => .aside rfl rfl rfl rfl rfl rfl rfl

/-- Elements only reflect statuses that are not goals, which a lenient state allows for them. -/
theorem alters_reflect (hgoal : status.isGoal = false) (error : Option Fault)
    (as : List ActingFor) : Alters (ω := ω) may claims (reflect status error as) := by
  induction as with
  | nil => exact .pure _
  | cons a as ih =>
    intro s hs
    unfold reflect
    rw [run_get_bind]
    cases htarget : s.plan.nodeOf? a.element with
    | none => exact .refl
    | some target =>
      have hmay := hs a.element target htarget status hgoal
      refine Alters.get_bind (fun s' => ?_) s hs
      refine .ite ih (.bind (alters_transition hmay error _) fun changed => ?_)
      exact .ite (.bind (alters_signalDependents target status) fun _ => ih) ih

/-- An update changes its own node and, by way of reflection, the elements that the node acts for.
-/
theorem alters_update (h : may n status) (error : Option Fault) :
    Alters (ω := ω) may claims (update n status error) := by
  unfold update
  refine .bind (alters_transition h error none) fun changed => .ite ?_ (.pure _)
  cases hreflected : reflected? status with
  | none => exact alters_signalDependents n status
  | some status' =>
    have hgoal := (reflected?_eq_some hreflected).2
    refine .nodeOf_bind fun node => .bind (alters_reflect hgoal error _) fun _ => ?_
    exact alters_signalDependents n status

/-! ## Dependencies -/

theorem alters_hardReady (ds : List NodeId) : Alters (ω := ω) may claims (hardReady ds) := by
  induction ds with
  | nil => exact .pure _
  | cons d ds ih =>
    unfold hardReady
    refine .nodeOf_bind fun dep => .get_bind fun s => .bind (.liftExcept _) fun here => ?_
    exact .bind ih fun rest => .pure _

/-- To ask a relation moves the environment on and changes nothing else. -/
theorem alters_relationReady (o : Option Relation) :
    Alters may claims (relationReady ask o) := by
  cases o with
  | none => exact .pure _
  | some r =>
    unfold relationReady
    refine .get_bind fun s => .bind (.of_run fun _ => ?_) fun _ => ?_
    · exact .aside rfl rfl rfl rfl rfl rfl rfl
    · exact .bind (.liftExcept _) fun _ => .pure _

theorem alters_inversesReady (ds : List NodeId) : Alters may claims (inversesReady ask ds) := by
  induction ds with
  | nil => exact .pure _
  | cons d ds ih =>
    unfold inversesReady
    refine .nodeOf_bind fun node => .bind (alters_relationReady _) fun ready => ?_
    exact .ite ih (.pure _)

theorem alters_softReady (node : Node) : Alters may claims (softReady ask node) := by
  unfold softReady
  cases node.goal with
  | deployed => exact alters_relationReady _
  | destroyed =>
    exact .get_bind fun s => .bind (.liftExcept _) fun ds => alters_inversesReady ds

theorem alters_followersReady (fs : List NodeId) :
    Alters may claims (followersReady ask fs) := by
  induction fs with
  | nil => exact .pure _
  | cons f fs ih =>
    unfold followersReady
    refine .get_bind fun s => .nodeOf_bind fun node => .ite ?_ (.throw _)
    exact .bind (alters_softReady node) fun ready => .ite ih (.pure _)

/-- To look whether dependencies are met changes no status. -/
theorem alters_dependenciesMet (node : Node) :
    Alters may claims (dependenciesMet ask node) := by
  unfold dependenciesMet
  refine .get_bind fun s => .bind (alters_hardReady _) fun hard => .ite ?_ (.pure _)
  refine .bind (alters_softReady node) fun soft => .ite ?_ (.pure _)
  exact alters_followersReady _

/-! ## Segments -/

/-- Completion puts a node at its goal. -/
theorem alters_complete (h : may node.id node.goal.status) :
    Alters (ω := ω) may claims (complete node) := by
  unfold complete
  refine .get_bind fun s => .ite (.pure _) (.bind (alters_update h none) fun _ => ?_)
  intro s _
  rw [run_get_bind, run_bind, run_liftExcept]
  cases hremove : s.plan.removeNode node.id with
  | error f => exact .refl
  | ok plan =>
    obtain ⟨hnodes, helements⟩ := removeNode_same hremove
    exact .single (.aside hnodes helements rfl rfl rfl rfl rfl)

theorem alters_inspect (h : may node.id node.goal.status) :
    Alters (ω := ω) may claims (inspect node) := by
  unfold inspect
  cases node.criteria?.bind (·.check) with
  | none => exact alters_complete h
  | some c => exact .pure _

theorem alters_afterBody (h : may node.id node.goal.status) :
    Alters (ω := ω) may claims (afterBody node) := by
  unfold afterBody
  exact .get_bind fun s => .ite (.pure _) (alters_inspect h)

theorem alters_claim (h : claims n) :
    Alters (ω := ω) may claims
      (modify fun st => { st with started := n :: st.started } : Eval ω PUnit) :=
  .of_run fun _ => .claimed h

/-- Before a body runs, it is claimed; in a dry run its node goes on to its goal at once. -/
theorem alters_startBody (h : may node.id node.goal.status) (hclaim : claims node.id)
    (body : CallbackId) : Alters (ω := ω) may claims (startBody node body) := by
  have hgoal : Alters (ω := ω) may claims (afterBody node) := alters_afterBody h
  unfold startBody
  refine .get_bind fun s => .ite hgoal (.bind (alters_claim hclaim) fun _ => ?_)
  have hrest : Alters (ω := ω) may claims
      (do if (← get).dryRun then afterBody node else return some (.body body)) :=
    .get_bind fun s => .ite hgoal (.pure _)
  exact .ite (.bind (alters_note _) fun _ => hrest) hrest

/-- What is done once the dependencies are met: the body is started, or there is none and the node
is inspected. -/
theorem alters_enter (h : may node.id node.goal.status) (hclaim : claims node.id) :
    Alters (ω := ω) may claims (enter node) := by
  unfold enter
  cases node.body? with
  | some body => exact alters_startBody h hclaim body
  | none => exact alters_inspect h

/-- The first segment of an evaluation puts its node in progress, and may claim its body and put it
at its goal. -/
theorem alters_start (hprogress : may node.id node.goal.inProgress)
    (h : may node.id node.goal.status) (hclaim : claims node.id) :
    Alters may claims (start ask node) := by
  have hrest : Alters may claims (do
      if ← dependenciesMet ask node then
        update node.id node.goal.inProgress none
        enter node
      else return none) := by
    refine .bind (alters_dependenciesMet node) fun met => .ite ?_ (.pure _)
    exact .bind (alters_update hprogress none) fun _ => alters_enter h hclaim
  unfold start
  refine .get_bind fun s => .ite (.pure _) (.ite ?_ (.bind (.throw _) fun _ => hrest))
  exact hrest

/-- The segment after a body may put the node at its goal; a body that failed leaves that to `fail`.
-/
theorem alters_bodyEnded (h : may node.id node.goal.status) (r : Except Failure Unit) :
    Alters (ω := ω) may claims (bodyEnded node r) := by
  cases r with
  | ok u => exact alters_afterBody h
  | error f =>
    unfold bodyEnded
    exact .ite (.throw _) (.bind (alters_note _) fun _ => .throw _)

/-- The segment after a completion check may put the node at its goal. -/
theorem alters_checkAnswered (h : may node.id node.goal.status) (r : Except Failure Readiness) :
    Alters (ω := ω) may claims (checkAnswered node r) := by
  match r with
  | .ok .ready => exact alters_complete h
  | .ok (.waiting pending) =>
    unfold checkAnswered
    exact .of_run fun s => .told node.id _
  | .error f => exact .throw _

/-! ## Whole segments -/

/-- A failure that is no defect makes its node failed; a defect changes nothing. -/
theorem changes_fail (hfailed : may node.id .failed) (hs : Lenient may s) (fault : Fault) :
    Changes may claims s ((fail node fault).run s).2 := by
  have hupdate : Alters (ω := ω) may claims (update node.id .failed (some fault)) :=
    alters_update hfailed (some fault)
  obtain ⟨log, hrun⟩ := run_fail node (s := s) fault rfl
  rw [hrun]
  exact (hupdate s hs).tail (.aside rfl rfl rfl rfl rfl rfl rfl)

/-- The end of a segment adds at most that the node has failed. -/
theorem changes_conclude {segment : Eval ω (Option Pause)} (hfailed : may node.id .failed)
    (hsegment : Alters may claims segment) (hs : Lenient may s) :
    Changes may claims s ((conclude node segment).run s).2 := by
  have hfirst := hsegment s hs
  cases hrun : segment.run.run s with
  | mk r s' =>
    rw [hrun] at hfirst
    cases r with
    | ok r =>
      rw [conclude_of_ok hrun]
      exact hfirst
    | error fault =>
      rw [conclude_of_error hrun]
      exact hfirst.trans (changes_fail hfailed (hfirst.lenient hs) fault)

/-- An evaluation that is resumed has broken down, or it goes on at a node of the plan. -/
theorem run_resume_cases (segment : Node → Except Failure α → Eval ω (Option Pause))
    (hids : Numbered s) (n : NodeId) (answer : Answer α) :
    (∃ f, f.isDefect = true ∧ (resume segment n answer).run s = (.finished (.error f), s)) ∨
      ∃ node r, s.plan.nodes[n]? = some node ∧ n = node.id ∧ answer = .reply r ∧
        (resume segment n answer).run s = (conclude node (segment node r)).run s := by
  cases answer with
  | panic => exact .inl ⟨_, rfl, rfl⟩
  | reply r =>
    cases hnode : s.plan.nodes[n]? with
    | none =>
      unfold resume Plan.node
      rw [run_getThen, hnode]
      exact .inl ⟨_, rfl, rfl⟩
    | some node =>
      exact .inr ⟨node, r, rfl, (hids hnode).symm, rfl, run_resume_reply segment hnode r⟩

/-- The first segment of the evaluation of a node makes only changes that are allowed for the node.
-/
theorem changes_begin (hids : Numbered s) (hs : Lenient may s)
    (hn : ∀ node, s.plan.nodes[n]? = some node →
      may n node.goal.inProgress ∧ may n node.goal.status ∧ may n .failed ∧ claims n) :
    Changes may claims s ((begin ask n).run s).2 := by
  rcases run_begin_cases ask hids n with ⟨r, hrun, -⟩ | ⟨node, hnode, rfl, -, hrun⟩
  · rw [hrun]
  · obtain ⟨hprogress, hgoal, hfailed, hclaim⟩ := hn node hnode
    rw [hrun]
    exact changes_conclude hfailed (alters_start hprogress hgoal hclaim) hs

/-- A later segment makes only changes that are allowed for its node.  It claims nothing. -/
theorem changes_resume {segment : Node → Except Failure α → Eval ω (Option Pause)}
    (hids : Numbered s) (hs : Lenient may s)
    (hsegment : ∀ node r, may node.id node.goal.status → Alters may claims (segment node r))
    (hn : ∀ node, s.plan.nodes[n]? = some node → may n node.goal.status ∧ may n .failed)
    (answer : Answer α) : Changes may claims s ((resume segment n answer).run s).2 := by
  rcases run_resume_cases segment hids n answer with ⟨f, -, hrun⟩ | ⟨node, r, hnode, rfl, -, hrun⟩
  · rw [hrun]
  · obtain ⟨hgoal, hfailed⟩ := hn node hnode
    rw [hrun]
    exact changes_conclude hfailed (hsegment node r hgoal) hs

theorem changes_resumeBody (hids : Numbered s) (hs : Lenient may s)
    (hn : ∀ node, s.plan.nodes[n]? = some node → may n node.goal.status ∧ may n .failed)
    (answer : Answer Unit) : Changes may claims s ((resumeBody n answer).run s).2 :=
  changes_resume hids hs (fun _ r h => alters_bodyEnded h r) hn answer

theorem changes_resumeCheck (hids : Numbered s) (hs : Lenient may s)
    (hn : ∀ node, s.plan.nodes[n]? = some node → may n node.goal.status ∧ may n .failed)
    (answer : Answer Readiness) : Changes may claims s ((resumeCheck n answer).run s).2 :=
  changes_resume hids hs (fun _ r h => alters_checkAnswered h r) hn answer

/-! ## Faults that come out -/

/-- Whatever fault the computation meets is a defect. -/
def OnlyDefects (x : Eval ω α) : Prop :=
  ∀ s f s', x.run.run s = (.error f, s') → f.isDefect = true

namespace OnlyDefects

theorem of_ok {x : Eval ω α} (h : ∀ s, ∃ a, (x.run.run s).1 = .ok a) : OnlyDefects x := by
  intro s f s' hrun
  obtain ⟨a, ha⟩ := h s
  rw [hrun] at ha
  cases ha

theorem liftExcept {x : Except Fault α} (h : ∀ f, x = .error f → f.isDefect = true) :
    OnlyDefects (liftM x : Eval ω α) := by
  intro s f s' hrun
  rw [run_liftExcept] at hrun
  exact h f (Prod.mk.inj hrun).1

/-- A sequence fails only with defects if all its parts do. -/
theorem bind {x : Eval ω α} {f : α → Eval ω β} (hx : OnlyDefects x)
    (hf : ∀ a, OnlyDefects (f a)) : OnlyDefects (x >>= f) := by
  intro s g s' hrun
  rw [run_bind] at hrun
  cases h : x.run.run s with
  | mk r s₁ =>
    rw [h] at hrun
    cases r with
    | error e =>
      obtain rfl := Except.error.inj (Prod.mk.inj hrun).1
      exact hx s e s₁ h
    | ok a => exact hf a s₁ g s' hrun

theorem get_bind {f : State ω → Eval ω β} (hf : ∀ a, OnlyDefects (f a)) :
    OnlyDefects (get >>= f) := fun s => hf s s

theorem ite {c : Prop} [Decidable c] {x y : Eval ω α} (hx : OnlyDefects x)
    (hy : OnlyDefects y) : OnlyDefects (if c then x else y) := by
  split
  · exact hx
  · exact hy

end OnlyDefects

/-- A node that does not exist is a defect. -/
theorem onlyDefects_nodeOf (n : NodeId) : OnlyDefects (ω := ω) (nodeOf n) := by
  refine .get_bind fun s => .liftExcept fun f hf => ?_
  unfold Plan.node at hf
  split at hf
  · cases hf
  · obtain rfl := Except.error.inj hf
    rfl

/-- A transition fails only if the tracker does not know the node. -/
theorem onlyDefects_transition (n : NodeId) (status : NodeStatus) (error : Option Fault)
    (description : Option String) :
    OnlyDefects (ω := ω) (transition n status error description) := by
  refine .of_ok fun s => ?_
  rw [run_transition]
  split
  · exact ⟨_, rfl⟩
  · exact ⟨_, rfl⟩

/-- To wake the nodes that wait fails only for a node that the live graph does not have. -/
theorem onlyDefects_signalDependents (n : NodeId) (status : NodeStatus) :
    OnlyDefects (ω := ω) (signalDependents n status) := by
  unfold signalDependents
  refine .ite (.get_bind fun s => .bind (.liftExcept fun f hf => ?_) fun _ => ?_) ?_
  · -- the live graph has no such node
    unfold Plan.predecessors Plan.ensureLive at hf
    cases hlive : s.plan.isLive n with
    | true =>
      rw [hlive] at hf
      cases hf
    | false =>
      rw [hlive] at hf
      obtain rfl := Except.error.inj hf
      rfl
  · exact .of_ok fun _ => ⟨_, rfl⟩
  · exact .of_ok fun _ => ⟨_, rfl⟩

theorem onlyDefects_reflect (status : NodeStatus) (error : Option Fault) (as : List ActingFor) :
    OnlyDefects (ω := ω) (reflect status error as) := by
  induction as with
  | nil => exact .of_ok fun _ => ⟨_, rfl⟩
  | cons a as ih =>
    unfold reflect
    refine .get_bind fun s => ?_
    cases s.plan.nodeOf? a.element with
    | none =>
      intro s f s' hrun
      obtain rfl := Except.error.inj (Prod.mk.inj hrun).1
      rfl
    | some target =>
      refine .get_bind fun s' => .ite ih (.bind (onlyDefects_transition _ _ _ _) fun changed => ?_)
      exact .ite (.bind (onlyDefects_signalDependents _ _) fun _ => ih) ih

/-- An update fails with nothing but defects, so that a failure it is to record cannot turn into
another one. -/
theorem onlyDefects_update (n : NodeId) (status : NodeStatus) (error : Option Fault) :
    OnlyDefects (ω := ω) (update n status error) := by
  unfold update
  refine .bind (onlyDefects_transition _ _ _ _) fun changed =>
    .ite ?_ (.of_ok fun _ => ⟨_, rfl⟩)
  cases reflected? status with
  | none => exact onlyDefects_signalDependents n status
  | some status' =>
    refine .bind (onlyDefects_nodeOf n) fun node => .bind (onlyDefects_reflect _ _ _) fun _ => ?_
    exact onlyDefects_signalDependents n status

/-- An evaluation ends with no fault but a defect; any other one stays with its node. -/
theorem isDefect_of_conclude {segment : Eval ω (Option Pause)} {f : Fault}
    (h : ((conclude node segment).run s).1 = .finished (.error f)) : f.isDefect = true := by
  cases hrun : segment.run.run s with
  | mk r s' =>
    cases r with
    | ok r =>
      rw [conclude_of_ok hrun] at h
      cases r <;> cases h
    | error fault =>
      -- only a segment that throws gets to `fail`, which answers with an error for a defect, or if
      -- the update fails
      obtain ⟨log, hfail⟩ := run_fail node (s := s') fault rfl
      rw [conclude_of_error hrun, hfail] at h
      have hresult := Progress.finished.inj h
      cases hdefect : fault.isDefect with
      | true =>
        rw [hdefect] at hresult
        exact Except.error.inj hresult ▸ hdefect
      | false =>
        rw [hdefect] at hresult
        -- the failure was recorded, so the error is the update's own
        exact onlyDefects_update node.id .failed (some fault) s' f _ (Prod.ext hresult rfl)

/-- If the first segment ends the evaluation with an error, the error is a defect. -/
theorem isDefect_of_begin {f : Fault}
    (h : ((begin ask n).run s).1 = .finished (.error f)) : f.isDefect = true := by
  unfold begin at h
  rw [run_getThen] at h
  split at h
  · cases h
  · unfold Plan.node at h
    split at h
    next fault hnode =>
      split at hnode
      · cases hnode
      · obtain rfl := Except.error.inj hnode
        obtain rfl := Except.error.inj (Progress.finished.inj h)
        rfl
    next => exact isDefect_of_conclude h

/-- If a later segment ends the evaluation with an error, the error is a defect. -/
theorem isDefect_of_resume {segment : Node → Except Failure α → Eval ω (Option Pause)}
    (hids : Numbered s) {answer : Answer α} {f : Fault}
    (h : ((resume segment n answer).run s).1 = .finished (.error f)) : f.isDefect = true := by
  rcases run_resume_cases segment hids n answer with ⟨f', hdefect, hrun⟩ | ⟨node, r, -, -, -, hrun⟩
  · rw [hrun] at h
    obtain rfl := Except.error.inj (Progress.finished.inj h)
    exact hdefect
  · rw [hrun] at h
    exact isDefect_of_conclude h

end Rollout.Engine
