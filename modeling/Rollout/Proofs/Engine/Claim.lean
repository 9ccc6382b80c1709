import Rollout.Proofs.Engine.Frame

/-!
# The claim on a body

An evaluation waits for callbacks of its own node alone (`calls_of_begin`, `asks_of_resumeBody`).  A
body is started by the first segment of an evaluation, which claims it for good.  As long as the
claim has not been made, the node does not come to its goal, and it is not even asked whether it has
(`begin_unclaimed`).  A body that ends with a failure fails its node (`resumeBody_failed`).
-/

namespace Rollout.Engine

open Rollout.Plan

variable {ω α β : Type} {s s' : State ω} {n : NodeId} {node : Node}
  {ask : Condition → ω → Readiness × ω} {own : NodeStatus → Prop}

/-! ## What an evaluation waits for -/

/-- An evaluation of the node may wait for its completion check. -/
def Asks (node : Node) (pause : Pause) : Prop :=
  ∃ c, pause = .check c ∧ node.criteria?.bind (·.check) = some c

/-- An evaluation of the node may wait for its body, or for its completion check. -/
def Calls (node : Node) (pause : Pause) : Prop :=
  Asks node pause ∨ ∃ c, pause = .body c ∧ node.body? = some c

/-- Who waits for a completion check does not wait for a body. -/
theorem Asks.ne_body {pause : Pause} (h : Asks node pause) (c : CallbackId) : pause ≠ .body c := by
  obtain ⟨b, rfl, -⟩ := h
  exact nofun

/-- If the computation ends with a pause then it waits for something of the kind. -/
def Pauses (may : Pause → Prop) (x : Eval ω (Option Pause)) : Prop :=
  ∀ s pause, (x.run.run s).1 = .ok (some pause) → may pause

namespace Pauses

variable {may may' : Pause → Prop} {x y : Eval ω (Option Pause)}

theorem never : Pauses (ω := ω) may (pure none : Eval ω (Option Pause)) := by
  intro s pause h
  cases h

theorem pause {pause : Pause} (h : may pause) :
    Pauses (ω := ω) may (pure (some pause) : Eval ω (Option Pause)) := by
  intro s pause' h'
  obtain rfl := Option.some.inj (Except.ok.inj h')
  exact h

theorem throw (f : Fault) : Pauses (ω := ω) may (throw f : Eval ω (Option Pause)) := by
  intro s pause h
  cases h

/-- What a sequence waits for is decided by its last part, since only the end of a segment can
pause. -/
theorem bind {x : Eval ω α} {f : α → Eval ω (Option Pause)} (hf : ∀ a, Pauses may (f a)) :
    Pauses may (x >>= f) := by
  intro s pause
  rw [run_bind]
  cases x.run.run s with
  | mk r s' =>
    cases r with
    | error e => exact nofun
    | ok a => exact hf a s' pause

theorem ite {c : Prop} [Decidable c] (hx : Pauses may x) (hy : Pauses may y) :
    Pauses may (if c then x else y) := by
  split
  · exact hx
  · exact hy

theorem mono (h : Pauses may x) (hmay : ∀ pause, may pause → may' pause) : Pauses may' x :=
  fun s pause hpause => hmay pause (h s pause hpause)

/-- A segment that has ended with a pause has come to it by its computation, for a fault ends the
evaluation. -/
theorem of_conclude (h : Pauses may x) {s : State ω} {pause : Pause}
    (hpause : ((conclude node x).run s).1 = .paused pause) : may pause := by
  cases hrun : x.run.run s with
  | mk r s' =>
    cases r with
    -- a segment that throws is over, whatever becomes of the failure
    | error fault =>
      obtain ⟨log, hfail⟩ := run_fail node (s := s') fault rfl
      rw [conclude_of_error hrun, hfail] at hpause
      cases hpause
    | ok r =>
      rw [conclude_of_ok hrun] at hpause
      cases r with
      | none => cases hpause
      | some pause' =>
        obtain rfl := Progress.paused.inj hpause
        exact h s pause' (congrArg Prod.fst hrun)

/-- What an evaluation waits for that goes on with an answer. -/
theorem of_resume {may : Node → Pause → Prop}
    {segment : Node → Except Failure α → Eval ω (Option Pause)}
    (h : ∀ node r, Pauses (may node) (segment node r)) {answer : Answer α} {s : State ω}
    {pause : Pause} (hpause : ((resume segment n answer).run s).1 = .paused pause) :
    ∃ node, s.plan.nodes[n]? = some node ∧ may node pause := by
  cases answer with
  | panic => cases hpause
  | reply r =>
    unfold resume at hpause
    rw [run_getThen] at hpause
    cases hnode : s.plan.nodes[n]? with
    | none =>
      simp only [Plan.node, hnode] at hpause
      cases hpause
    | some node =>
      simp only [Plan.node, hnode] at hpause
      exact ⟨node, rfl, (h node r).of_conclude hpause⟩

end Pauses

/-- A node that completes waits for nothing. -/
theorem pauses_complete (may : Pause → Prop) (node : Node) :
    Pauses (ω := ω) may (complete node) := by
  unfold complete
  refine .bind fun s => .ite .never (.bind fun _ => .bind fun s => ?_)
  exact .bind fun plan => .bind fun _ => .never

/-- An inspection waits for the completion check of the node, if it has one. -/
theorem pauses_inspect (node : Node) : Pauses (ω := ω) (Asks node) (inspect node) := by
  unfold inspect
  cases hcheck : node.criteria?.bind (·.check) with
  | none => exact pauses_complete _ node
  | some c => exact .pause ⟨c, rfl, hcheck⟩

theorem pauses_afterBody (node : Node) : Pauses (ω := ω) (Asks node) (afterBody node) := by
  unfold afterBody
  exact .bind fun s => .ite .never (pauses_inspect node)

/-- A start waits for the body, unless this is a dry run or the body has been claimed before. -/
theorem pauses_startBody {body : CallbackId} (hbody : node.body? = some body) :
    Pauses (ω := ω) (Calls node) (startBody node body) := by
  have hafter : Pauses (ω := ω) (Calls node) (afterBody node) :=
    (pauses_afterBody node).mono fun _ => .inl
  have hstarts : Pauses (ω := ω) (Calls node) (pure (some (.body body))) :=
    .pause (.inr ⟨body, rfl, hbody⟩)
  unfold startBody
  refine .bind fun s => .ite hafter (.bind fun _ => ?_)
  split
  · exact .bind fun _ => .bind fun _ => .ite hafter hstarts
  · exact .bind fun _ => .ite hafter hstarts

/-- The first segment waits for the body or the completion check of its own node. -/
theorem pauses_start (ask : Condition → ω → Readiness × ω) (node : Node) :
    Pauses (Calls node) (start ask node) := by
  unfold start
  -- what a start does after its look at the goal is the same with the warning and without it
  refine .bind fun s => .ite .never (.ite ?_ (.bind fun _ => ?_))
  all_goals
    refine .bind fun met => .ite (.bind fun _ => ?_) .never
    cases hbody : node.body? with
    | none => exact (pauses_inspect node).mono fun _ => .inl
    | some body => exact pauses_startBody hbody

/-- Once the body has ended, only the completion check is left to wait for. -/
theorem pauses_bodyEnded (node : Node) (r : Except Failure Unit) :
    Pauses (ω := ω) (Asks node) (bodyEnded node r) := by
  cases r with
  | ok u => exact pauses_afterBody node
  | error f =>
    unfold bodyEnded
    exact .ite (.throw _) (.bind fun _ => .throw _)

/-- Once the check has answered, there is nothing left to wait for. -/
theorem pauses_checkAnswered (may : Pause → Prop) (node : Node) (r : Except Failure Readiness) :
    Pauses (ω := ω) may (checkAnswered node r) := by
  match r with
  | .ok .ready => exact pauses_complete may node
  | .ok (.waiting pending) => exact .bind fun _ => .never
  | .error f => exact .throw _

/-- The first segment of an evaluation waits for a callback of its own node. -/
theorem calls_of_begin (ask : Condition → ω → Readiness × ω) {pause : Pause}
    (hpause : ((begin ask n).run s).1 = .paused pause) :
    ∃ node, s.plan.nodes[n]? = some node ∧ Calls node pause := by
  unfold begin at hpause
  rw [run_getThen] at hpause
  cases hstop : s.stopped with
  -- a pass that has stopped begins nothing, and the evaluation ends without a pause
  | true =>
    rw [hstop] at hpause
    cases hpause
  | false =>
    cases hnode : s.plan.nodes[n]? with
    | none =>
      simp only [hstop, Plan.node, hnode] at hpause
      cases hpause
    | some node =>
      simp only [hstop, Plan.node, hnode] at hpause
      exact ⟨node, rfl, (pauses_start ask node).of_conclude hpause⟩

/-- After its body an evaluation waits for the completion check of its node, if for anything. -/
theorem asks_of_resumeBody {answer : Answer Unit} {pause : Pause}
    (hpause : ((resumeBody n answer).run s).1 = .paused pause) :
    ∃ node, s.plan.nodes[n]? = some node ∧ Asks node pause :=
  Pauses.of_resume pauses_bodyEnded hpause

/-- Going on with an answer does not start a body. -/
theorem resumeBody_starts_none (answer : Answer Unit) (s : State ω) (c : CallbackId) :
    ((resumeBody n answer).run s).1 ≠ .paused (.body c) := by
  intro hpause
  obtain ⟨node, -, hasks⟩ := asks_of_resumeBody hpause
  exact hasks.ne_body c rfl

/-- A completion check that has answered is the end of its evaluation. -/
theorem resumeCheck_ends (answer : Answer Readiness) (s : State ω) (pause : Pause) :
    ((resumeCheck n answer).run s).1 ≠ .paused pause := by
  intro hpause
  have hends : ∀ node r, Pauses (ω := ω) ((fun _ _ => False : Node → Pause → Prop) node)
      (checkAnswered node r) := pauses_checkAnswered fun _ => False
  obtain ⟨-, -, hnever⟩ := Pauses.of_resume hends hpause
  exact hnever

/-- No body is started by the answer of a completion check. -/
theorem resumeCheck_starts_none (answer : Answer Readiness) (s : State ω) (c : CallbackId) :
    ((resumeCheck n answer).run s).1 ≠ .paused (.body c) :=
  resumeCheck_ends answer s _

/-! ## Starting a body -/

/-- The first segment up to the point where the node is found to be in order, or is not. -/
theorem run_start_cases (ask : Condition → ω → Readiness × ω) (hown : own node.goal.inProgress)
    (hs : Open node.id own s) :
    ∃ s₁, Within node.id own False s s₁ ∧
      ((∃ f, (start ask node).run.run s = (.error f, s₁)) ∨
        (start ask node).run.run s = (.ok none, s₁) ∨
        (start ask node).run.run s = (enter node).run.run s₁) := by
  unfold start
  rw [run_get_bind]
  simp only
  by_cases hfinal : (s.tracker.status node.id).isFinal = true
  · rw [if_pos hfinal]
    exact ⟨s, .refl s, .inr (.inl rfl)⟩
  rw [if_neg hfinal]
  -- what is done from here on depends on whether dependencies are met; every look at them keeps
  -- within the frame
  by_cases hactive : ((s.tracker.status node.id).isWaiting ||
      (s.tracker.status node.id).isInProgress) = true
  · rw [if_pos hactive]
    have hkeeps : Keeps node.id own False (dependenciesMet ask node) :=
      (alters_dependenciesMet node).keeps
    have hdeps := hkeeps s hs
    rw [run_bind]
    cases hrun : (dependenciesMet ask node).run.run s with
    | mk r s₁ =>
      rw [hrun] at hdeps
      match r with
      | .error f => exact ⟨s₁, hdeps, .inl ⟨f, rfl⟩⟩
      | .ok false => exact ⟨s₁, hdeps, .inr (.inl rfl)⟩
      | .ok true =>
        simp only [if_true]
        have hstarts : Keeps (ω := ω) node.id own False
            (update node.id node.goal.inProgress none) :=
          (alters_update (fun _ => hown) none).keeps
        have hupdate := hstarts s₁ (hdeps.open hs)
        rw [run_bind]
        cases hrun' : (update node.id node.goal.inProgress none).run.run s₁ with
        | mk r s₂ =>
          rw [hrun'] at hupdate
          cases r with
          | error f => exact ⟨s₂, hdeps.trans hupdate, .inl ⟨f, rfl⟩⟩
          | ok u => exact ⟨s₂, hdeps.trans hupdate, .inr (.inr rfl)⟩
  · rw [if_neg hactive]
    exact ⟨s, .refl s, .inl ⟨_, rfl⟩⟩

/-- A body is started by an evaluation that makes the claim on it, and not in a dry run. -/
theorem start_starts {c : CallbackId}
    (h : (start ask node).run.run s = (.ok (some (.body c)), s')) :
    node.id ∉ s.started ∧ s.dryRun = false ∧ node.id ∈ s'.started := by
  have hopen : Open node.id (fun _ => True) s := fun _ _ _ => trivial
  obtain ⟨s₁, hwithin, ⟨f, hrun⟩ | hrun | hrun⟩ := run_start_cases ask trivial hopen
  · rw [hrun] at h
    cases h
  · rw [hrun] at h
    cases h
  rw [hrun] at h
  unfold enter at h
  cases hbody : node.body? with
  | none =>
    rw [hbody] at h
    exact absurd rfl ((pauses_inspect node s₁ _ (congrArg Prod.fst h)).ne_body c)
  | some body =>
    rw [hbody] at h
    -- the body is claimed already and is skipped, or it is free and this start claims it
    rcases run_startBody_cases node body s₁ with ⟨-, hstart⟩ | ⟨hfree, log, hstart⟩
    · exact absurd rfl
        ((pauses_afterBody node s₁ _ (congrArg Prod.fst (hstart.symm.trans h))).ne_body c)
    · have hend := hstart.symm.trans h
      cases hdry : s₁.dryRun with
      | true =>
        rw [hdry] at hend
        exact absurd rfl ((pauses_afterBody node _ _ (congrArg Prod.fst hend)).ne_body c)
      | false =>
        rw [hdry] at hend
        obtain ⟨-, rfl⟩ := Prod.mk.inj hend
        exact ⟨fun hmem => hfree (hwithin.kept hmem), hwithin.dryRun.symm.trans hdry,
          List.mem_cons_self⟩

/-- An evaluation that goes on to the body has just claimed it, and is no dry run. -/
theorem begin_starts (hids : Numbered s) {c : CallbackId}
    (h : ((begin ask n).run s).1 = .paused (.body c)) :
    n ∉ s.started ∧ s.dryRun = false ∧ n ∈ ((begin ask n).run s).2.started := by
  rcases run_begin_cases ask hids n with ⟨r, hrun, -⟩ | ⟨node, -, rfl, -, hrun⟩
  · rw [hrun] at h
    cases h
  rw [hrun] at h ⊢
  cases hstart : (start ask node).run.run s with
  | mk r s' =>
    cases r with
    | error fault =>
      -- a failure ends the evaluation, so it cannot have paused
      obtain ⟨log, hfail⟩ := run_fail node (s := s') fault rfl
      rw [conclude_of_error hstart, hfail] at h
      cases h
    | ok r =>
      rw [conclude_of_ok hstart] at h ⊢
      cases r with
      | none => cases h
      | some pause =>
        obtain rfl : pause = .body c := Progress.paused.inj h
        exact start_starts hstart

/-! ## The node of a body -/

/-- No transition to a goal. -/
def NoGoal (status : NodeStatus) : Prop := status.isGoal = false

/-- To be in progress is not to be at a goal. -/
theorem noGoal_inProgress (g : Goal) : NoGoal g.inProgress := g.isGoal_inProgress

theorem noGoal_failed : NoGoal .failed := rfl

/-- The node is that of no element, so that only its own evaluations give it statuses. -/
def Own (n : NodeId) (s : State ω) : Prop := ∀ e, s.plan.nodeOf? e ≠ some n

theorem Own.open (h : Own n s) : Open n own s := fun e he => absurd he (h e)

/-- What an evaluation comes to that finds the claim on the body of its node not made. -/
structure Unclaimed (n : NodeId) (s : State ω) (progress : Progress) (s' : State ω) : Prop where
  within : Within n NoGoal True s s'
  no_check : ∀ c, progress ≠ .paused (.check c)
  claimed : n ∈ s'.started → ∃ c, progress = .paused (.body c)

/-- A failure before the claim leaves the body unclaimed. -/
theorem unclaimed_fail {s₁ : State ω} (hs : Open node.id NoGoal s)
    (h : Within node.id NoGoal False s s₁) (hfree : node.id ∉ s.started) (fault : Fault) :
    Unclaimed node.id s ((fail node fault).run s₁).1 ((fail node fault).run s₁).2 := by
  have hself : Within node.id NoGoal False s₁ ((fail node fault).run s₁).2 :=
    within_fail (fun _ => noGoal_failed) (h.open hs) fault
  have hfail := h.trans hself
  obtain ⟨log, hrun⟩ := run_fail node (s := s₁) fault rfl
  refine ⟨hfail.mono (fun _ h => h) False.elim, fun c => ?_, fun hmem => ?_⟩
  · rw [hrun]
    exact nofun
  · exact absurd ((hfail.started hmem).resolve_right id) hfree

/-- The first segment, while the claim on the body has not been made. -/
theorem begin_unclaimed (ask : Condition → ω → Readiness × ω) (hids : Numbered s)
    (hnode : s.plan.nodes[n]? = some node)
    {body : CallbackId} (hbody : node.body? = some body) (hown : Own n s)
    (hfree : n ∉ s.started) (hdry : s.dryRun = false) :
    Unclaimed n s ((begin ask n).run s).1 ((begin ask n).run s).2 := by
  rcases run_begin_cases ask hids n with ⟨r, hrun, -⟩ | ⟨node', hnode', rfl, -, hrun⟩
  · rw [hrun]
    exact ⟨.refl s, fun _ => nofun, fun hmem => absurd hmem hfree⟩
  obtain rfl : node = node' := Option.some.inj (hnode.symm.trans hnode')
  rw [hrun]
  have hopen : Open node.id NoGoal s := hown.open
  obtain ⟨s₁, hwithin, ⟨f, hstart⟩ | hstart | hstart⟩ :=
    run_start_cases ask (noGoal_inProgress node.goal) hopen
  · rw [conclude_of_error hstart]
    exact unclaimed_fail hopen hwithin hfree f
  · rw [conclude_of_ok hstart]
    refine ⟨hwithin.mono (fun _ h => h) False.elim, fun _ => nofun, fun hmem => ?_⟩
    exact absurd ((hwithin.started hmem).resolve_right id) hfree
  · -- The body has not been claimed so far, and is claimed now.
    have hfree₁ : node.id ∉ s₁.started := fun hmem =>
      hfree ((hwithin.started hmem).resolve_right id)
    obtain ⟨log, hclaim⟩ :=
      ((run_startBody_cases node body s₁).resolve_left fun h => hfree₁ h.1).2
    have hgo : (if s₁.dryRun then afterBody node else pure (some (.body body))) =
        (pure (some (.body body)) : Eval ω (Option Pause)) :=
      if_neg (by rw [hwithin.dryRun, hdry]; exact nofun)
    rw [hgo] at hclaim
    have hend : (start ask node).run.run s =
        (.ok (some (.body body)), { s₁ with started := node.id :: s₁.started, log }) := by
      rw [hstart]
      unfold enter
      rw [hbody]
      exact hclaim
    rw [conclude_of_ok hend]
    have hclaims : Keeps (ω := ω) node.id NoGoal True
        (modify fun st => { st with started := node.id :: st.started } : Eval ω PUnit) :=
      (alters_claim fun _ => trivial).keeps
    have hmore := hclaims s₁ (hwithin.open hopen)
    refine ⟨((hwithin.mono (fun _ h => h) False.elim).trans hmore).trans ?_, nofun,
      fun _ => ⟨body, rfl⟩⟩
    exact .of_same rfl rfl rfl rfl rfl rfl rfl

/-- A node that has failed is not evaluated, and none is after the deadline. -/
theorem begin_idle (ask : Condition → ω → Readiness × ω) (hids : Numbered s)
    (h : s.tracker.status n = .failed ∨ s.stopped = true) :
    ∃ r, (begin ask n).run s = (.finished r, s) := by
  rcases run_begin_cases ask hids n with ⟨r, hidle, -⟩ | ⟨node, -, rfl, hstop, hrun⟩
  · exact ⟨r, hidle⟩
  · rcases h with hfailed | hstop'
    · have hstart : (start ask node).run.run s = (.ok none, s) := by
        unfold start
        rw [run_get_bind, hfailed]
        rfl
      exact ⟨.ok (), hrun.trans (conclude_of_ok hstart)⟩
    · rw [hstop] at hstop'
      cases hstop'

/-- A node that fails has failed afterwards, unless the deadline has passed. -/
theorem status_fail (hknown : s.tracker.knows node.id) (hown : Own node.id s) (fault : Fault) :
    s.stopped = true ∨ ((fail node fault).run s).2.tracker.status node.id = .failed := by
  cases hstop : s.stopped with
  | true => exact .inl rfl
  | false =>
    refine .inr ?_
    obtain ⟨log, hrun⟩ := run_fail node (s := s) fault rfl
    rw [hrun]
    -- The failure is recorded first; whoever is told of it is another node.
    have htransition := run_transition node.id .failed (some fault) none s
    rw [hstop] at htransition
    simp only [Bool.false_eq_true, if_false] at htransition
    have hchanged : (s.tracker.set node.id .failed (some fault) none).1 = true := by
      rw [Tracker.set_fst hknown]
      simp
    rw [hchanged] at htransition
    have hstatus : (s.turned node.id .failed (some fault) none).tracker.status node.id =
        .failed := by
      have hset := Tracker.status_set hknown .failed (some fault) none node.id
      rw [if_pos rfl] at hset
      exact hset
    have hrest : Keeps (ω := ω) node.id (fun _ => False) False (do
        reflect .failed (some fault) (← nodeOf node.id).actsFor
        signalDependents node.id .failed) :=
      Alters.keeps <| .nodeOf_bind fun _ =>
        .bind (alters_reflect rfl _ _) fun _ => alters_signalDependents _ _
    have hkept := hrest (s.turned node.id .failed (some fault) none) hown.open
    show ((update node.id .failed (some fault)).run.run s).2.tracker.status node.id = .failed
    unfold update
    rw [run_bind_ok htransition]
    exact (hkept.status.resolve_right id).trans hstatus

/-- A body that ends with a failure leaves its node failed. -/
theorem resumeBody_failed (hnode : s.plan.nodes[node.id]? = some node)
    (hknown : s.tracker.knows node.id) (hown : Own node.id s) (f : Failure) :
    Within node.id NoGoal False s ((resumeBody node.id (.reply (.error f))).run s).2 ∧
      (∀ pause, ((resumeBody node.id (.reply (.error f))).run s).1 ≠ .paused pause) ∧
      (s.stopped = true ∨
        ((resumeBody node.id (.reply (.error f))).run s).2.tracker.status node.id = .failed) := by
  have hresume := run_resume_reply bodyEnded hnode (.error f)
  obtain ⟨fault, log, hended, -⟩ := run_bodyEnded_error node f s
  rw [conclude_of_error hended] at hresume
  unfold resumeBody
  rw [hresume]
  -- the failure is written to the log first, which is of no account to the frame
  have hlogged : Within node.id NoGoal False s { s with log } :=
    .of_same rfl rfl rfl rfl rfl rfl rfl
  have hown' : Own node.id { s with log } := hown
  have hfail : Within node.id NoGoal False { s with log }
      ((fail node fault).run { s with log }).2 :=
    within_fail (fun _ => noGoal_failed) hown'.open fault
  refine ⟨hlogged.trans hfail, fun pause => ?_,
    status_fail (s := { s with log }) hknown hown' fault⟩
  obtain ⟨log', hrun⟩ := run_fail node (s := { s with log }) fault rfl
  rw [hrun]
  exact nofun

end Rollout.Engine
