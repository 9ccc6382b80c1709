import Rollout.Proofs.Engine.Faults
import Rollout.Proofs.Engine.Narrative
import Rollout.Proofs.Engine.Tasks
import Rollout.Proofs.Order.Elements
import Rollout.Proofs.Progress.Resting

/-!
# No defect turns up

A run ends with an error only when an evaluation has met a defect.  If every edge of a relation
starts at the element that has the relation, and no callback breaks down or raises a defect, then no
evaluation ever does (`no_defect_turns_up`).  What this rests on is that an element is not started
before its leader is final (`Mirrors`).
-/

namespace Rollout

/-- Every edge of the relation of an element starts at the element itself. -/
def Deployment.OwnEdges (d : Deployment) : Prop :=
  ∀ e ∈ d.mentioned, ∀ g r, e.relation g = some r → r.StartsAt e.id

namespace Plan

/-- An element whose leader is not final has not been started itself. -/
def Mirrors (p : Plan) (status : NodeId → NodeStatus) : Prop :=
  ∀ f l, p.leader? f = some l → (status l).isFinal = false → (status f).isWaiting = true

/-- Whoever leads the node is final. -/
def Relieved (p : Plan) (status : NodeId → NodeStatus) (n : NodeId) : Prop :=
  ∀ l, p.leader? n = some l → (status l).isFinal = true

variable {d : Deployment} {p : Plan} {n : NodeId} {status : NodeId → NodeStatus}

/-- In the plan of a deployment relations name elements of the plan only. -/
theorem Built.grounded (h : p.Built d) (hown : d.OwnEdges) : p.attach.Grounded where
  targets hn _ hr he := by
    obtain ⟨el, hel, hr'⟩ := h.element_of_relation? hn hr
    obtain ⟨x, -, hx, -⟩ := h.linked hn hel hr' (Relation.mem_handles.2 he)
    exact ⟨x, hx⟩
  sources hn hr he := by
    obtain ⟨el, hel, hr'⟩ := h.element_of_relation? hn hr
    obtain rfl := hown el (h.mentioned hn hel) _ _ hr' _ he
    exact ⟨_, nodeOf?_self h.sound hn hel⟩

/-- A node whose dependencies are met has a leader that is done, if it has one. -/
theorem Met.relieved (hp : p.Sound) (h : p.Met status n) : p.Relieved status n :=
  fun _ hl => (h.hard _ (hp.edge_leader hl)).isFinal

/-- An element that is led depends on its leader alone, so if anything has failed that it depends on
then it is the leader. -/
theorem Built.relieved_of_hard (h : p.Built d)
    (hhard : (∃ b, p.graph.edge? n b = some .hard ∧ status b = .failed) ∨
      ∀ b, p.graph.edge? n b = some .hard → p.AtGoal status b) : p.Relieved status n := by
  intro l hl
  rcases hhard with ⟨b, hb, hfailed⟩ | hgoal
  · obtain rfl := h.edge_of_led hl hb
    rw [hfailed]
    rfl
  · exact (hgoal l (h.sound.edge_leader hl)).isFinal

end Plan

namespace Engine

open Rollout.Plan

variable {ω α : Type} {d : Deployment} {p : Plan} {s s' : State ω} {q q' : Pass ω} {n : NodeId}
  {node : Node} {ask : Condition → ω → Readiness × ω} {concurrency : Option Nat} {m : Move ω}

/-! ## Elements and their leaders -/

/-- What reflects a status that is not final waits. -/
theorem isWaiting_of_reflected? {status status' : NodeStatus}
    (h : reflected? status = some status') (hnot : status.isFinal = false) :
    status'.isWaiting = true := by
  cases status <;> cases h <;> first | rfl | cases hnot

/-- A turn of a node that has been relieved keeps followers waiting for leaders that go on. -/
theorem Turn.mirrors (hp : p.Sound) {status : NodeStatus} (h : Turn p n status s s')
    (hn : p.Relieved (statusAfter s.trace) n) (hm : p.Mirrors (statusAfter s.trace)) :
    p.Mirrors (statusAfter s'.trace) := by
  intro f l hl hnot
  have hbefore : (statusAfter s.trace l).isFinal = false := by
    by_contra hfinal
    rw [Bool.not_eq_false] at hfinal
    rw [h.final hfinal, hfinal] at hnot
    cases hnot
  -- a node whose leader goes on is not relieved, so it is not the one at work
  have hfn : f ≠ n := by
    rintro rfl
    rw [hn l hl] at hbefore
    cases hbefore
  rcases h.others hfn with hsame | ⟨hf, -, hreflected⟩
  · rw [hsame]
    exact hm f l hl hbefore
  · -- It reflects the work of its leader, which is the node at work.
    obtain rfl : n = l := Option.some.inj ((hp.mem_followersOf.1 hf).symm.trans hl)
    rw [h.own] at hnot
    exact isWaiting_of_reflected? hreflected hnot

/-- Elements stay behind their leaders, if the leader of the node at work is final whenever the node
takes a status. -/
theorem Course.mirrors {own : NodeStatus → Prop} (hp : p.Sound) (h : Course p n own s s')
    (hn : ∀ status, own status → p.Relieved (statusAfter s.trace) n)
    (hm : p.Mirrors (statusAfter s.trace)) : p.Mirrors (statusAfter s'.trace) := by
  induction h with
  | quiet htrace => rwa [htrace]
  | turn hown h => exact h.mirrors hp (hn _ hown) hm
  | trans h _ ih ih' =>
    refine ih' (fun status hown l hl => ?_) (ih hn hm)
    have hfinal := hn status hown l hl
    rwa [h.final hfinal]

/-! ## One segment -/

/-- A callback has not broken down, and has raised no defect. -/
def Answer.Sound : Answer α → Prop
  | .panic => False
  | .reply r => ∀ f, r = .error f → f.toFault.isDefect = false

/-- The segment has met no defect and leaves elements behind their leaders. -/
structure Harmless (p : Plan) (s : State ω) (progress : Progress) (s' : State ω) : Prop where
  mirrors : p.Mirrors (statusAfter s'.trace)
  fine : ∀ r, progress = .finished r → r = .ok ()

/-- A failure that is no defect ends its evaluation without an error. -/
theorem fine_failing {fault : Fault} (h : fault.isDefect = false) :
    ∀ r, failing fault = .finished r → r = .ok () := by
  intro r hr
  rw [failing, h] at hr
  exact (Progress.finished.inj hr).symm

/-- What follows on a body ends without an error. -/
theorem Past.fine {progress : Progress} (h : Past p node s progress s') :
    ∀ r, progress = .finished r → r = .ok () := by
  cases h with
  | late => exact fun r hr => (Progress.finished.inj hr).symm
  | asks => exact nofun
  | done => exact fun r hr => (Progress.finished.inj hr).symm

theorem Entered.fine {progress : Progress} (h : Entered p node s progress s') :
    ∀ r, progress = .finished r → r = .ok () := by
  cases h with
  | starts => exact nofun
  | skips _ h => exact h.fine
  | pretends _ h => exact h.fine

theorem Ended.fine {r : Except Failure Unit} {progress : Progress}
    (h : Ended p node s r progress s') (hr : ∀ f, r = .error f → f.toFault.isDefect = false) :
    ∀ r, progress = .finished r → r = .ok () := by
  cases h with
  | ok hpast => exact hpast.fine
  | error hdefect => exact fine_failing (hdefect.trans (hr _ rfl))

theorem Checked.fine {r : Except Failure Readiness} {progress : Progress}
    (h : Checked p node s r progress s') (hr : ∀ f, r = .error f → f.toFault.isDefect = false) :
    ∀ r, progress = .finished r → r = .ok () := by
  cases h with
  | waits => exact fun r hr => (Progress.finished.inj hr).symm
  | late => exact fun r hr => (Progress.finished.inj hr).symm
  | done => exact fun r hr => (Progress.finished.inj hr).symm
  | error => exact fine_failing (hr _ rfl)

/-- What makes a node fail at the beginning of its evaluation. -/
theorem foiled_of_run (h : p.Built d) (hown : d.OwnEdges) (hs : Consistent p.attach s)
    (hmirrors : p.attach.Mirrors (statusAfter s.trace)) (hnode : p.nodes[node.id]? = some node)
    (hnot : (statusAfter s.trace node.id).isFinal = false) {world : ω} {fault : Fault}
    (hrun : (dependenciesMet ask node).run.run s = (.error fault, { s with world })) :
    fault = .dependencyFailed ∧ p.attach.Foiled (statusAfter s.trace) node.id := by
  obtain ⟨r, world', hrun', hblames⟩ := blames_dependenciesMet ask (runnable_attach h)
    (h.grounded hown) hs hnode hnot fun f hf => hmirrors f _ (h.sound.mem_followersOf.1 hf) hnot
  obtain ⟨rfl, -⟩ := Prod.mk.inj (hrun.symm.trans hrun')
  exact hblames fault rfl

section Segments

variable (h : p.Built d) (hs : Consistent p.attach s)
  (hmirrors : p.attach.Mirrors (statusAfter s.trace))

include h hs hmirrors

/-- The first segment ends without an error: all that can go wrong is that a dependency has failed.
-/
theorem Begun.harmless (hown : d.OwnEdges) (hnode : p.nodes[node.id]? = some node)
    {progress : Progress} (hbegun : Begun ask p.attach node s progress s') :
    Harmless p.attach s progress s' := by
  have hsound := (runnable_attach h).toSound
  have hfoiled : ∀ {world fault}, (statusAfter s.trace node.id).isFinal = false →
      (dependenciesMet ask node).run.run s = (.error fault, { s with world }) →
      fault = .dependencyFailed ∧ p.attach.Foiled (statusAfter s.trace) node.id :=
    fun hnot hrun => foiled_of_run h hown hs hmirrors hnode hnot hrun
  cases hbegun with
  | idle => exact ⟨hmirrors, fun r hr => (Progress.finished.inj hr).symm⟩
  | withheld => exact ⟨hmirrors, fun r hr => (Progress.finished.inj hr).symm⟩
  | failed hnot hrun hfailed =>
    obtain ⟨rfl, hfoiled⟩ := hfoiled hnot hrun
    refine ⟨?_, fine_failing rfl⟩
    have hcourse : Course p.attach node.id (fun _ => True) _ s' := hfailed.course trivial
    exact hcourse.mirrors hsound (fun _ _ => h.relieved_of_hard (hfoiled.imp_right (·.1))) hmirrors
  | @entered world s₁ _ _ _ hmet hturn _ hentered =>
    have hcourse : Course p.attach node.id (fun _ => True) s s' :=
      ((Course.turn trivial hturn).trans (hentered.course fun _ => trivial)).after rfl
    exact ⟨hcourse.mirrors hsound (fun _ _ => hmet.relieved hsound) hmirrors, hentered.fine⟩

/-- To begin an evaluation is harmless. -/
theorem begin_harmless (hown : d.OwnEdges) (hn : n < p.nodes.length) :
    Harmless p.attach s ((begin ask n).run s).1 ((begin ask n).run s).2 := by
  have hp := runnable_attach h
  rcases run_begin_cases ask (hs.numbered hp.toSound) n with
    ⟨r, hrun, ⟨-, rfl⟩ | ⟨hnone, -⟩⟩ | ⟨node, hnode, rfl, hstop, hrun⟩
  · rw [hrun]
    exact ⟨hmirrors, fun r hr => (Progress.finished.inj hr).symm⟩
  · rw [hs.nodes_eq] at hnone
    exact absurd hn (Nat.not_lt.2 (List.getElem?_eq_none_iff.1 hnone))
  · rw [hs.nodes_eq] at hnode
    rw [hrun]
    exact (begun_start ask hp hs hstop hnode).harmless h hs hmirrors hown hnode

omit hmirrors in
/-- The leader of a node that is in progress is at its goal. -/
theorem relieved_of_inProgress (hprogress : InProgress p.attach (statusAfter s.trace) n) :
    p.attach.Relieved (statusAfter s.trace) n :=
  have hsound := (runnable_attach h).toSound
  (hs.lawful.met_of_started hsound hprogress.started).relieved hsound

/-- To go on after a body is harmless if the answer is sound. -/
theorem resumeBody_harmless {answer : Answer Unit}
    (hprogress : InProgress p.attach (statusAfter s.trace) n) (hanswer : answer.Sound) :
    Harmless p.attach s ((resumeBody n answer).run s).1 ((resumeBody n answer).run s).2 := by
  have hp := runnable_attach h
  have hrelieved := relieved_of_inProgress h hs hprogress
  obtain ⟨node, hnode, hn⟩ := hprogress
  obtain rfl := hp.id_eq hnode
  cases answer with
  | panic => exact hanswer.elim
  | reply r =>
    unfold resumeBody
    rw [run_resume_reply bodyEnded (by rw [hs.nodes_eq]; exact hnode)]
    have hended := ended_bodyEnded hp hs hnode hn r
    have hcourse : Course p.attach node.id (fun _ => True) s _ :=
      hended.course (fun _ _ => trivial) fun _ _ => trivial
    exact ⟨hcourse.mirrors hp.toSound (fun _ _ => hrelieved) hmirrors, hended.fine hanswer⟩

/-- To go on after a completion check is harmless if the answer is sound. -/
theorem resumeCheck_harmless {answer : Answer Readiness}
    (hprogress : InProgress p.attach (statusAfter s.trace) n) (hanswer : answer.Sound) :
    Harmless p.attach s ((resumeCheck n answer).run s).1 ((resumeCheck n answer).run s).2 := by
  have hp := runnable_attach h
  have hrelieved := relieved_of_inProgress h hs hprogress
  obtain ⟨node, hnode, hn⟩ := hprogress
  obtain rfl := hp.id_eq hnode
  cases answer with
  | panic => exact hanswer.elim
  | reply r =>
    unfold resumeCheck
    rw [run_resume_reply checkAnswered (by rw [hs.nodes_eq]; exact hnode)]
    have hchecked := checked_checkAnswered hp hs hnode hn r
    have hcourse : Course p.attach node.id (fun _ => True) s _ :=
      hchecked.course (fun _ _ => trivial) fun _ => trivial
    exact ⟨hcourse.mirrors hp.toSound (fun _ _ => hrelieved) hmirrors, hchecked.fine hanswer⟩

end Segments

/-! ## All runs -/

/-- If the move hands over an answer then that is sound. -/
def Move.Sound : Move ω → Prop
  | .answerBody _ answer => answer.Sound
  | .answerCheck _ answer => answer.Sound
  | _ => True

/-- If an answer has been heard then that is sound. -/
def Notice.Sound : Notice → Prop
  | .began _ => True
  | .ended _ answer => answer.Sound
  | .checked _ answer => answer.Sound

/-- A sound move brings sound notices. -/
theorem Move.Sound.heard (hm : m.Sound) : ∀ notice ∈ q.heard m, notice.Sound := by
  intro notice hnotice
  cases m with
  | answerBody t answer =>
    obtain ⟨n, -, rfl⟩ := List.mem_map.1 hnotice
    exact hm
  | answerCheck t answer =>
    obtain ⟨n, -, rfl⟩ := List.mem_map.1 hnotice
    exact hm
  | _ => cases hnotice

/-- No defect has turned up, and none is about to. -/
structure Intact (p : Plan) (q : Pass ω) : Prop where
  mirrors : p.Mirrors (statusAfter q.shared.trace)
  queued : ∀ n ∈ q.shared.queue, n < p.nodes.length
  tasked : ∀ n ∈ q.nodes, n < p.nodes.length
  fine : ∀ r ∈ q.results, r = .ok ()

/-- A harmless evaluation keeps a pass intact. -/
theorem Intact.evaluates {k : Task} {segment : StateM (State ω) Progress}
    (hq : Intact p q) (htasked : ∀ n ∈ q'.nodes, n < p.nodes.length)
    (hrun : Evaluates q k segment q')
    (hadvance : Advance p k.node q.shared (segment.run q.shared).1 (segment.run q.shared).2)
    (hharmless : Harmless p q.shared (segment.run q.shared).1 (segment.run q.shared).2) :
    Intact p q' where
  mirrors := hrun.shared ▸ hharmless.mirrors
  queued n hn := by
    rw [hrun.shared] at hn
    exact (hadvance.moved.queued hn).elim (hq.queued n) id
  tasked := htasked
  fine r hr := by
    rw [hrun.results] at hr
    cases hprogress : (segment.run q.shared).1 with
    | paused pause =>
      rw [hprogress] at hr
      exact hq.fine r hr
    | finished result =>
      rw [hprogress] at hr
      rcases List.mem_append.1 hr with hr | hr
      · exact hq.fine r hr
      · rw [List.mem_singleton.1 hr]
        -- the new result is that of the segment
        exact hharmless.fine result hprogress

/-- Every step that hears sound notices keeps a pass intact. -/
theorem Intact.step (h : p.Built d) (hown : d.OwnEdges) (hsteady : Steady p.attach q)
    (hq : Intact p.attach q) (hheard : ∀ notice ∈ q.heard m, notice.Sound)
    (htasked : ∀ n ∈ q'.nodes, n < p.nodes.length) (hstep : Stepped ask q m q') :
    Intact p.attach q' := by
  have hp := runnable_attach h
  have hs := hsteady.consistent
  -- Whoever has paused is being worked on.
  have hpaused : ∀ {t n pause}, q.pausedAt? t = some (n, pause) →
      InProgress p.attach (statusAfter q.shared.trace) n ∧
        ∀ c, pause = .check c → HasCheck p.attach n := by
    intro t n pause ht
    obtain ⟨k, hk, rfl, hphase⟩ := Pass.pausedAt?_eq_some.1 ht
    exact hsteady.paused hk hphase
  cases hstep with
  | quiet hshared _ hresults _ _ =>
    refine ⟨?_, fun n hn => ?_, htasked, fun r hr => hq.fine r (hresults hr)⟩
    · unfold State.trace
      rw [hshared.transitions]
      exact hq.mirrors
    · exact (hshared.queued hn).elim (hq.queued n) fun hlive => (hs.isLive_iff.1 hlive).1
  | began hrun _ =>
    exact hq.evaluates htasked hrun (begin_advance ask hp hs _)
      (begin_harmless h hs hq.mirrors hown (hq.tasked _ (Pass.mem_nodes hrun.task)))
  | @ended k c _ answer hrun hwaits =>
    obtain ⟨hprogress, -⟩ := hpaused hwaits
    have hbody : q.bodyOf? k.id = some k.node := Pass.bodyOf?_eq_some.2 ⟨c, hwaits⟩
    have hsound : answer.Sound := hheard (.ended k.node answer) (by simp [Pass.heard, hbody])
    exact hq.evaluates htasked hrun (resumeBody_advance hp hs hprogress answer)
      (resumeBody_harmless h hs hq.mirrors hprogress hsound)
  | @checked k c _ answer hrun hwaits =>
    obtain ⟨hprogress, hcheck⟩ := hpaused hwaits
    have hasked : q.checkOf? k.id = some k.node := Pass.checkOf?_eq_some.2 ⟨c, hwaits⟩
    have hsound : answer.Sound := hheard (.checked k.node answer) (by simp [Pass.heard, hasked])
    exact hq.evaluates htasked hrun (resumeCheck_advance hp hs hprogress (hcheck _ rfl) answer)
      (resumeCheck_harmless h hs hq.mirrors hprogress hsound)

/-- Every move that brings sound notices keeps a pass intact. -/
theorem Intact.after (h : p.Built d) (hown : d.OwnEdges) (hsteady : Steady p.attach q)
    (hq : Intact p.attach q) (hheard : ∀ notice ∈ q.heard m, notice.Sound)
    (hallowed : q.allows m = true) : Intact p.attach (q.after ask concurrency m) := by
  have hstep : Stepped ask q m (q.after ask concurrency m) := stepped hsteady.locks hallowed
  refine hq.step h hown hsteady hheard (fun n hn => ?_) hstep
  have hwas := List.mem_append.1 (Pass.nodes_after ask concurrency q m hn)
  exact hwas.elim (hq.tasked n) (hq.queued n)

/-- The first pass is intact. -/
theorem intact_first (h : p.Built d) (concurrency : Option Nat) (dryRun : Bool) (world : ω)
    (log : Array Log.Event) : Intact p.attach (.first p concurrency dryRun world log) where
  mirrors _ _ _ _ := rfl
  queued _ hn := h.sound.contains_iff.1 (Digraph.mem_leaves.1 hn).1
  tasked := nofun
  fine := nofun

/-- No evaluation ever ends with an error, whatever the order in which evaluations go on and
callbacks answer, and whenever the deadline passes. -/
theorem no_defect_turns_up (hplan : d.plan = .ok p) (hown : d.OwnEdges) {dryRun : Bool} {world : ω}
    {log : Array Log.Event} {ms : List (Move ω)} (hsound : ∀ m ∈ ms, m.Sound)
    (hplay : play ask concurrency ms (.first p concurrency dryRun world log) = some q) :
    ∀ r ∈ q.results, r = .ok () := by
  have hbuilt := built_of_plan hplan
  have hintact : (∀ m ∈ ms, m.Sound) → Intact p.attach q := by
    refine play_induction (motive := fun ms q => (∀ m ∈ ms, m.Sound) → Intact p.attach q)
      (fun _ => intact_first hbuilt concurrency dryRun world log) ?_ hplay
    intro ms q m hplay ih hallowed hsound
    have hsteady := (reachable_of_play .start hplay).steady_of_plan hplan
    have hm : m.Sound := hsound m (by simp)
    exact (ih fun m' hm' => hsound m' (List.mem_append_left _ hm')).after hbuilt hown hsteady.2
      hm.heard hallowed
  exact (hintact hsound).fine

/-- There is one element with a relation. -/
theorem relation_installed {e : Element} (he : e ∈ installed.mentioned) {g : Goal} {r : Relation}
    (hr : e.relation g = some r) : e.id = "top" ∧ r = .edge "top" "base" := by
  simp only [installed, Deployment.mentioned, Deployment.present, Deployment.allActions,
    List.flatten_nil, List.append_nil, List.flatMap_cons, List.flatMap_nil, List.map_cons,
    List.map_nil, List.mem_append, List.mem_cons, List.not_mem_nil, or_false] at he
  rcases he with (rfl | rfl) | rfl
  · cases hr
  · exact ⟨rfl, (Option.some.inj hr).symm⟩
  · exact ⟨rfl, (Option.some.inj hr).symm⟩

theorem ownEdges_installed : installed.OwnEdges := by
  intro e he g r hr
  obtain ⟨hid, rfl⟩ := relation_installed he hr
  intro s hs
  simpa [Relation.inverse, Relation.targets, hid] using hs

/-- The body of the action fails, and the action and its element with it, but the run goes on. -/
theorem installed_fails_without_defect : ∃ q, replay installed true [.spawn, .resume 0, .collect,
      .spawn, .resume 1, .answerBody 1 (.reply (.error (.text "broken" none)))] = some q ∧
    q.shared.tracker.status 2 = .failed ∧ q.shared.tracker.status 1 = .failed ∧
    ∀ r ∈ q.results, r = .ok () := by
  obtain ⟨q, hq, hwork, helement⟩ : ∃ q, replay installed true [.spawn, .resume 0, .collect,
      .spawn, .resume 1, .answerBody 1 (.reply (.error (.text "broken" none)))] = some q ∧
      q.shared.tracker.status 2 = .failed ∧ q.shared.tracker.status 1 = .failed :=
    ⟨_, rfl, rfl, rfl⟩
  have hplan : installed.plan = .ok (planned installed) := rfl
  refine ⟨q, hq, hwork, helement, no_defect_turns_up hplan ownEdges_installed (fun m hm => ?_) hq⟩
  simp only [List.mem_cons, List.not_mem_nil, or_false] at hm
  rcases hm with rfl | rfl | rfl | rfl | rfl | rfl
  case inr.inr.inr.inr.inr =>
    intro f hf
    rw [← Except.error.inj hf]
    rfl
  all_goals trivial

end Engine

end Rollout
