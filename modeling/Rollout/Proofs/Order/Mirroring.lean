import Rollout.Proofs.Plan.Settling
import Rollout.Proofs.Progress.Defects

/-!
# Elements mirror the work on them

An element that an action changes has no progress of its own before the action is final: it waits
while the action waits, is shown as being worked on while the action is under way, and fails with
it.  `InStep` says this of one element and its leader.  A node that takes a status stays in step
with its leader and with the elements it leads (`Turn.inStep`), and every segment of an evaluation
is made of such turns.
-/

namespace Rollout

/-- The status of an element fits the status of the work on it. -/
structure NodeStatus.InStep (work element : NodeStatus) : Prop where
  waits : work = .waiting → element = .waiting
  reflects : ∀ {s}, Engine.reflected? work = some s → element = s
  begun : work.isGoal = true → element ≠ .waiting

namespace Plan

/-- Every element that is led is in step with its leader. -/
def InStep (p : Plan) (status : NodeId → NodeStatus) : Prop :=
  ∀ f l, p.leader? f = some l → (status l).InStep (status f)

/-- The statuses of the elements of a plan mirror those of the work on them. -/
structure Mirrored (p : Plan) (status : NodeId → NodeStatus) : Prop where
  waiting : ∀ {f w}, p.leader? f = some w → status w = .waiting → status f = .waiting
  deploying : ∀ {f w}, p.leader? f = some w → status w = .deploying → status f = .proxyDeploying
  destroying : ∀ {f w}, p.leader? f = some w → status w = .destroying →
    status f = .proxyDestroying
  failed : ∀ {f w}, p.leader? f = some w → status w = .failed → status f = .failed
  atGoal : ∀ {f w}, p.leader? f = some w → p.AtGoal status w → status f ≠ .waiting
  free : ∀ {n}, n < p.nodes.length → p.leader? n = none → (status n).isProxy = false

end Plan

namespace Engine

open Rollout.Plan

variable {ω : Type} {d : Deployment} {p : Plan} {s s' : State ω} {q q' : Pass ω} {n : NodeId}
  {node : Node} {status : NodeStatus} {ask : Condition → ω → Readiness × ω}
  {concurrency : Option Nat} {dryRun : Bool} {world : ω} {log : Array Log.Event}
  {progress : Progress}

/-! ## Statuses -/

/-- A leader in progress is reflected by a proxy status. -/
theorem reflected?_inProgress (g : Goal) :
    ∃ s, reflected? g.inProgress = some s ∧ s.isProxy = true := by
  cases g
  · exact ⟨_, rfl, rfl⟩
  · exact ⟨_, rfl, rfl⟩

/-- A leader at its goal is not reflected. -/
theorem reflected?_of_isGoal (h : status.isGoal = true) : reflected? status = none := by
  cases status <;> first | rfl | cases h

/-- Once the work is final, an element may do anything but go back to waiting; and if the work has
failed then so has the element. -/
theorem inStep_of_final {work element : NodeStatus} (hwork : work.isFinal = true)
    (hnot : element ≠ .waiting) (hfailed : work = .failed → element = .failed) :
    work.InStep element where
  waits h := by rw [h] at hwork; cases hwork
  reflects h := by
    cases work <;> cases hwork <;> cases h
    exact hfailed rfl
  begun _ := hnot

/-- Only elements that are led are shown as being worked on. -/
theorem Lawful.not_isProxy {trace : List (NodeId × NodeStatus)} (h : Lawful p trace)
    (hn : p.leader? n = none) : (statusAfter trace n).isProxy = false := by
  induction h with
  | nil => rfl
  | @snoc trace m s h hs ih =>
    by_cases hm : m = n
    · subst hm
      rw [statusAfter_snoc, if_pos rfl]
      obtain ⟨node, -, hcause⟩ := hs.cause
      -- of the three causes of a status only the second one brings a proxy status, and it takes a
      -- leader
      rcases hcause with rfl | ⟨-, l, hl, -⟩ | ⟨rfl | rfl, -⟩
      · rfl
      · rw [hn] at hl
        cases hl
      · cases node.goal <;> rfl
      · cases node.goal <;> rfl
    · rw [statusAfter_snoc, if_neg hm]
      exact ih

/-- An element is not final before the work on it is. -/
theorem Lawful.not_final_of_inStep {trace : List (NodeId × NodeStatus)} (h : Lawful p trace)
    (hfree : p.leader? n = none) (hnot : (statusAfter trace n).isFinal = false)
    {element : NodeStatus} (hstep : (statusAfter trace n).InStep element) :
    element.isFinal = false := by
  rcases h.status_cases n with hs | hs | hs | ⟨node, -, hs | hs⟩
  · rw [hstep.waits hs]
    rfl
  · rw [hs] at hnot
    cases hnot
  · rw [h.not_isProxy hfree] at hs
    cases hs
  · obtain ⟨s, hreflected, hproxy⟩ := reflected?_inProgress node.goal
    rw [hstep.reflects (hs ▸ hreflected)]
    exact NodeStatus.not_final_of_active (by simp [NodeStatus.isWaiting, hproxy])
  · rw [hs, Goal.isFinal_status] at hnot
    cases hnot

/-! ## One turn -/

/-- A node that is not final may take the status: it is in step with whoever leads the node, and
the node comes to a goal only from progress of its own. -/
structure Fits (p : Plan) (before : NodeId → NodeStatus) (n : NodeId) (status : NodeStatus) :
    Prop where
  not_final : (before n).isFinal = false
  not_waiting : status ≠ .waiting
  led : ∀ l, p.leader? n = some l → (before l).InStep status
  worked : status.isGoal = true → ∃ g : Goal, before n = g.inProgress

namespace Fits

variable {before : NodeId → NodeStatus}

/-- A failure fits a node whose leader has done with it. -/
theorem failed (hnot : (before n).isFinal = false) (hn : p.Relieved before n) :
    Fits p before n .failed where
  not_final := hnot
  not_waiting := nofun
  led l hl := inStep_of_final (hn l hl) nofun fun _ => rfl
  worked := nofun

/-- A node whose dependencies are met may take a status of its own. -/
theorem of_met (hp : p.Sound) (hnot : (before n).isFinal = false) (hmet : p.Met before n)
    (hwaiting : status ≠ .waiting)
    (hworked : status.isGoal = true → ∃ g : Goal, before n = g.inProgress) :
    Fits p before n status where
  not_final := hnot
  not_waiting := hwaiting
  led l hl := by
    have hgoal := hmet.hard l (hp.edge_leader hl)
    refine inStep_of_final hgoal.isFinal hwaiting fun hfailed => ?_
    have hisGoal := hgoal.isGoal
    rw [hfailed] at hisGoal
    cases hisGoal
  worked := hworked

/-- A node whose dependencies are met may be put in progress: it has no leader that is still to
come. -/
theorem inProgress (hp : p.Sound) (hnot : (before n).isFinal = false) (hmet : p.Met before n)
    (g : Goal) : Fits p before n g.inProgress := by
  refine .of_met hp hnot hmet (by cases g <;> exact nofun) fun hgoal => ?_
  rw [Goal.isGoal_inProgress] at hgoal
  cases hgoal

/-- A node in progress whose dependencies are met may come to its goal. -/
theorem goal (hp : p.Sound) {g : Goal} (hn : before n = g.inProgress) (hmet : p.Met before n) :
    Fits p before n g.status := by
  have hnot : (before n).isFinal = false := by rw [hn, Goal.isFinal_inProgress]
  exact .of_met hp hnot hmet (by cases g <;> exact nofun) fun _ => ⟨g, hn⟩

end Fits

section Turns

variable (hp : p.Sound) (h : Turn p n status s s')

include hp h

/-- Whoever the node does not lead stands where it stood. -/
theorem Turn.same {m : NodeId} (hne : m ≠ n) (hfree : p.leader? m ≠ some n) :
    statusAfter s'.trace m = statusAfter s.trace m :=
  (h.others hne).resolve_right fun hf => hfree (hp.mem_followersOf.1 hf.1)

/-- The elements that the node leads are in step with its new status. -/
theorem Turn.inStep_of_led (hacts : ∀ {f l}, p.leader? f = some l → p.ActsFor l f)
    (hs : Consistent p s) (hfits : Fits p (statusAfter s.trace) n status) {f : NodeId}
    (hf : p.leader? f = some n) (hbefore : (statusAfter s.trace n).InStep (statusAfter s.trace f)) :
    status.InStep (statusAfter s'.trace f) := by
  have hfn : f ≠ n := hp.follower_ne (hp.mem_followersOf.2 hf)
  refine ⟨fun hwaiting => absurd hwaiting hfits.not_waiting, fun {s''} hreflected => ?_,
    fun hgoal => ?_⟩
  · -- Nobody is told of a status that the node had before, but then nobody has to be.
    by_cases hchanged : statusAfter s.trace n = status
    · rcases h.others hfn with hsame | ⟨-, -, hthere⟩
      · rw [hsame]
        exact hbefore.reflects (hchanged ▸ hreflected)
      · exact Option.some.inj (hthere.symm.trans hreflected)
    · obtain ⟨node, a, hnode, ha, hnodeOf⟩ := hacts hf
      exact h.told hchanged hnode ha hnodeOf hreflected
        (hs.lawful.not_final_of_inStep (hp.leader_free hf) hfits.not_final hbefore)
  · -- The element is not told of the goal, but has reflected the progress of its leader.
    have hsame : statusAfter s'.trace f = statusAfter s.trace f :=
      (h.others hfn).resolve_right fun hf => by
        rw [reflected?_of_isGoal hgoal] at hf
        cases hf.2.2
    obtain ⟨g, hg⟩ := hfits.worked hgoal
    obtain ⟨s'', hreflected, hproxy⟩ := reflected?_inProgress g
    rw [hsame, hbefore.reflects (hg ▸ hreflected)]
    rintro rfl
    cases hproxy

/-- A node takes a status that fits, and everybody stays in step. -/
theorem Turn.inStep (hacts : ∀ {f l}, p.leader? f = some l → p.ActsFor l f) (hs : Consistent p s)
    (hfits : Fits p (statusAfter s.trace) n status) (hstep : p.InStep (statusAfter s.trace)) :
    p.InStep (statusAfter s'.trace) := by
  intro f l hl
  -- The node may lead the element, be the element, or have nothing to do with it.
  by_cases hln : l = n
  · subst hln
    rw [h.own]
    exact h.inStep_of_led hp hacts hs hfits hl (hstep f l hl)
  · have hfree : p.leader? l ≠ some n := by
      rw [hp.leader_free hl]
      exact nofun
    rw [h.same hp hln hfree]
    by_cases hfn : f = n
    · subst hfn
      rw [h.own]
      exact hfits.led l hl
    · rw [h.same hp hfn fun hfl => hln (Option.some.inj (hl.symm.trans hfl))]
      exact hstep f l hl

end Turns

/-! ## One segment -/

section Segments

variable (hp : p.Sound) (hacts : ∀ {f l}, p.leader? f = some l → p.ActsFor l f)
  (hs : Consistent p s) (hstep : p.InStep (statusAfter s.trace))

include hp hacts hs hstep

/-- A failure keeps elements in step with their work. -/
theorem Failed.inStep (h : Failed p node s s')
    (hnot : (statusAfter s.trace node.id).isFinal = false)
    (hn : p.Relieved (statusAfter s.trace) node.id) : p.InStep (statusAfter s'.trace) := by
  cases h with
  | late => exact hstep
  | recorded _ hturn =>
    have hturned := hturn.inStep hp hacts hs (.failed hnot hn) hstep
    exact hturned

/-- What follows on a body keeps elements in step with their work. -/
theorem Past.inStep (h : Past p node s progress s') (hnode : p.nodes[node.id]? = some node)
    (hn : statusAfter s.trace node.id = node.goal.inProgress) :
    p.InStep (statusAfter s'.trace) := by
  cases h with
  | late => exact hstep
  | asks => exact hstep
  | done _ _ hturn =>
    have hmet := hs.lawful.met_of_started hp ⟨node, hnode, .inl hn⟩
    exact hturn.inStep hp hacts hs (.goal hp hn hmet) hstep

/-- The start of a body keeps elements in step with their work. -/
theorem Entered.inStep (h : Entered p node s progress s') (hnode : p.nodes[node.id]? = some node)
    (hn : statusAfter s.trace node.id = node.goal.inProgress) :
    p.InStep (statusAfter s'.trace) := by
  cases h with
  | starts => exact hstep
  | skips _ hpast => exact hpast.inStep hp hacts hs hstep hnode hn
  | @pretends _ _ log _ hpast =>
    have hclaimed : Consistent p { s with started := node.id :: s.started, log } :=
      (hs.withStarted (node.id :: s.started)).withWorld s.world log
    exact hpast.inStep hp hacts hclaimed hstep hnode hn

/-- The first segment keeps elements in step with their work, if a failure to look at the
dependencies finds the leader done. -/
theorem Begun.inStep (h : Begun ask p node s progress s') (hnode : p.nodes[node.id]? = some node)
    (hfailing : ∀ {fault world}, (statusAfter s.trace node.id).isFinal = false →
      (dependenciesMet ask node).run.run s = (.error fault, { s with world }) →
      p.Relieved (statusAfter s.trace) node.id) : p.InStep (statusAfter s'.trace) := by
  have hworld : ∀ world, Consistent p { s with world } := fun world => hs.withWorld world s.log
  cases h with
  | idle => exact hstep
  | withheld => exact hstep
  | @failed world _ _ hnot hrun hfailed =>
    exact hfailed.inStep hp hacts (hworld world) hstep hnot (hfailing hnot hrun)
  | @entered world _ _ _ hnot hmet hturn _ hentered =>
    have hturned := hturn.inStep hp hacts (hworld world) (.inProgress hp hnot hmet _) hstep
    exact hentered.inStep hp hacts hturn.consistent hturned hnode hturn.own

/-- The segment after a body keeps elements in step with their work. -/
theorem Ended.inStep {r : Except Failure Unit} (h : Ended p node s r progress s')
    (hnode : p.nodes[node.id]? = some node)
    (hn : statusAfter s.trace node.id = node.goal.inProgress)
    (hled : p.Relieved (statusAfter s.trace) node.id) : p.InStep (statusAfter s'.trace) := by
  cases h with
  | ok hpast => exact hpast.inStep hp hacts hs hstep hnode hn
  | @error _ _ log _ _ hfailed =>
    exact hfailed.inStep hp hacts (hs.withWorld s.world log) hstep
      (InProgress.not_final ⟨node, hnode, hn⟩) hled

/-- The segment after a completion check keeps elements in step with their work. -/
theorem Checked.inStep {r : Except Failure Readiness} (h : Checked p node s r progress s')
    (hnode : p.nodes[node.id]? = some node)
    (hn : statusAfter s.trace node.id = node.goal.inProgress)
    (hled : p.Relieved (statusAfter s.trace) node.id) : p.InStep (statusAfter s'.trace) := by
  cases h with
  | waits => exact hstep
  | late => exact hstep
  | done _ hturn =>
    have hmet := hs.lawful.met_of_started hp ⟨node, hnode, .inl hn⟩
    exact hturn.inStep hp hacts hs (.goal hp hn hmet) hstep
  | error hfailed =>
    exact hfailed.inStep hp hacts hs hstep (InProgress.not_final ⟨node, hnode, hn⟩) hled

end Segments

/-! ## All runs -/

section Runs

variable (hplan : d.plan = .ok p) (hs : Consistent p.attach s)
  (hstep : p.attach.InStep (statusAfter s.trace))

include hplan hs hstep

/-- To begin an evaluation keeps elements in step with their work. -/
theorem begin_inStep (n : NodeId) :
    p.attach.InStep (statusAfter ((begin ask n).run s).2.trace) := by
  have hbuilt := built_of_plan hplan
  have hp := runnable_attach hbuilt
  rcases run_begin_cases ask (hs.numbered hp.toSound) n with
    ⟨r, hrun, -⟩ | ⟨node, hnode, rfl, hstop, hrun⟩
  · rw [hrun]
    exact hstep
  · rw [hs.nodes_eq] at hnode
    rw [hrun]
    refine (begun_start ask hp hs hstop hnode).inStep hp.toSound (actsFor_of_plan hplan) hs hstep
      hnode fun hnot hfailing => ?_
    have hhard := hard_of_failing ask hp hs hnode hnot hfailing
    exact hbuilt.relieved_of_hard hhard

/-- To go on after a body keeps elements in step with their work. -/
theorem resumeBody_inStep (hprogress : InProgress p.attach (statusAfter s.trace) n)
    (answer : Answer Unit) :
    p.attach.InStep (statusAfter ((resumeBody n answer).run s).2.trace) := by
  have hp := runnable_attach (built_of_plan hplan)
  have hrelieved := relieved_of_inProgress (built_of_plan hplan) hs hprogress
  obtain ⟨node, hnode, hn⟩ := hprogress
  obtain rfl := hp.id_eq hnode
  cases answer with
  | panic => exact hstep
  | reply r =>
    unfold resumeBody
    rw [run_resume_reply bodyEnded (by rw [hs.nodes_eq]; exact hnode)]
    exact (ended_bodyEnded hp hs hnode hn r).inStep hp.toSound (actsFor_of_plan hplan) hs hstep
      hnode hn hrelieved

/-- To go on after a completion check keeps elements in step with their work. -/
theorem resumeCheck_inStep (hprogress : InProgress p.attach (statusAfter s.trace) n)
    (answer : Answer Readiness) :
    p.attach.InStep (statusAfter ((resumeCheck n answer).run s).2.trace) := by
  have hp := runnable_attach (built_of_plan hplan)
  have hrelieved := relieved_of_inProgress (built_of_plan hplan) hs hprogress
  obtain ⟨node, hnode, hn⟩ := hprogress
  obtain rfl := hp.id_eq hnode
  cases answer with
  | panic => exact hstep
  | reply r =>
    unfold resumeCheck
    rw [run_resume_reply checkAnswered (by rw [hs.nodes_eq]; exact hnode)]
    exact (checked_checkAnswered hp hs hnode hn r).inStep hp.toSound (actsFor_of_plan hplan) hs
      hstep hnode hn hrelieved

end Runs

/-- Every move keeps elements in step. -/
theorem Stepped.inStep {m : Move ω} (hplan : d.plan = .ok p) (hsteady : Steady p.attach q)
    (hstep : p.attach.InStep (statusAfter q.shared.trace)) (h : Stepped ask q m q') :
    p.attach.InStep (statusAfter q'.shared.trace) := by
  have hs := hsteady.consistent
  -- whoever waits for a callback is in progress
  have hpaused : ∀ {t n pause}, q.pausedAt? t = some (n, pause) →
      InProgress p.attach (statusAfter q.shared.trace) n := by
    intro t n pause ht
    obtain ⟨k, hk, rfl, hphase⟩ := Pass.pausedAt?_eq_some.1 ht
    exact (hsteady.paused hk hphase).1
  cases h with
  | quiet hshared =>
    unfold State.trace
    rw [hshared.transitions]
    exact hstep
  | began hrun _ =>
    rw [hrun.shared]
    exact begin_inStep hplan hs hstep _
  | ended answer hrun hwaits =>
    rw [hrun.shared]
    exact resumeBody_inStep hplan hs hstep (hpaused hwaits) answer
  | checked answer hrun hwaits =>
    rw [hrun.shared]
    exact resumeCheck_inStep hplan hs hstep (hpaused hwaits) answer

/-- Elements are in step with their work in every reachable pass. -/
theorem Reachable.inStep (hplan : d.plan = .ok p)
    (h : Reachable ask concurrency (.first p concurrency dryRun world log) q) :
    p.attach.InStep (statusAfter q.shared.trace) := by
  induction h with
  | start => exact fun _ _ _ => ⟨fun _ => rfl, nofun, nofun⟩
  | @move q m hreach hm ih =>
    have hsteady := (hreach.steady_of_plan hplan).2
    exact (stepped hsteady.locks hm : Stepped ask q m _).inStep hplan hsteady ih

/-- In every run of a plan that a deployment makes, elements mirror the work on them, in whatever
order evaluations go on and callbacks answer. -/
theorem elements_mirror_their_work (hplan : d.plan = .ok p)
    (hreach : Reachable ask concurrency (.first p concurrency dryRun world log) q) :
    p.Mirrored q.shared.tracker.status := by
  obtain ⟨hsound, hsteady⟩ := hreach.steady_of_plan hplan
  have hs := hsteady.consistent
  -- what the trace says is what the tracker says, for the leader and for its follower
  have hstep : ∀ {f w}, p.leader? f = some w →
      (q.shared.tracker.status w).InStep (q.shared.tracker.status f) := by
    intro f w hw
    rw [hs.status_eq (hsound.source_lt (hsound.edge_leader hw)),
      hs.status_eq (hsound.target_lt (hsound.edge_leader hw))]
    exact hreach.inStep hplan f w hw
  refine ⟨fun hw hs => (hstep hw).waits hs, fun hw hs => (hstep hw).reflects (by rw [hs]; rfl),
    fun hw hs => (hstep hw).reflects (by rw [hs]; rfl),
    fun hw hs => (hstep hw).reflects (by rw [hs]; rfl),
    fun hw hgoal => (hstep hw).begun hgoal.isGoal, fun {n} hn hfree => ?_⟩
  rw [hs.status_eq hn]
  exact hs.lawful.not_isProxy hfree

/-- While the action that installs an element is under way, the element is shown as being worked
on. -/
theorem installed_mirrors_its_work : ∃ q, replay installed true
      [.spawn, .resume 0, .collect, .spawn, .resume 1] = some q ∧
    q.shared.tracker.status 2 = .deploying ∧ q.shared.tracker.status 1 = .proxyDeploying := by
  obtain ⟨q, hq, hwork⟩ : ∃ q, replay installed true
      [.spawn, .resume 0, .collect, .spawn, .resume 1] = some q ∧
      q.shared.tracker.status 2 = .deploying := ⟨_, rfl, rfl⟩
  have hplan : installed.plan = .ok (planned installed) := rfl
  have hled : (planned installed).leader? 1 = some 2 := rfl
  have hmirrored := elements_mirror_their_work hplan (reachable_of_replay hq)
  exact ⟨q, hq, hwork, hmirrored.deploying hled hwork⟩

end Engine

end Rollout
