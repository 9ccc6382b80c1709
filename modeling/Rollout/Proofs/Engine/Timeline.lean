import Rollout.Proofs.Engine.Hearing
import Rollout.Proofs.Engine.Tasks

/-!
# Timelines

The timeline settles in which order tasks are resumed and callbacks answer.  Whatever it does is a
sequence of moves, and if the callbacks conform to what may be heard then so do the answers that
these moves hand over (`Continues`).  For this every timer has to go on with a job that fits the
node of its task, which is part of what makes a timeline `Tended`.
-/

namespace Rollout.Engine

open Rollout.Plan

variable {ω α : Type} {p : Plan} {dryRun : Bool} {q : Pass ω} {l l' l'' : Timeline ω}
  {calls : Callbacks ω} {concurrency : Option Nat} {hears : Notice → Prop} {m : Move ω}
  {t : TaskId} {n : NodeId}

/-! ## What is heard -/

/-- A task that waits is one of the tasks. -/
theorem mem_labels_of_pausedAt? {pause : Pause} (h : q.pausedAt? t = some (n, pause)) :
    (t, n) ∈ q.labels := by
  obtain ⟨k, hk, rfl, -⟩ := Pass.pausedAt?_eq_some.1 h
  obtain rfl := Pass.id_of_task? hk
  exact List.mem_map.2 ⟨k, List.mem_of_find?_eq_some hk, rfl⟩

/-- The answer of a body is heard for the node of the task that waits for it. -/
theorem of_mem_heard_answerBody {answer : Answer Unit} {notice : Notice}
    (h : notice ∈ q.heard (.answerBody t answer)) :
    ∃ n, (t, n) ∈ q.labels ∧ notice = .ended n answer := by
  obtain ⟨n, hn, rfl⟩ := List.mem_map.1 h
  obtain ⟨c, hpaused⟩ := Pass.bodyOf?_eq_some.1 (Option.mem_toList.1 hn)
  exact ⟨n, mem_labels_of_pausedAt? hpaused, rfl⟩

/-- The answer of a completion check is heard for the node of the task that waits for it. -/
theorem of_mem_heard_answerCheck {answer : Answer Readiness} {notice : Notice}
    (h : notice ∈ q.heard (.answerCheck t answer)) :
    ∃ n, (t, n) ∈ q.labels ∧ notice = .checked n answer := by
  obtain ⟨n, hn, rfl⟩ := List.mem_map.1 h
  obtain ⟨c, hpaused⟩ := Pass.checkOf?_eq_some.1 (Option.mem_toList.1 hn)
  exact ⟨n, mem_labels_of_pausedAt? hpaused, rfl⟩

/-! ## Tended timelines -/

/-- The rest of a callback gives answers that may be heard of the node. -/
def Sleeper.Fits (hears : Notice → Prop) (n : NodeId) : Sleeper ω → Prop
  | .body rest => rest.Gives fun answer => hears (.ended n answer)
  | .check rest => rest.Gives fun answer => hears (.checked n answer)

/-- The pass is one over the plan, its tasks wait for callbacks of their own nodes, and timers go on
with what fits the nodes of their tasks. -/
structure Timeline.Tended (p : Plan) (dryRun : Bool) (hears : Notice → Prop) (l : Timeline ω) :
    Prop where
  based : Based p dryRun l.pass
  own : l.pass.CallsOwn p
  ids : l.pass.ids.Nodup
  set : ∀ timer ∈ l.timers, timer.task < l.pass.spawned
  fits : ∀ timer ∈ l.timers, ∀ n, (timer.task, n) ∈ l.pass.labels → timer.sleeper.Fits hears n

/-- One timeline leads to another by moves whose answers may be heard. -/
structure Timeline.Continues (p : Plan) (dryRun : Bool) (hears : Notice → Prop)
    (calls : Callbacks ω) (concurrency : Option Nat) (l l' : Timeline ω) : Prop where
  follows : Follows hears calls.ask concurrency l.pass l'.pass
  tended : l'.Tended p dryRun hears

/-- A loop goes on by going on twice. -/
theorem Timeline.Continues.trans (h : l.Continues p dryRun hears calls concurrency l')
    (h' : l'.Continues p dryRun hears calls concurrency l'') :
    l.Continues p dryRun hears calls concurrency l'' :=
  ⟨h.follows.trans h'.follows, h'.tended⟩

/-- A callback under way acts on the environment and on the log alone. -/
theorem advance_shared (job : Job ω α) (s : State ω) :
    ∃ world log, (job.advance s).2 = { s with world, log } := by
  induction job generalizing s with
  | done answer => exact ⟨s.world, s.log, rfl⟩
  | act effect next ih => exact ih s.view _ { s with world := effect s.view s.world }
  | note e next ih => exact ih { s with log := s.log.push e }
  | sleep ms rest ih =>
    unfold Job.advance
    split
    · exact ih s
    · exact ⟨s.world, s.log, rfl⟩

namespace Timeline.Tended

/-- A pass begins without tasks and without timers. -/
theorem start {s : State ω} (now : Nat) (hbase : Based p dryRun (.ofState s concurrency)) :
    Timeline.Tended p dryRun hears { pass := .ofState s concurrency, now } where
  based := hbase
  own := callsOwn_ofState p s concurrency
  ids := List.nodup_nil
  set := nofun
  fits := nofun

section Moves

variable (calls : Callbacks ω) (concurrency : Option Nat) (h : l.Tended p dryRun hears)

include h

/-- A loop that does nothing goes on. -/
theorem refl : l.Continues p dryRun hears calls concurrency l := ⟨.refl, h⟩

/-- A timer may be set for a sleeper that fits its task. -/
theorem addTimer (ht : t < l.pass.spawned) {s : Sleeper ω}
    (hs : ∀ n, (t, n) ∈ l.pass.labels → s.Fits hears n) (millis : Nat) :
    (l.addTimer millis t s).Tended p dryRun hears where
  based := h.based
  own := h.own
  ids := h.ids
  set timer htimer := by
    rcases List.mem_append.1 htimer with hold | hnew
    · exact h.set timer hold
    · rw [List.mem_singleton.1 hnew]
      exact ht
  fits timer htimer n hn := by
    rcases List.mem_append.1 htimer with hold | hnew
    · exact h.fits timer hold n hn
    · rw [List.mem_singleton.1 hnew] at hn ⊢
      exact hs n hn

/-- Timers may be taken away. -/
theorem ofTimers {timers : List (Timer ω)} (hsub : timers ⊆ l.timers) :
    Timeline.Tended p dryRun hears { l with timers } where
  based := h.based
  own := h.own
  ids := h.ids
  set timer htimer := h.set timer (hsub htimer)
  fits timer htimer := h.fits timer (hsub htimer)

variable (hp : p.Placed)

include hp

/-- Within a pass tasks stay what they are about. -/
theorem after (hallowed : l.pass.allows m = true) (hspawn : m ≠ .spawn) (hnext : m ≠ .next) :
    Timeline.Tended p dryRun hears { l with pass := l.pass.after calls.ask concurrency m } := by
  have hstep : Stepped calls.ask l.pass m (l.pass.after calls.ask concurrency m) :=
    stepped h.based.locks hallowed
  refine ⟨h.based.step hp hstep, h.own.step h.based hstep,
    Pass.nodup_after calls.ask concurrency h.based.locks h.ids m,
    fun timer htimer => ?_, fun timer htimer n hn => ?_⟩
  · show _ < (l.pass.after calls.ask concurrency m).spawned
    rw [Pass.spawned_after calls.ask concurrency l.pass hspawn hnext]
    exact h.set timer htimer
  · exact h.fits timer htimer n
      ((Pass.labels_after calls.ask concurrency l.pass hspawn).subset hn)

/-- A move without new tasks keeps the timers in order: no label is added, and no number given out.
-/
theorem move (hallowed : l.pass.allows m = true) (hstops : m.stops = false) (hspawn : m ≠ .spawn)
    (hnext : m ≠ .next) (hheard : ∀ notice ∈ l.pass.heard m, hears notice) :
    l.Continues p dryRun hears calls concurrency
      { l with pass := l.pass.after calls.ask concurrency m } :=
  ⟨.of_move hallowed hstops hheard, h.after calls concurrency hp hallowed hspawn hnext⟩

/-- New tasks keep the timers in order: those have been set for older ones. -/
theorem spawn (hstop : l.pass.shared.stopped = false) :
    l.Continues p dryRun hears calls concurrency { l with pass := l.pass.spawn } := by
  have hallowed : l.pass.allows (.spawn : Move ω) = true := by
    unfold Pass.allows
    rw [hstop]
    rfl
  have hstep : Stepped calls.ask l.pass .spawn l.pass.spawn := stepped_spawn h.based.locks
  refine ⟨.of_move (m := .spawn) hallowed rfl nofun, h.based.step hp hstep,
    h.own.step h.based hstep, Pass.nodup_after calls.ask concurrency h.based.locks h.ids .spawn,
    fun timer htimer => ?_, fun timer htimer n hn => ?_⟩
  · show _ < l.pass.spawn.spawned
    rw [Pass.spawned_spawn]
    exact Nat.lt_add_right _ (h.set timer htimer)
  · -- Timers have been set for tasks that had numbers before.
    rcases Pass.mem_labels_of_spawn hn with hold | hnew
    · exact h.fits timer htimer n hold
    · exact absurd (h.set timer htimer) (Nat.not_lt.2 hnew)

/-- To look at a result keeps the timers in order. -/
theorem collect {r : Except Fault Unit} {rest : List (Except Fault Unit)}
    (hresults : l.pass.results = r :: rest) (hr : l.pass.shared.stopped = true ∨ r.isOk = true) :
    l.Continues p dryRun hears calls concurrency
      { l with pass := { l.pass with results := rest } } := by
  have hallowed : l.pass.allows (.collect : Move ω) = true := by
    unfold Pass.allows
    rw [hresults, Bool.or_eq_true]
    exact hr
  have hmove : l.Continues p dryRun hears calls concurrency
      { l with pass := l.pass.after calls.ask concurrency .collect } :=
    h.move calls concurrency hp hallowed rfl nofun nofun nofun
  have hafter : l.pass.after calls.ask concurrency .collect = { l.pass with results := rest } := by
    show ({ l.pass with results := l.pass.results.tail } : Pass ω) = _
    rw [hresults]
    rfl
  rwa [hafter] at hmove

/-- So does a change of the environment and the log. -/
theorem disturb (world : ω) (log : Array Log.Event) :
    l.Continues p dryRun hears calls concurrency
      (l.setShared { l.pass.shared with world, log }) :=
  h.move calls concurrency hp (m := .disturb world log) rfl rfl nofun nofun nofun

/-- To note something keeps them in order. -/
theorem note (e : Log.Event) : l.Continues p dryRun hears calls concurrency (l.note e) :=
  h.disturb calls concurrency hp l.pass.shared.world (l.pass.shared.log.push e)

/-- The clock may be put forward. -/
theorem setNow (now : ℕ) : l.Continues p dryRun hears calls concurrency (l.setNow calls now) := by
  have hnow : Timeline.Tended p dryRun hears { l with now } :=
    ⟨h.based, h.own, h.ids, h.set, h.fits⟩
  have hset := hnow.disturb calls concurrency hp
    (calls.setClock now l.pass.shared.world) l.pass.shared.log
  exact ⟨hset.follows, hset.tended⟩

/-- The stop flag is raised, and perhaps something is noted. -/
theorem stop : ∃ raised : Timeline ω,
    raised.pass = l.pass.after calls.ask concurrency .stop ∧ raised.Tended p dryRun hears ∧
      raised.Continues p dryRun hears calls concurrency l.stop := by
  have hraised : Timeline.Tended p dryRun hears
      { l with pass := l.pass.after calls.ask concurrency .stop } :=
    h.after calls concurrency hp rfl nofun nofun
  refine ⟨_, rfl, hraised, ?_⟩
  unfold Timeline.stop
  extract_lets inFlight shared raised
  by_cases hidle : inFlight = 0
  · rw [if_pos hidle]
    exact hraised.refl calls concurrency
  · rw [if_neg hidle]
    exact hraised.note calls concurrency hp _

/-! ### Callbacks -/

/-- A completion check that is carried on falls asleep, or its answer is heard. -/
theorem driveCheck (ht : t < l.pass.spawned) {job : Job ω Readiness}
    (hjob : ∀ n, (t, n) ∈ l.pass.labels → job.Gives fun answer => hears (.checked n answer)) :
    l.Continues p dryRun hears calls concurrency (l.driveCheck t job) := by
  obtain ⟨world, log, hshared⟩ := advance_shared job l.pass.shared
  have hdisturb := h.disturb calls concurrency hp world log
  -- what the callback has still to say is of the kind that may be heard for each node that the task
  -- can be about
  have hhalt := fun n hn => (hjob n hn).advance l.pass.shared
  unfold Timeline.driveCheck
  cases hrun : job.advance l.pass.shared with
  | mk halt shared =>
    rw [hrun] at hshared hhalt
    obtain rfl : shared = _ := hshared
    cases halt with
    | asleep ms rest =>
      exact ⟨hdisturb.follows, hdisturb.tended.addTimer (s := .check rest) ht hhalt ms⟩
    | answered answer =>
      refine hdisturb.trans (hdisturb.tended.move calls concurrency hp
        (m := .answerCheck t answer) rfl rfl nofun nofun fun notice hnotice => ?_)
      obtain ⟨n, hn, rfl⟩ := of_mem_heard_answerCheck hnotice
      exact hhalt n hn

variable {calls} (hconform : calls.Conform p hears)

include hconform

/-- A task that waits for a check waits for that of its node. -/
theorem startCheck (t : TaskId) :
    l.Continues p dryRun hears calls concurrency (l.startCheck calls t) := by
  unfold Timeline.startCheck
  split
  next id n c htask =>
    have hpaused : l.pass.pausedAt? t = some (n, .check c) :=
      Pass.pausedAt?_eq_some.2 ⟨_, htask, rfl, rfl⟩
    obtain ⟨node, hnode, ⟨c', hc, hcheck⟩ | ⟨c', hc, -⟩⟩ := h.own hpaused
    · obtain rfl := Pause.check.inj hc
      -- the check is told the goal of the node, which is the one that callbacks conform for
      have hgoal : (l.pass.shared.plan.nodes[n]?.map (·.goal)).getD .deployed = node.goal := by
        rw [h.based.nodes, hnode]
        rfl
      rw [hgoal]
      have hspawned := h.based.locks.lt_of_pausedAt? hpaused
      refine h.driveCheck calls concurrency hp hspawned fun n' hn' => ?_
      -- a task is about one node only
      obtain rfl := Pass.eq_of_mem_labels h.ids hn' (mem_labels_of_pausedAt? hpaused)
      exact hconform.check hnode hcheck
    · cases hc
  next => exact h.refl calls concurrency

/-- A body that is carried on falls asleep, or its answer is heard and the check is asked. -/
theorem driveBody (ht : t < l.pass.spawned) {job : Job ω Unit}
    (hjob : ∀ n, (t, n) ∈ l.pass.labels → job.Gives fun answer => hears (.ended n answer)) :
    l.Continues p dryRun hears calls concurrency (l.driveBody calls t job) := by
  obtain ⟨world, log, hshared⟩ := advance_shared job l.pass.shared
  have hdisturb := h.disturb calls concurrency hp world log
  have hhalt := fun n hn => (hjob n hn).advance l.pass.shared
  unfold Timeline.driveBody
  cases hrun : job.advance l.pass.shared with
  | mk halt shared =>
    rw [hrun] at hshared hhalt
    obtain rfl : shared = _ := hshared
    cases halt with
    | asleep ms rest =>
      exact ⟨hdisturb.follows, hdisturb.tended.addTimer (s := .body rest) ht hhalt ms⟩
    | answered answer =>
      -- the answer is heard first; the segment after it may go on to the completion check
      have hanswer := hdisturb.trans (hdisturb.tended.move calls concurrency hp
        (m := .answerBody t answer) rfl rfl nofun nofun fun notice hnotice => by
          obtain ⟨n, hn, rfl⟩ := of_mem_heard_answerBody hnotice
          exact hhalt n hn)
      exact hanswer.trans (hanswer.tended.startCheck concurrency hp hconform t)

/-- The callback that a task waits for is started, if the task does wait. -/
theorem startCallback (t : TaskId) :
    l.Continues p dryRun hears calls concurrency (l.startCallback calls t) := by
  unfold Timeline.startCallback
  split
  next id n c htask =>
    have hpaused : l.pass.pausedAt? t = some (n, .body c) :=
      Pass.pausedAt?_eq_some.2 ⟨_, htask, rfl, rfl⟩
    obtain ⟨node, hnode, hasks | ⟨c', hc, hbody⟩⟩ := h.own hpaused
    · exact absurd rfl (hasks.ne_body c)
    · obtain rfl := Pause.body.inj hc
      have hspawned := h.based.locks.lt_of_pausedAt? hpaused
      refine h.driveBody concurrency hp hconform hspawned fun n' hn' => ?_
      obtain rfl := Pass.eq_of_mem_labels h.ids hn' (mem_labels_of_pausedAt? hpaused)
      exact hconform.body hnode hbody
  next => exact h.startCheck concurrency hp hconform t

/-! ### Rounds -/

/-- All tasks that can run are run. -/
theorem drain (fuel : ℕ) :
    l.Continues p dryRun hears calls concurrency (l.drain calls fuel) := by
  induction fuel generalizing l with
  | zero => exact h.refl calls concurrency
  | succ fuel ih =>
    unfold Timeline.drain
    split
    · exact h.refl calls concurrency
    next t rest hrunnable =>
      have hallowed : l.pass.allows (.resume t : Move ω) = true := by
        simp [Pass.allows, hrunnable]
      have hresume := h.move calls concurrency hp hallowed rfl nofun nofun nofun
      have hstart := hresume.trans (hresume.tended.startCallback concurrency hp hconform t)
      exact hstart.trans (ih hstart.tended)

/-- The sleeper of a timer that is due is carried on. -/
theorem fire {timer : Timer ω} (htimer : timer ∈ l.timers) :
    l.Continues p dryRun hears calls concurrency (l.fire calls timer) := by
  have hfits := h.fits timer htimer
  unfold Timeline.fire
  extract_lets l₁ l₂
  have hrest : l₁.Tended p dryRun hears := h.ofTimers (List.eraseP_subset ..)
  have hnow := hrest.setNow calls concurrency hp timer.due
  have hclock : l.Continues p dryRun hears calls concurrency l₂ := ⟨hnow.follows, hnow.tended⟩
  -- the clock does not bear on which tasks have been spawned
  have hset : timer.task < l₂.pass.spawned := h.set timer htimer
  split
  next rest hsleeper =>
    rw [hsleeper] at hfits
    exact hclock.trans (hclock.tended.driveBody concurrency hp hconform hset hfits)
  next rest hsleeper =>
    rw [hsleeper] at hfits
    exact hclock.trans (hclock.tended.driveCheck calls concurrency hp hset hfits)

end Moves

end Timeline.Tended

/-- The timer that goes off next is one of those that have been set. -/
theorem mem_timers_of_nextTimer {timer : Timer ω} (h : l.nextTimer = some timer) :
    timer ∈ l.timers := by
  refine List.foldlRecOn (motive := fun best => ∀ timer, best = some timer → timer ∈ l.timers)
    l.timers _ (fun timer htimer => ?_) (fun best ih t ht timer htimer => ?_) timer h
  · cases htimer
  split at htimer
  · exact Option.some.inj htimer ▸ ht
  next b =>
    split at htimer
    · exact Option.some.inj htimer ▸ ht
    · exact ih timer htimer

end Rollout.Engine
