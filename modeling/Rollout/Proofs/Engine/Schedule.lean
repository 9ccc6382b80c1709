import Rollout.Engine.Run
import Rollout.Proofs.Engine.Timeline

/-!
# Executed runs

An executed run is one of the interleavings, over any plan and with any tracker: it gets to passes
that it `Follows` from the first one.  `ConcludesFrom` lists how a run may end that gets to certain
passes, and an executed run ends in one of these ways (`run_proceeds`), unless it is refused from
the start.
-/

namespace Rollout

/-- A defect is no timeout. -/
theorem Fault.not_isTimeout_of_isDefect {f : Fault} (h : f.isDefect = true) :
    ¬f.isTimeout = true := by
  cases f <;> simp_all [Fault.isDefect, Fault.isTimeout]

namespace Engine

open Rollout.Plan

variable {ω : Type} {p : Plan} {dryRun : Bool} {q q' q'' : Pass ω} {calls : Callbacks ω}
  {ask : Condition → ω → Readiness × ω} {concurrency : Option Nat} {hears : Notice → Prop}
  {reached reached' : Pass ω → Prop}

/-! ## One pass -/

/-- What a round begins with: queued nodes become tasks. -/
def Timeline.spawned (l : Timeline ω) : Timeline ω := { l with pass := l.pass.spawn }

/-- What one round of a pass comes to. -/
theorem run_cases {deadline horizon : Option ℕ} {fuel : ℕ} {l l' : Timeline ω} {ending : Ending}
    (hrun : l.run calls deadline horizon (fuel + 1) = some (ending, l')) :
    (∃ rest, l.spawned.pass.results = .ok () :: rest ∧
        Timeline.run calls deadline horizon fuel
          { l.spawned with pass := { l.spawned.pass with results := rest } } =
            some (ending, l')) ∨
      (l.spawned.drain calls fuel).run calls deadline horizon fuel = some (ending, l') ∨
      (∃ t, l.spawned.nextTimer = some t ∧
        ((l.spawned.fire calls t).drain calls fuel).run calls deadline horizon fuel =
          some (ending, l')) ∨
      (l.spawned.pass.results = [] ∧ l.spawned.pass.tasks.isEmpty = true ∧ ending = .settled ∧
        l' = l.spawned) ∨
      (∃ d, l.spawned.expire calls horizon fuel d = some (ending, l')) ∨
      ∃ f rest, l.spawned.pass.results = .error f :: rest ∧ ending = .failed f ∧
        l' = { l.spawned with pass := { l.spawned.pass with results := rest } } := by
  unfold Timeline.run at hrun
  extract_lets l₁ at hrun
  split at hrun
  next r rest hresults =>
    split at hrun
    next u => exact .inl ⟨rest, hresults, hrun⟩
    next f =>
      cases hrun
      exact .inr (.inr (.inr (.inr (.inr ⟨f, rest, hresults, rfl, rfl⟩))))
  next hresults =>
    split at hrun
    · exact .inr (.inl hrun)
    · split at hrun
      next htasks =>
        obtain ⟨hend, hl⟩ := Prod.mk.inj (Option.some.inj hrun)
        exact .inr (.inr (.inr (.inl ⟨hresults, htasks, hend.symm, hl.symm⟩)))
      next =>
        -- Nobody can go on, so either a timer goes off or the deadline passes.
        split at hrun
        · cases hrun
        · exact .inr (.inr (.inr (.inr (.inl ⟨_, hrun⟩))))
        next t ht =>
          split at hrun
          · cases hrun
          · exact .inr (.inr (.inl ⟨t, ht, hrun⟩))
        next t _ ht =>
          split at hrun
          · exact .inr (.inr (.inr (.inr (.inl ⟨_, hrun⟩))))
          · split at hrun
            · cases hrun
            · exact .inr (.inr (.inl ⟨t, ht, hrun⟩))

/-- The states are the same but for the environment, the log and the queue. -/
def Alike (s s' : State ω) : Prop := ∃ world log queue, s' = { s with world, log, queue }

theorem Alike.refl (s : State ω) : Alike s s := ⟨s.world, s.log, s.queue, rfl⟩

theorem Alike.trans {s s' s'' : State ω} (h : Alike s s') (h' : Alike s' s'') : Alike s s'' := by
  obtain ⟨_, _, _, rfl⟩ := h
  obtain ⟨world, log, queue, rfl⟩ := h'
  exact ⟨world, log, queue, rfl⟩

/-- How a pass may end, and the state it leaves, in a run that gets to certain passes. -/
inductive Closes (ask : Condition → ω → Readiness × ω) (concurrency : Option ℕ)
    (reached : Pass ω → Prop) : Ending → State ω → Prop where
  /-- There is nothing left to do. -/
  | settled {q : Pass ω} {s : State ω} (hreached : reached q) (hsettled : q.settled = true)
      (hs : Alike q.shared s) : Closes ask concurrency reached .settled s
  /-- A task has ended with a fault. -/
  | failed {q : Pass ω} {f : Fault} {s : State ω} (hreached : reached q)
      (hf : .error f ∈ q.results) (hs : Alike q.shared s) :
      Closes ask concurrency reached (.failed f) s
  /-- Time has run out. -/
  | expired {q q' : Pass ω} {late : List (Move ω)} {s : State ω} (hreached : reached q)
      (hexpires : Expires ask concurrency q late q') (hs : Alike q'.shared s) :
      Closes ask concurrency reached .expired s

/-- A pass closes the same way whatever else might be reached. -/
theorem Closes.mono {ending : Ending} {s : State ω} (h : Closes ask concurrency reached ending s)
    (hreached : ∀ q, reached q → reached' q) : Closes ask concurrency reached' ending s := by
  cases h with
  | settled hq hsettled hs => exact .settled (hreached _ hq) hsettled hs
  | failed hq hf hs => exact .failed (hreached _ hq) hf hs
  | expired hq hexpires hs => exact .expired (hreached _ hq) hexpires hs

/-- The environment, the log and the queue do not bear on how a pass closes. -/
theorem Closes.alike {ending : Ending} {s s' : State ω}
    (h : Closes ask concurrency reached ending s) (hs : Alike s s') :
    Closes ask concurrency reached ending s' := by
  cases h with
  | settled hreached hsettled hs' => exact .settled hreached hsettled (hs'.trans hs)
  | failed hreached hf hs' => exact .failed hreached hf (hs'.trans hs)
  | expired hreached hexpires hs' => exact .expired hreached hexpires (hs'.trans hs)

/-- A pass that closes later on closes. -/
theorem Closes.head {ending : Ending} {s : State ω}
    (h : Follows hears ask concurrency q q')
    (h' : Closes ask concurrency (Follows hears ask concurrency q') ending s) :
    Closes ask concurrency (Follows hears ask concurrency q) ending s :=
  h'.mono fun _ => h.trans

section Timelines

variable (concurrency) (hp : p.Placed) (hconform : calls.Conform p hears) {l l' : Timeline ω}
  (h : l.Tended p dryRun hears)

include hp hconform h

/-- Winding down after the deadline. -/
theorem follows_windDown {horizon : Option ℕ} {fuel : ℕ} (hstop : l.pass.shared.stopped = true)
    (hrun : l.windDown calls horizon fuel = some l') :
    Follows hears calls.ask concurrency l.pass l'.pass ∧ l'.pass.tasks = [] := by
  induction fuel generalizing l with
  | zero => cases hrun
  | succ fuel ih =>
    -- Whatever follows from here does so with the deadline passed.
    have hgo : ∀ l₁ : Timeline ω, l.Continues p dryRun hears calls concurrency l₁ →
        l₁.windDown calls horizon fuel = some l' →
        Follows hears calls.ask concurrency l.pass l'.pass ∧ l'.pass.tasks = [] := by
      intro l₁ hstep hrest
      have hstopped := hstep.follows.leads.stopped hp h.based
      obtain ⟨hdown, hdone⟩ := ih hstep.tended (hstopped.trans hstop) hrest
      exact ⟨hstep.follows.trans hdown, hdone⟩
    unfold Timeline.windDown at hrun
    split at hrun
    next r rest hresults =>
      have hcollect := h.collect calls concurrency hp hresults (.inl hstop)
      split at hrun
      · exact hgo _ hcollect hrun
      · exact hgo _ (hcollect.trans (hcollect.tended.note calls concurrency hp _)) hrun
    next =>
      split at hrun
      next hdone => exact Option.some.inj hrun ▸ ⟨.refl, List.isEmpty_iff.1 hdone⟩
      · split at hrun
        · split at hrun
          · cases hrun
          next t ht =>
            split at hrun
            · cases hrun
            · have hfire := h.fire concurrency hp hconform (mem_timers_of_nextTimer ht)
              exact hgo _ (hfire.trans (hfire.tended.drain concurrency hp hconform fuel)) hrun
        · exact hgo _ (h.drain concurrency hp hconform fuel) hrun

/-- A pass whose time runs out is stopped and wound down until no task is left. -/
theorem closes_expire {horizon : Option ℕ} {fuel deadline : ℕ} {ending : Ending}
    (hrun : l.expire calls horizon fuel deadline = some (ending, l')) :
    Closes calls.ask concurrency (Follows hears calls.ask concurrency l.pass) ending
      l'.pass.shared := by
  unfold Timeline.expire at hrun
  split at hrun
  · cases hrun
  · obtain ⟨l₁, hdown, heq⟩ := Option.map_eq_some_iff.1 hrun
    obtain ⟨rfl, rfl⟩ := Prod.mk.inj heq
    -- the clock is put forward to the deadline, and then the pass is told to stop
    have hclock := h.setNow calls concurrency hp deadline
    obtain ⟨raised, hraised, htended, hstop⟩ :=
      hclock.tended.stop calls concurrency hp
    have hstopped : raised.pass.shared.stopped = true := by
      rw [hraised]
      rfl
    -- after the stop the tasks run out, and none of them can change a status
    obtain ⟨hrest, hdone⟩ := follows_windDown concurrency hp hconform hstop.tended
      ((hstop.follows.leads.stopped hp htended.based).trans hstopped) hdown
    obtain ⟨ms, hplay, -⟩ := (hstop.follows.trans hrest).leads
    rw [hraised] at hplay
    exact .expired hclock.follows (.raised hplay hdone) (.refl _)

/-- The loop over the timers ends a pass in one of the ways in which passes close. -/
theorem closes_run {deadline horizon : Option ℕ} {fuel : ℕ} {ending : Ending}
    (hstop : l.pass.shared.stopped = false)
    (hrun : l.run calls deadline horizon fuel = some (ending, l')) :
    Closes calls.ask concurrency (Follows hears calls.ask concurrency l.pass) ending
      l'.pass.shared := by
  induction fuel generalizing l with
  | zero => cases hrun
  | succ fuel ih =>
    have hspawn : l.Continues p dryRun hears calls concurrency l.spawned :=
      h.spawn calls concurrency hp hstop
    have hstopped := (hspawn.follows.leads.stopped hp h.based).trans hstop
    -- Whatever the tasks go on to, the next round begins there.
    have hgo : ∀ l₁ : Timeline ω, l.spawned.Continues p dryRun hears calls concurrency l₁ →
        l₁.run calls deadline horizon fuel = some (ending, l') →
        Closes calls.ask concurrency (Follows hears calls.ask concurrency l.pass) ending
          l'.pass.shared := by
      intro l₁ hstep hrest
      have hgoes := (hstep.follows.leads.stopped hp hspawn.tended.based).trans hstopped
      exact (ih hstep.tended hgoes hrest).head (hspawn.trans hstep).follows
    rcases run_cases hrun with ⟨rest, hresults, hrest⟩ | hrest | ⟨t, ht, hrest⟩ |
      ⟨hresults, htasks, rfl, rfl⟩ | ⟨d, hrest⟩ | ⟨f, rest, hresults, rfl, rfl⟩
    · exact hgo _ (hspawn.tended.collect calls concurrency hp hresults (.inr rfl)) hrest
    · exact hgo _ (hspawn.tended.drain concurrency hp hconform fuel) hrest
    · have hfire := hspawn.tended.fire concurrency hp hconform (mem_timers_of_nextTimer ht)
      exact hgo _ (hfire.trans (hfire.tended.drain concurrency hp hconform fuel)) hrest
    · -- nothing is left to do: the queue has just been emptied
      have hqueue : l.spawned.pass.shared.queue = [] :=
        congrArg (·.queue) (rearranged_spawn h.based.locks).1.shared
      refine .settled hspawn.follows ?_ (.refl _)
      unfold Pass.settled
      rw [hqueue, htasks, hresults]
      rfl
    · exact (closes_expire concurrency hp hconform hspawn.tended hrest).head hspawn.follows
    · have hf : .error f ∈ l.spawned.pass.results := by
        rw [hresults]
        exact List.mem_cons_self
      exact .failed (q := l.spawned.pass) hspawn.follows hf (.refl _)

end Timelines

/-! ## All passes -/

/-- The pass that the next one will be. -/
def Pass.upcoming (concurrency : Option ℕ) (s : State ω) : Pass ω :=
  .ofState { s with queue := s.queue ++ s.plan.leaves, stopped := false } concurrency

/-- How a run ends that gets to certain passes, what it comes to and the state it leaves; `timeout`
is its deadline. -/
inductive ConcludesFrom (ask : Condition → ω → Readiness × ω) (concurrency : Option ℕ)
    (timeout : Option Duration) (reached : Pass ω → Prop) : Outcome → State ω → Prop where
  /-- A pass has settled, and the aggregate result is final. -/
  | settled {s : State ω} (hcloses : Closes ask concurrency reached .settled s)
      (hfinal : s.tracker.summary.outcome.isFinal = true) :
      ConcludesFrom ask concurrency timeout reached (.completed s.tracker.summary) s
  /-- Time has run out, and whatever is not final is failed. -/
  | expired {s : State ω} {limit : Duration} (hcloses : Closes ask concurrency reached .expired s)
      (hlimit : timeout = some limit) :
      ConcludesFrom ask concurrency timeout reached
        (.completed (failUnfinished (.timeout limit) s).tracker.summary)
        (failUnfinished (.timeout limit) s)
  | aborted {s : State ω} {f : Fault} (hcloses : Closes ask concurrency reached (.failed f) s) :
      ConcludesFrom ask concurrency timeout reached (.aborted f) s
  /-- The run is given up between two passes, or it panics there. -/
  | unfinished {q : Pass ω} {s : State ω} (hreached : reached q) (hs : Alike q.shared s) :
      ConcludesFrom ask concurrency timeout reached .unfinished s

/-- How a run may end that begins with `start`, whatever its callbacks answer. -/
abbrev Concludes (ask : Condition → ω → Readiness × ω) (concurrency : Option ℕ)
    (timeout : Option Duration) (start : Pass ω) : Outcome → State ω → Prop :=
  ConcludesFrom ask concurrency timeout (Leads ask concurrency start)

/-- A run concludes the same way whatever else might be reached. -/
theorem ConcludesFrom.mono {timeout : Option Duration} {outcome : Outcome} {s : State ω}
    (h : ConcludesFrom ask concurrency timeout reached outcome s)
    (hreached : ∀ q, reached q → reached' q) :
    ConcludesFrom ask concurrency timeout reached' outcome s := by
  cases h with
  | settled hcloses hfinal => exact .settled (hcloses.mono hreached) hfinal
  | expired hcloses hlimit => exact .expired (hcloses.mono hreached) hlimit
  | aborted hcloses => exact .aborted (hcloses.mono hreached)
  | unfinished hq hs => exact .unfinished (hreached _ hq) hs

variable {start : Pass ω} {s s' : State ω} {options : Options} {limits : Limits}
  {deadline : Option Deadline}

/-- A pass that has an answer either had no time left or was run to its end. -/
theorem pass_cases {now now' : ℕ} {result : Except Fault Summary}
    (hpass : pass calls options limits deadline now s = some (result, s', now')) :
    (∃ d, deadline = some d ∧ s' = s ∧ result = .error (.timeout d.limit)) ∨
      ∃ ending l, Timeline.run calls (deadline.map (·.due)) limits.horizon limits.rounds
          { pass := .upcoming options.concurrency s, now } = some (ending, l) ∧
        s' = { l.pass.shared with queue := [] } ∧
        (ending = .settled ∧ result = .ok s'.tracker.summary ∨
          (∃ f, ending = .failed f ∧ result = .error f) ∨
          ∃ d, deadline = some d ∧ ending = .expired ∧ result = .error (.timeout d.limit)) := by
  unfold pass at hpass
  cases deadline with
  | none =>
    obtain ⟨⟨ending, l⟩, hrun, hend⟩ := Option.bind_eq_some_iff.1 hpass
    refine .inr ⟨ending, l, hrun, ?_⟩
    cases ending <;> cases hend
    · exact ⟨rfl, .inl ⟨rfl, rfl⟩⟩
    · exact ⟨rfl, .inr (.inl ⟨_, rfl, rfl⟩)⟩
  | some d =>
    -- a deadline that has passed already ends the run before the pass begins
    by_cases hdue : d.due ≤ now
    · simp only [if_pos hdue] at hpass
      cases hpass
      exact .inl ⟨d, rfl, rfl, rfl⟩
    · simp only [if_neg hdue] at hpass
      obtain ⟨⟨ending, l⟩, hrun, hend⟩ := Option.bind_eq_some_iff.1 hpass
      refine .inr ⟨ending, l, hrun, ?_⟩
      cases ending <;> cases hend
      · exact ⟨rfl, .inl ⟨rfl, rfl⟩⟩
      · exact ⟨rfl, .inr (.inl ⟨_, rfl, rfl⟩)⟩
      · exact ⟨rfl, .inr (.inr ⟨d, rfl, rfl, rfl⟩)⟩

/-- The next pass may begin in this state. -/
structure Ready (hears : Notice → Prop) (ask : Condition → ω → Readiness × ω)
    (concurrency : Option ℕ) (start : Pass ω) (s : State ω) : Prop where
  follows : Follows hears ask concurrency start (.upcoming concurrency s)
  goes : s.stopped = false

/-- The pass that comes up has the state of the run, but for the queue. -/
theorem Ready.alike (h : Ready hears ask concurrency start s) :
    Alike (Pass.upcoming concurrency s).shared s := by
  refine ⟨s.world, s.log, s.queue, ?_⟩
  have hgoes := h.goes
  cases s
  obtain rfl := hgoes
  rfl

theorem Ready.of_closes (hp : p.Placed) (hstart : Based p dryRun start)
    (hgoes : start.shared.stopped = false)
    (h : Closes ask concurrency (Follows hears ask concurrency start) .settled s)
    (hqueue : s.queue = []) : Ready hears ask concurrency start s := by
  cases h with
  | @settled q s hfollows hsettled hs =>
    obtain ⟨world, log, queue, rfl⟩ := hs
    obtain rfl : queue = [] := hqueue
    have hgoes' : q.shared.stopped = false := (hfollows.leads.stopped hp hstart).trans hgoes
    -- the pass has settled and has not been stopped, so the next one may start
    have hallowed : q.allows (.next : Move ω) = true := by
      unfold Pass.allows
      rw [hsettled, hgoes']
      rfl
    have hnext : Follows hears ask concurrency start (q.after ask concurrency .next) :=
      .move hfollows hallowed rfl nofun
    have hupcoming : Pass.upcoming concurrency { q.shared with world, log, queue := [] } =
        { q.after ask concurrency .next with
          shared := { (q.after ask concurrency .next).shared with world, log } } := by
      unfold Pass.upcoming Pass.after
      rw [← hgoes']
      rfl
    refine ⟨?_, hgoes'⟩
    rw [hupcoming]
    exact hnext.trans (.disturb _ world log)

/-- What brings a pass down is a defect, and so time has not run out. -/
theorem Closes.isDefect (hp : p.Placed) (hstart : Based p dryRun start)
    (hresults : start.results = []) {f : Fault}
    (h : Closes ask concurrency (Follows hears ask concurrency start) (.failed f) s) :
    f.isDefect = true := by
  cases h with
  | failed hfollows hf _ =>
    obtain ⟨ms, hplay, -⟩ := hfollows.leads
    exact hstart.isDefect_of_play hp hresults hplay hf

theorem Alike.noteRun (s : State ω) (level : Log.Level) (message : String)
    (fields : List (String × String)) : Alike s (noteRun level message fields s) :=
  ⟨s.world, _, s.queue, rfl⟩

section Passes

variable (hp : p.Placed) (hconform : calls.Conform p hears) (hstart : Based p dryRun start)

include hp hconform hstart

/-- How a pass ends that has an answer. -/
theorem pass_closes {now now' : ℕ} {result : Except Fault Summary}
    (h : Ready hears calls.ask options.concurrency start s)
    (hpass : pass calls options limits deadline now s = some (result, s', now')) :
    ∃ ending, Closes calls.ask options.concurrency
        (Follows hears calls.ask options.concurrency start) ending s' ∧
      (ending = .settled ∧ result = .ok s'.tracker.summary ∧ s'.queue = [] ∨
        (∃ f, ending = .failed f ∧ result = .error f) ∨
        ∃ d, deadline = some d ∧ ending = .expired ∧ result = .error (.timeout d.limit)) := by
  rcases pass_cases hpass with ⟨d, hd, rfl, rfl⟩ | ⟨ending, l, hrun, rfl, hresult⟩
  · exact ⟨.expired, .expired h.follows (.unbegun rfl) h.alike, .inr (.inr ⟨d, hd, rfl, rfl⟩)⟩
  · have hcloses := closes_run options.concurrency hp hconform
      (.start now (h.follows.leads.based hp hstart)) rfl hrun
    refine ⟨ending, (hcloses.head h.follows).alike ⟨_, _, [], rfl⟩, ?_⟩
    exact hresult.imp_left fun h => ⟨h.1, h.2, rfl⟩

/-- The loop over the passes ends a run in one of the ways in which runs conclude. -/
theorem passes_conclude (hgoes : start.shared.stopped = false) (hresults : start.results = [])
    {fuel number now sleeps : ℕ} (h : Ready hears calls.ask options.concurrency start s) :
    ConcludesFrom calls.ask options.concurrency (deadline.map (·.limit))
      (Follows hears calls.ask options.concurrency start)
      (passes calls options limits deadline fuel number now sleeps s).outcome
      (passes calls options limits deadline fuel number now sleeps s).state := by
  induction fuel generalizing number now sleeps s with
  | zero => exact .unfinished h.follows h.alike
  | succ fuel ih =>
    unfold passes
    split
    · exact .unfinished h.follows h.alike
    extract_lets sleeps'
    split
    next => exact .unfinished h.follows h.alike
    -- the pass has settled: the run is over if the aggregate result is final, and goes on after a
    -- pause if it is not
    next summary s' now' hpass =>
      obtain ⟨ending, hcloses, ⟨rfl, hsummary, hqueue⟩ | ⟨f, -, hresult⟩ | ⟨d, -, -, hresult⟩⟩ :=
        pass_closes hp hconform hstart h hpass
      · obtain rfl := Except.ok.inj hsummary
        split
        next hfinal =>
          extract_lets noted
          exact .settled (s := noted) (hcloses.alike (.noteRun ..)) hfinal
        next =>
          have hready : ∀ world, Ready hears calls.ask options.concurrency start
              { s' with world } := fun world =>
            .of_closes hp hstart hgoes (hcloses.alike ⟨world, _, _, rfl⟩) hqueue
          extract_lets sleeps'' later
          split
          · exact .unfinished (hready s'.world).follows (hready s'.world).alike
          · exact ih (hready _)
      · cases hresult
      · cases hresult
    -- the pass has ended with an error, which is a defect or the timeout
    next fault s' now' hpass =>
      extract_lets noted
      have hnoted : Alike s' noted := .noteRun ..
      obtain ⟨ending, hcloses, ⟨-, hresult, -⟩ | ⟨f, rfl, hresult⟩ | ⟨d, rfl, rfl, hresult⟩⟩ :=
        pass_closes hp hconform hstart h hpass
      · cases hresult
      · obtain rfl := Except.error.inj hresult
        rw [if_neg (Fault.not_isTimeout_of_isDefect (hcloses.isDefect hp hstart hresults))]
        exact .aborted (hcloses.alike hnoted)
      · obtain rfl := Except.error.inj hresult
        exact .expired (hcloses.alike hnoted) rfl

end Passes

/-- An executed run, with any tracker that has been told of the nodes and has the goal of the plan,
over a plan that no tracker has been attached to, gets to passes that it follows from the first one,
and ends in one of the ways in which runs end. -/
theorem run_proceeds (hp : p.Placed) (hconform : calls.Conform p hears) {tracker : Tracker}
    (hknows : ∀ n < p.nodes.length, tracker.knows n) (hgoal : tracker.goal = p.goal)
    (hfree : p.context.attached = false) (options : Options) (limits : Limits) (world : ω)
    (log : Array Log.Event) :
    ConcludesFrom calls.ask options.concurrency (options.timeout.filter (!·.isZero))
      (Follows hears calls.ask options.concurrency
        (.over p tracker options.concurrency options.dryRun world log))
      (run calls options limits tracker p world log).outcome
      (run calls options limits tracker p world log).state := by
  unfold run
  extract_lets s refused context plan timeout deadline noted
  rw [if_neg (not_not_intro hgoal), hfree, if_neg Bool.false_ne_true]
  have hbase := based_over hknows options.concurrency options.dryRun world log
  have hready : Ready hears calls.ask options.concurrency
      (.over p tracker options.concurrency options.dryRun world log) noted :=
    ⟨.disturb _ world noted.log, rfl⟩
  -- the deadline is the timeout that was asked for, unless that is zero
  have hlimit : deadline.map (·.limit) = options.timeout.filter (!·.isZero) := by
    show (timeout.map _).map _ = _
    rw [Option.map_map]
    exact Option.map_id'
  rw [← hlimit]
  exact passes_conclude hp hconform hbase rfl rfl hready

/-- An executed run, with any tracker that has been told of the nodes, is refused, or it ends in one
of the ways in which runs end. -/
theorem run_concludes (hp : p.Placed) {tracker : Tracker}
    (hknows : ∀ n < p.nodes.length, tracker.knows n) (calls : Callbacks ω) (options : Options)
    (limits : Limits) (world : ω) (log : Array Log.Event) :
    (∃ f, run calls options limits tracker p world log =
        ⟨.aborted f, { plan := p, tracker, dryRun := options.dryRun, log, world }, 0, 0, false⟩) ∨
      Concludes calls.ask options.concurrency (options.timeout.filter (!·.isZero))
        (.over p tracker options.concurrency options.dryRun world log)
        (run calls options limits tracker p world log).outcome
        (run calls options limits tracker p world log).state := by
  by_cases hgoal : tracker.goal = p.goal
  · cases hattached : p.context.attached with
    | false =>
      -- Nothing is assumed of the callbacks, so that anything may be heard of them.
      have hconform : calls.Conform p fun _ => True := .of_forall (fun _ => trivial) calls p
      have hproceeds := run_proceeds hp hconform hknows hgoal hattached options limits world log
      exact .inr (hproceeds.mono fun _ => Follows.leads)
    | true =>
      unfold run
      extract_lets s refused
      rw [if_neg (not_not_intro hgoal), hattached]
      exact .inl ⟨_, rfl⟩
  · unfold run
    extract_lets s refused
    rw [if_pos hgoal]
    exact .inl ⟨_, rfl⟩

/-! ## The law of traces -/

/-- Failing what has not finished records failures, of nodes that are not final. -/
theorem consistent_failUnfinished
    (hids : ∀ {n} {node : Node}, p.nodes[n]? = some node → node.id = n) (h : Consistent p s)
    (fault : Fault) : Consistent p (failUnfinished fault s) ∧
      ∃ late, (failUnfinished fault s).trace = s.trace ++ late ∧ ∀ t ∈ late, t.2 = .failed := by
  unfold Engine.failUnfinished
  rw [h.nodes_eq]
  refine List.foldlRecOn (motive := fun s' => Consistent p s' ∧
    ∃ late, s'.trace = s.trace ++ late ∧ ∀ t ∈ late, t.2 = .failed) p.nodes _
    ⟨h, [], (List.append_nil _).symm, nofun⟩ fun s' ⟨h', late, htrace, hlate⟩ node hmem => ?_
  obtain ⟨n, hnode⟩ := List.mem_iff_getElem?.1 hmem
  obtain rfl := hids hnode
  have hn := lt_of_node hnode
  -- the loop passes over final nodes, so every failure that it adds is a permitted one
  by_cases hfinal : s'.tracker.isFinal node.id = true
  · rw [if_pos hfinal]
    exact ⟨h', late, htrace, hlate⟩
  · rw [if_neg hfinal, run_record]
    rw [h'.isFinal_eq hn, Bool.not_eq_true] at hfinal
    refine ⟨h'.turned hn ⟨hfinal, node, hnode, .inl rfl⟩ rfl, ?_⟩
    rcases trace_turned with hturned | hturned
    · exact ⟨late, hturned.trans htrace, hlate⟩
    · refine ⟨late ++ [(node.id, .failed)], ?_, fun t ht => ?_⟩
      · rw [hturned, htrace, List.append_assoc]
      · rcases List.mem_append.1 ht with ht | ht
        · exact hlate t ht
        · rw [List.mem_singleton.1 ht]

/-- Where the state comes from that a run leaves. -/
theorem Concludes.origin {timeout : Option Duration} {outcome : Outcome}
    (h : Concludes ask concurrency timeout start outcome s) :
    ∃ q s', Reachable ask concurrency start q ∧ Alike q.shared s' ∧
      (s = s' ∨ ∃ fault, s = failUnfinished fault s') := by
  have hclosed : ∀ {ending s'}, Closes ask concurrency (Leads ask concurrency start) ending s' →
      ∃ q, Reachable ask concurrency start q ∧ Alike q.shared s' := by
    intro ending s' h
    -- only a timeout touches the state after its pass has closed
    cases h with
    | settled hleads _ hs => exact ⟨_, hleads.reachable, hs⟩
    | failed hleads _ hs => exact ⟨_, hleads.reachable, hs⟩
    | expired hleads hexpires hs =>
      exact ⟨_, reachable_of_play hleads.reachable hexpires.play_eq, hs⟩
  cases h with
  | settled hcloses _ | aborted hcloses =>
    obtain ⟨q, hreach, hs⟩ := hclosed hcloses
    exact ⟨q, s, hreach, hs, .inl rfl⟩
  | expired hcloses _ =>
    obtain ⟨q, hreach, hs⟩ := hclosed hcloses
    exact ⟨q, _, hreach, hs, .inr ⟨_, rfl⟩⟩
  | unfinished hleads hs => exact ⟨_, s, hleads.reachable, hs, .inl rfl⟩

/-- An executed run obeys the law of traces, and it is one of the interleavings: its transitions
are those of a pass that some moves lead to, but for failures that are recorded at the end. -/
theorem execute_interleaves (hp : p.attach.Runnable) (calls : Callbacks ω) (options : Options)
    (limits : Limits) (world : ω) (log : Array Log.Event) :
    ∃ q late, Reachable calls.ask options.concurrency
        (.first p options.concurrency options.dryRun world log) q ∧
      Lawful p.attach (execute calls options limits p world log).state.trace ∧
      (execute calls options limits p world log).state.trace = q.shared.trace ++ late ∧
      ∀ t ∈ late, t.2 = .failed := by
  have hplaced : p.Placed := ⟨hp.toSound.placed.id_eq, hp.toSound.placed.bodiless⟩
  unfold execute
  rcases run_concludes hplaced (knows_ofInfos hplaced options.dryRun) calls options limits world log
    with ⟨f, hrun⟩ | hconcludes
  · -- A run that is refused leaves an empty trace, as the first pass has one.
    rw [hrun]
    exact ⟨_, [], .start, .nil, rfl, nofun⟩
  · obtain ⟨q, s, hreach, ⟨world', log', queue, rfl⟩, hs⟩ := hconcludes.origin
    have hconsistent := ((hreach.steady hp).consistent.withWorld world' log').withQueue queue
    refine ⟨q, ?_⟩
    rcases hs with hs | ⟨fault, hs⟩
    · rw [hs]
      exact ⟨[], hreach, hconsistent.lawful, (List.append_nil _).symm, nofun⟩
    · obtain ⟨hfailed, late, htrace, hlate⟩ :=
        consistent_failUnfinished hp.id_eq hconsistent fault
      rw [hs]
      exact ⟨late, hreach, hfailed.lawful, htrace, hlate⟩

end Engine

end Rollout
