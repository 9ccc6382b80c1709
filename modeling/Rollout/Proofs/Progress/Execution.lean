import Rollout.Proofs.Engine.Schedule
import Rollout.Proofs.Plan.Goals
import Rollout.Proofs.Progress.Trial

/-!
# What executed runs come to

What holds of all interleavings is read off here for runs that are executed.  A run of a plan that
has been built is not refused (`execute_proceeds`).  It panics if and only if its limiter would have
to hold too many permits (`execute_panics_iff`).  If no callback breaks down or raises a defect then
it is not aborted either (`execute_not_aborted`), and if the callbacks keep to their conduct then it
ends as the graph foretells, provided that it ends (`execute_fulfilled`).
-/

namespace Rollout.Engine

open Rollout.Plan

variable {ω : Type} {d : Deployment} {p : Plan} {c : Conduct} {start q : Pass ω} {s : State ω}
  {calls : Callbacks ω} {ask : Condition → ω → Readiness × ω} {concurrency : Option Nat}
  {timeout : Option Duration} {options : Options} {limits : Limits} {deadline : Option Deadline}
  {hears : Notice → Prop} {dryRun : Bool} {world : ω} {log : Array Log.Event} {tracker : Tracker}

/-! ## Panics -/

theorem overdraws_of_holdable (h : options.holdable = true) (now : ℕ) :
    overdraws options deadline now = false := by
  unfold overdraws
  rw [h]
  rfl

/-- If the first of some passes does not panic then none does. -/
theorem panicked_passes {fuel number now sleeps : ℕ}
    (h : overdraws options deadline now = false) :
    (passes calls options limits deadline fuel number now sleeps s).panicked = false := by
  induction fuel generalizing number now sleeps s with
  | zero => rfl
  | succ fuel ih =>
    unfold passes
    rw [h, if_neg Bool.false_ne_true]
    extract_lets sleeps'
    split
    · rfl
    next summary s' now' hpass =>
      split
      · rfl
      · extract_lets sleeps'' later
        split
        · rfl
        · refine ih ?_
          cases hholds : options.holdable with
          | true => exact overdraws_of_holdable hholds _
          | false =>
            -- The time was up before this pass, so that it has not settled.
            cases deadline with
            | none =>
              unfold overdraws at h
              rw [hholds] at h
              cases h
            | some due =>
              unfold overdraws at h
              rw [hholds] at h
              have hlate : due.due ≤ now := by simpa using h
              simp only [pass, if_pos hlate] at hpass
              cases hpass
    next fault s' now' hpass =>
      extract_lets noted
      split <;> rfl

theorem panicked_passes_iff {fuel number now sleeps : ℕ} :
    (passes calls options limits deadline fuel number now sleeps s).panicked = true ↔
      fuel ≠ 0 ∧ overdraws options deadline now = true := by
  cases hfirst : overdraws options deadline now with
  | false =>
    rw [panicked_passes hfirst]
    exact ⟨nofun, nofun⟩
  | true =>
    cases fuel with
    | zero => exact ⟨nofun, fun h => absurd rfl h.1⟩
    | succ fuel =>
      unfold passes
      rw [hfirst, if_pos rfl]
      exact ⟨fun _ => ⟨Nat.succ_ne_zero fuel, rfl⟩, fun _ => rfl⟩

/-- What panics comes to nothing. -/
theorem unfinished_of_panicked {fuel number now sleeps : ℕ}
    (h : (passes calls options limits deadline fuel number now sleeps s).panicked = true) :
    (passes calls options limits deadline fuel number now sleeps s).outcome = .unfinished := by
  obtain ⟨hfuel, hfirst⟩ := panicked_passes_iff.1 h
  obtain ⟨fuel, rfl⟩ := Nat.exists_eq_succ_of_ne_zero hfuel
  unfold passes
  rw [hfirst, if_pos rfl]

/-- Whether the first pass of a run panics. -/
theorem overdraws_iff : overdraws options (timeout.map fun limit => ⟨limit.toMillis, limit⟩) 0 =
    true ↔ options.holdable = false ∧ ∀ limit ∈ timeout, limit.toMillis ≠ 0 := by
  unfold overdraws
  rw [Bool.and_eq_true, Bool.not_eq_true', Bool.not_eq_true']
  refine and_congr_right fun _ => ?_
  cases timeout with
  | none => exact ⟨nofun, fun _ => rfl⟩
  | some limit =>
    rw [Option.map_some, Option.any_some, decide_eq_false_iff_not, Nat.le_zero]
    exact ⟨fun h _ hlimit => Option.some.inj hlimit ▸ h, fun h => h limit rfl⟩

/-- A run that is not refused panics, unless it is given up before its first pass, if and only if
that pass would have to hold too many permits and finds some time left. -/
theorem run_panics_iff (hgoal : tracker.goal = p.goal) (hfree : p.context.attached = false) :
    (run calls options limits tracker p world log).panicked = true ↔
      options.holdable = false ∧ limits.rounds ≠ 0 ∧
        ∀ limit ∈ options.timeout.filter (!·.isZero), limit.toMillis ≠ 0 := by
  unfold run
  extract_lets s refused context plan timeout deadline noted
  rw [if_neg (not_not_intro hgoal), hfree, if_neg Bool.false_ne_true, panicked_passes_iff,
    overdraws_iff]
  exact and_left_comm

theorem run_unfinished_of_panicked
    (h : (run calls options limits tracker p world log).panicked = true) :
    (run calls options limits tracker p world log).outcome = .unfinished := by
  unfold run at h ⊢
  extract_lets at h ⊢
  split at h
  · cases h
  · split at h
    · cases h
    · rw [if_neg ‹_›, if_neg ‹_›]
      exact unfinished_of_panicked h

section Built

variable (hplan : d.plan = .ok p)

include hplan

theorem execute_panics_iff : (execute calls options limits p world log).panicked = true ↔
    options.holdable = false ∧ limits.rounds ≠ 0 ∧
      ∀ limit ∈ options.timeout.filter (!·.isZero), limit.toMillis ≠ 0 :=
  run_panics_iff (Tracker.goal_ofInfos ..) (unattached_of_plan hplan)

/-- A run with a tracker of its own is not refused: the tracker has the goal of the plan, and nobody
has attached one before. -/
theorem execute_proceeds (hconform : calls.Conform p hears) (options : Options) (limits : Limits)
    (world : ω) (log : Array Log.Event) :
    ConcludesFrom calls.ask options.concurrency (options.timeout.filter (!·.isZero))
      (Follows hears calls.ask options.concurrency
        (.first p options.concurrency options.dryRun world log))
      (execute calls options limits p world log).outcome
      (execute calls options limits p world log).state :=
  have hplaced : p.Placed := (built_of_plan hplan).sound.placed
  run_proceeds hplaced hconform (knows_ofInfos hplaced options.dryRun) (Tracker.goal_ofInfos ..)
    (unattached_of_plan hplan) options limits world log

/-! ## No run is aborted -/

theorem intact_of_follows (hown : d.OwnEdges)
    (h : Follows Notice.Sound ask concurrency (.first p concurrency dryRun world log) q) :
    Intact p.attach q := by
  have hbuilt := built_of_plan hplan
  induction h with
  | refl => exact intact_first hbuilt concurrency dryRun world log
  | move h hallowed _ hheard ih =>
    exact ih.after hbuilt hown (h.leads.reachable.steady_of_plan hplan).2 hheard hallowed

/-- A run that hears only sound answers is not aborted, whatever the order in which evaluations go
on and callbacks answer, however many passes it makes, and whenever the deadline passes. -/
theorem ConcludesFrom.not_aborted (hown : d.OwnEdges) {outcome : Outcome}
    (h : ConcludesFrom ask concurrency timeout
      (Follows Notice.Sound ask concurrency (.first p concurrency dryRun world log)) outcome s)
    (f : Fault) : outcome ≠ .aborted f := by
  rintro rfl
  cases h with
  | aborted hcloses =>
    cases hcloses with
    | failed hfollows hf _ =>
      have hfine := (intact_of_follows hplan hown hfollows).fine _ hf
      cases hfine

theorem execute_not_aborted (hown : d.OwnEdges) (hconform : calls.Conform p Notice.Sound)
    (options : Options) (limits : Limits) (world : ω) (log : Array Log.Event) (f : Fault) :
    (execute calls options limits p world log).outcome ≠ .aborted f :=
  (execute_proceeds hplan hconform options limits world log).not_aborted hplan hown f

end Built

/-! ## Runs end as the graph foretells -/

/-- The run is over: those nodes have failed that can reach a node that fails, and all others are at
their goals. -/
structure Conduct.Fulfilled (c : Conduct) (p : Plan) (t : Tracker) : Prop where
  final : t.summary.outcome.isFinal = true
  failed_iff : ∀ n node, p.nodes[n]? = some node → (t.status n = .failed ↔ c.Doomed p n)
  at_goal : ∀ n node, p.nodes[n]? = some node → ¬c.Doomed p n → t.status n = node.goal.status

section Conducted

variable (hplan : d.plan = .ok p)

include hplan

theorem Underway.fulfilled
    (h : Underway c p ask concurrency (.first p concurrency false world log) q)
    (hfinal : q.shared.tracker.summary.outcome.isFinal = true) :
    c.Fulfilled p q.shared.tracker where
  final := hfinal
  failed_iff _ _ hnode := (h.decided hplan hfinal hnode).1
  at_goal _ _ hnode := (h.decided hplan hfinal hnode).2

variable (hown : d.OwnEdges) (hgoals : p.SharesGoals) (hsound : c.Sound)

include hown hgoals hsound

theorem underway_of_follows
    (h : Follows c.Bears ask concurrency (.first p concurrency false world log) q) :
    Underway c p ask concurrency (.first p concurrency false world log) q := by
  have hbuilt := built_of_plan hplan
  induction h with
  | refl => exact underway_first hbuilt c ask concurrency world log
  | move _ hallowed hstops hheard ih =>
    exact ih.after_of_steady hbuilt (ih.steady hplan) hown hgoals hallowed
      (fun notice hnotice => (hheard notice hnotice).sound hsound) hheard hstops

theorem ConcludesFrom.fulfilled {summary : Summary}
    (h : ConcludesFrom ask concurrency none
      (Follows c.Bears ask concurrency (.first p concurrency false world log))
      (.completed summary) s) : c.Fulfilled p s.tracker := by
  cases h with
  | settled hcloses hfinal =>
    cases hcloses with
    | settled hfollows _ hs =>
      obtain ⟨_, _, _, rfl⟩ := hs
      exact (underway_of_follows hplan hown hgoals hsound hfollows).fulfilled hplan hfinal
  | expired _ hlimit => cases hlimit

/-- An executed run without a deadline, whose callbacks keep to their conduct, does not panic if its
limiter can hold the permits, and is not aborted; when it completes, the graph has foretold how. -/
theorem execute_fulfilled (hconform : calls.Conform p c.Bears) (hholds : options.holdable = true)
    (hdry : options.dryRun = false) (htimeout : options.timeout.filter (!·.isZero) = none) :
    (execute calls options limits p world log).panicked = false ∧
      (∀ f, (execute calls options limits p world log).outcome ≠ .aborted f) ∧
      ∀ summary, (execute calls options limits p world log).outcome = .completed summary →
        c.Fulfilled p (execute calls options limits p world log).state.tracker := by
  have hheard : calls.Conform p Notice.Sound := hconform.mono fun _ h => h.sound hsound
  refine ⟨?_, execute_not_aborted hplan hown hheard options limits world log, fun summary h => ?_⟩
  · cases hpanicked : (execute calls options limits p world log).panicked with
    | false => rfl
    | true =>
      have hnot := ((execute_panics_iff hplan).1 hpanicked).1
      rw [hholds] at hnot
      cases hnot
  · have hproceeds := execute_proceeds hplan hconform options limits world log
    rw [h, hdry, htimeout] at hproceeds
    exact hproceeds.fulfilled hplan hown hgoals hsound

end Conducted

end Rollout.Engine
