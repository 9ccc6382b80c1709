import Mathlib.Algebra.Order.BigOperators.Group.Finset
import Mathlib.Data.Fintype.Prod
import Mathlib.Data.Prod.Lex
import Mathlib.Order.WellFounded
import Rollout.Proofs.Progress.Descent
import Rollout.Proofs.Progress.Effort
import Rollout.Proofs.Progress.Execution

/-!
# Every run comes to its end

When callbacks keep to their conduct, every run ends, in whatever order evaluations go on, and its
outcome is the one that the graph foretells (`Conduct.Fulfilled`).  Three things bring a run nearer
to its end, and the first counts most: a node goes forward or its completion check has waited once
more; a ripe node comes up for evaluation; the tasks there are go on.
-/

namespace Rollout.Engine

open Rollout.Plan

/-- The goal is reached, whatever steps are taken. -/
inductive Inevitably {α : Type} (step : α → α → Prop) (goal : α → Prop) : α → Prop where
  | done {a : α} (h : goal a) : Inevitably step goal a
  | later {a : α} (hgo : ∃ b, step a b) (h : ∀ b, step a b → Inevitably step goal b) :
      Inevitably step goal a

/-- What does not get stuck before the goal, and comes nearer to something with every step, reaches
the goal. -/
theorem Inevitably.of_measure {α β : Type} [LT β] [WellFoundedLT β] {step : α → α → Prop}
    {goal : α → Prop} (inv : α → Prop) (measure : α → β)
    (hgo : ∀ a, inv a → goal a ∨ ∃ b, step a b)
    (hstep : ∀ a b, inv a → step a b → inv b ∧ measure b < measure a) {a : α} (ha : inv a) :
    Inevitably step goal a := by
  induction a using (InvImage.wf measure wellFounded_lt).induction with
  | _ a ih =>
    rcases hgo a ha with hgoal | hmore
    · exact .done hgoal
    · refine .later hmore fun b hb => ?_
      obtain ⟨hb', hlt⟩ := hstep a b ha hb
      exact ih b hlt hb'

theorem Inevitably.mono {α : Type} {step : α → α → Prop} {goal goal' : α → Prop} {a : α}
    (h : Inevitably step goal a) (hgoal : ∀ b, goal b → goal' b) : Inevitably step goal' a := by
  induction h with
  | done h => exact .done (hgoal _ h)
  | later hgo _ ih => exact .later hgo ih

variable {ω : Type} {d : Deployment} {p : Plan} {c : Conduct} {start q q' q₁ : Pass ω} {n : NodeId}
  {k : Task} {ask : Condition → ω → Readiness × ω} {concurrency : Option Nat}
  {left left' : NodeId → ℕ} {segment : StateM (State ω) Progress} {m : Move ω} {world : ω}
  {log : Array Log.Event}

/-! ## How far a run is from its end -/

/-- How often nodes may still go forward, and completion checks are still going to wait. -/
def Trial.outstanding (p : Plan) (t : Trial ω) : ℕ :=
  ∑ n ∈ Finset.range p.nodes.length, ((statusAfter t.pass.shared.trace n).ahead + t.left n)

/-- None of the nodes that the pass is going to look at is ripe. -/
def Trial.Idle (p : Plan) (t : Trial ω) : Prop :=
  ∀ n, p.Ripe (statusAfter t.pass.shared.trace) n → ¬t.pass.Pending n

/-- How much there is to do with the queue and the tasks. -/
def Trial.work (t : Trial ω) : ℕ := 14 * t.pass.shared.queue.length + t.pass.effort

/-- How far a run is from its end. -/
def Trial.measure (p : Plan) (t : Trial ω) : ℕ ×ₗ Prop ×ₗ ℕ :=
  toLex (t.outstanding p, toLex (t.Idle p, t.work))

theorem Trial.measure_lt {t t' : Trial ω} (hle : t'.outstanding p ≤ t.outstanding p)
    (hsame : t'.outstanding p = t.outstanding p →
      (t'.Idle p → t.Idle p) ∧ t'.work < t.work) : t'.measure p < t.measure p := by
  refine Prod.Lex.toLex_lt_toLex.2 ((Nat.lt_or_eq_of_le hle).imp_right fun heq => ⟨heq, ?_⟩)
  obtain ⟨hidle, hwork⟩ := hsame heq
  have hle' : t'.Idle p ≤ t.Idle p := hidle
  exact Prod.Lex.toLex_lt_toLex.2 (hle'.lt_or_eq.imp_right fun heq' => ⟨heq', hwork⟩)

section Falls

variable (h : Falls q.shared q'.shared)

include h

theorem outstanding_le (hleft : left' ≤ left) :
    Trial.outstanding p ⟨q', left'⟩ ≤ Trial.outstanding p ⟨q, left⟩ :=
  Finset.sum_le_sum fun m _ => Nat.add_le_add (h.le m) (hleft m)

theorem outstanding_lt (hleft : left' ≤ left) (hn : n < p.nodes.length)
    (hlt : (statusAfter q'.shared.trace n).ahead + left' n <
      (statusAfter q.shared.trace n).ahead + left n) :
    Trial.outstanding p ⟨q', left'⟩ < Trial.outstanding p ⟨q, left⟩ :=
  Finset.sum_lt_sum (fun m _ => Nat.add_le_add (h.le m) (hleft m)) ⟨n, Finset.mem_range.2 hn, hlt⟩

/-- If nothing has gone forward then every ripe node is as ripe as it was. -/
theorem ripe_of_outstanding_eq
    (heq : Trial.outstanding p ⟨q', left⟩ = Trial.outstanding p ⟨q, left⟩)
    (hn : p.Ripe (statusAfter q.shared.trace) n) : p.Ripe (statusAfter q'.shared.trace) n := by
  have hall := (Finset.sum_eq_sum_iff_of_le fun m _ => Nat.add_le_add_right (h.le m) _).1 heq
  exact hn.of_same (Nat.add_right_cancel (hall n (Finset.mem_range.2 hn.lt))) h.final

end Falls

/-! ## Segments bring a run nearer to its end -/

/-- Whatever the pass was going to look at it still is, but perhaps for the node at work. -/
theorem Pass.Pending.runSegment (h : q.Pending n) (hk : q.task? k.id = some k)
    (hqueue : (segment.run q.shared).2.queue = q.shared.queue) :
    (q.runSegment k segment).Pending n ∨
      n = k.node ∧ ∀ pause, (segment.run q.shared).1 ≠ .paused pause := by
  unfold Pass.Pending
  rw [Pass.runSegment_shared, hqueue]
  rcases h with hn | ⟨t, j, hj, rfl⟩
  · exact .inl (.inl hn)
  · by_cases ht : t = k.id
    · subst ht
      obtain rfl := Option.some.inj (hk.symm.trans hj)
      rcases runSegment_ended hk segment with ⟨-, -, i, hi, hnode⟩ | ⟨r, hended, -⟩
      · exact .inl (.inr ⟨_, i, hi, hnode⟩)
      · exact .inr ⟨rfl, by rw [hended]; exact nofun⟩
    · obtain ⟨i, hi, hnode⟩ := runSegment_others ht hj segment
      exact .inl (.inr ⟨t, i, hi, hnode⟩)

section Segment

variable (hq : Rearranged q q₁) (hk : q₁.task? k.id = some k)
  (heffort : (q₁.runSegment k segment).effort < q.effort)

include hq hk heffort

omit hk in
theorem work_lt (hqueue : (segment.run q.shared).2.queue = q.shared.queue) :
    Trial.work ⟨q₁.runSegment k segment, left⟩ < Trial.work ⟨q, left⟩ := by
  unfold Trial.work
  rw [Pass.runSegment_shared, hq.shared, hqueue]
  exact Nat.add_lt_add_left heffort _

/-- A segment that takes its node forward, or pauses. -/
theorem measure_lt_of_descends (hn : k.node < p.nodes.length)
    (h : Descends k.node q.shared (segment.run q.shared).1 (segment.run q.shared).2) :
    Trial.measure p ⟨q₁.runSegment k segment, left⟩ < Trial.measure p ⟨q, left⟩ := by
  have hshared : (q₁.runSegment k segment).shared = (segment.run q.shared).2 := by
    rw [Pass.runSegment_shared, hq.shared]
  have hfalls : Falls q.shared (q₁.runSegment k segment).shared := hshared ▸ h.toFalls
  refine Trial.measure_lt (outstanding_le hfalls le_rfl) fun heq => ?_
  rcases h.gain with hlt | ⟨hqueue, pause, hpaused⟩
  · rw [← hshared] at hlt
    have hless := outstanding_lt hfalls (le_refl left) hn (Nat.add_lt_add_right hlt _)
    exact absurd heq (Nat.ne_of_lt hless)
  · refine ⟨fun hidle m hripe hpending => ?_, work_lt hq heffort hqueue⟩
    rw [← hq.shared] at hqueue hpaused
    refine hidle m (ripe_of_outstanding_eq hfalls heq hripe) ?_
    exact ((hpending.rearranged hq).runSegment hk hqueue).resolve_right fun hover =>
      hover.2 pause hpaused

/-- A segment that finds that its node was not ripe. -/
theorem measure_lt_of_quiet (htrace : (segment.run q.shared).2.trace = q.shared.trace)
    (hqueue : (segment.run q.shared).2.queue = q.shared.queue)
    (hripe : ¬p.Ripe (statusAfter q.shared.trace) k.node) :
    Trial.measure p ⟨q₁.runSegment k segment, left⟩ < Trial.measure p ⟨q, left⟩ := by
  have hshared : (q₁.runSegment k segment).shared = (segment.run q.shared).2 := by
    rw [Pass.runSegment_shared, hq.shared]
  have hfalls : Falls q.shared (q₁.runSegment k segment).shared :=
    .of_trace (by rw [hshared, htrace])
  refine Trial.measure_lt (outstanding_le hfalls le_rfl) fun heq => ?_
  refine ⟨fun hidle m hm hpending => ?_, work_lt hq heffort hqueue⟩
  rw [← hq.shared] at hqueue
  refine hidle m (ripe_of_outstanding_eq hfalls heq hm) ?_
  exact ((hpending.rearranged hq).runSegment hk hqueue).resolve_right fun hover =>
    hripe (hover.1 ▸ hm)

end Segment

/-! ## Moves bring a run nearer to its end -/

namespace Underway

section Moves

variable (hbuilt : p.Built d) (hsteady : Steady p.attach q)
  (h : Underway c p ask concurrency start q)

include hbuilt hsteady h

theorem measure_resume (hplain : d.Unconditional) {t : TaskId} (ht : t ∈ q.runnable) :
    Trial.measure p ⟨q.resume ask t, left⟩ < Trial.measure p ⟨q, left⟩ := by
  have hp := runnable_attach hbuilt
  have heffort := Pass.effort_resume ask hsteady.locks h.ids ht
  rcases resume_cases ask hsteady t with hq | ⟨q₁, k, hq, htask, hk, hrun, -, -⟩
  · -- The task has got in line.
    have hfalls : Falls q.shared (q.resume ask t).shared := .of_trace (by rw [hq.shared])
    refine Trial.measure_lt (outstanding_le hfalls le_rfl) fun heq =>
      ⟨fun hidle m hm hpending => ?_, ?_⟩
    · exact hidle m (ripe_of_outstanding_eq hfalls heq hm) (hpending.rearranged hq)
    · unfold Trial.work
      rw [hq.shared]
      exact Nat.add_lt_add_left heffort _
  · rw [hrun] at heffort ⊢
    obtain ⟨node, hnode, hid⟩ := h.node_of_task hbuilt htask
    rw [hid] at heffort ⊢
    have hbegun := begun_begin hp hsteady.consistent hnode ask h.running
    rcases hbegun.descends hbuilt hplain h.verdict.closed h.intact.mirrors h.running with
      hdescends | ⟨htrace, hqueue, hripe⟩
    · exact measure_lt_of_descends hq hk.task heffort (hid ▸ lt_of_node hnode) (hid ▸ hdescends)
    · exact measure_lt_of_quiet hq hk.task heffort htrace hqueue (hid ▸ hripe)

theorem measure_ended {t : TaskId} (ht : q.bodyOf? t = some n) :
    Trial.measure p ⟨q.answerBody t (.reply (c.body n)), left⟩ < Trial.measure p ⟨q, left⟩ := by
  have heffort := hsteady.locks.effort_answerBody h.ids ht (.reply (c.body n))
  obtain ⟨b, hpaused⟩ := Pass.bodyOf?_eq_some.1 ht
  obtain ⟨node, hnode, hid, hn, -, -⟩ := h.node_of_paused hbuilt hsteady hpaused
  obtain ⟨k, hk, rfl, rfl, -, hanswer⟩ := hsteady.locks.answerBody_eq ht
  rw [hanswer] at heffort ⊢
  have hp := runnable_attach hbuilt
  have hended := ended_resumeBody hp hsteady.consistent hnode hn (c.body k.node)
  have hdescends := hended.descends h.running hn
  rw [← hid] at hdescends hnode
  exact measure_lt_of_descends (rearranged_refl hsteady) hk.task heffort (lt_of_node hnode)
    hdescends

theorem measure_answered {t : TaskId} (ht : q.checkOf? t = some n) :
    Trial.measure p ⟨q.answerCheck t (c.answer n), left⟩ < Trial.measure p ⟨q, left⟩ := by
  obtain ⟨b, hpaused⟩ := Pass.checkOf?_eq_some.1 ht
  obtain ⟨node, hnode, hid, hn, -, -⟩ := h.node_of_paused hbuilt hsteady hpaused
  have hchecked := checked_resumeCheck (runnable_attach hbuilt) hsteady.consistent hnode hn
    ((c.check n).map fun _ => .ready)
  have hdescends := hchecked.descends h.running hn fun pending => by
    cases c.check n <;> exact nofun
  rw [← hid] at hchecked hdescends hnode
  have heffort := hsteady.locks.effort_answerCheck h.ids ht hchecked.not_paused
  obtain ⟨k, hk, rfl, rfl, -, hanswer⟩ := hsteady.locks.answerCheck_eq ht
  have hrun : q.answerCheck k.id (c.answer k.node) =
    q.runSegment k (resumeCheck k.node (c.answer k.node)) := hanswer _
  rw [hanswer] at heffort
  rw [hrun]
  exact measure_lt_of_descends (rearranged_refl hsteady) hk.task heffort (lt_of_node hnode)
    hdescends

/-- Nothing changes when a completion check waits, but it is going to wait once less. -/
theorem measure_waits {t : TaskId} (ht : q.checkOf? t = some n) (hleft : left n ≠ 0)
    (pending : List Diagnostic) :
    Trial.measure p ⟨q.answerCheck t (.reply (.ok (.waiting pending))),
        Function.update left n (left n - 1)⟩ < Trial.measure p ⟨q, left⟩ := by
  obtain ⟨b, hpaused⟩ := Pass.checkOf?_eq_some.1 ht
  obtain ⟨node, hnode, hid, hn, -, -⟩ := h.node_of_paused hbuilt hsteady hpaused
  have hchecked := checked_resumeCheck (runnable_attach hbuilt) hsteady.consistent hnode hn
    (.ok (.waiting pending))
  obtain ⟨k, hk, rfl, rfl, -, hanswer⟩ := hsteady.locks.answerCheck_eq ht
  rw [← hid] at hchecked hnode
  have htrace : (q.answerCheck k.id (.reply (.ok (.waiting pending)))).shared.trace =
      q.shared.trace := by
    rw [hanswer, Pass.runSegment_shared]
    exact hchecked.trace_of_waiting
  have hless : Function.update left k.node (left k.node - 1) ≤ left :=
    update_le_self_iff.2 (Nat.sub_le _ _)
  have hlt := outstanding_lt (.of_trace htrace) hless (lt_of_node hnode) (by
    rw [htrace, Function.update_self]
    omega)
  exact Trial.measure_lt (Nat.le_of_lt hlt) fun heq => absurd heq (Nat.ne_of_lt hlt)

omit hbuilt h in
/-- Nodes get their tasks. -/
theorem measure_spawn (hqueue : q.shared.queue ≠ []) :
    Trial.measure p ⟨q.spawn, left⟩ < Trial.measure p ⟨q, left⟩ := by
  obtain ⟨hq, htasks⟩ := rearranged_spawn hsteady.locks
  have hshared : q.spawn.shared = { q.shared with queue := [] } := hq.shared
  have hfalls : Falls q.shared q.spawn.shared := .of_trace (by rw [hshared]; rfl)
  refine Trial.measure_lt (outstanding_le hfalls le_rfl) fun heq =>
    ⟨fun hidle m hm hpending => ?_, ?_⟩
  · refine hidle m (ripe_of_outstanding_eq hfalls heq hm) (.inr ?_)
    rcases hpending with hmem | ⟨t, j, hj, hnode⟩
    · exact htasks m hmem
    · obtain ⟨i, hi, hsame⟩ := hq.kept hj
      exact ⟨t, i, hi, hsame.trans hnode⟩
  · have heffort := Pass.effort_spawn q
    have hpos := List.length_pos_of_ne_nil hqueue
    have hnone : q.spawn.shared.queue = [] := by rw [hshared]
    unfold Trial.work
    simp only [hnone, List.length_nil]
    omega

omit hbuilt hsteady h in
theorem measure_collect {r : Except Fault Unit} (hr : q.results.head? = some r) :
    Trial.measure p ⟨{ q with results := q.results.tail }, left⟩ < Trial.measure p ⟨q, left⟩ :=
  Trial.measure_lt (Nat.le_refl _) fun _ =>
    ⟨id, Nat.add_lt_add_left (Pass.effort_collect hr) _⟩

omit hbuilt hsteady h in
/-- The next pass begins with a ripe node. -/
theorem measure_next (hsettled : q.settled = true)
    (hleaf : ∃ n ∈ q.shared.plan.leaves, p.Ripe (statusAfter q.shared.trace) n) :
    Trial.measure p ⟨q.after ask concurrency .next, left⟩ < Trial.measure p ⟨q, left⟩ := by
  obtain ⟨n, hn, hripe⟩ := hleaf
  have hidle : Trial.Idle p ⟨q, left⟩ := fun _ _ => not_pending_of_settled hsettled
  have hbusy : ¬Trial.Idle p ⟨q.after ask concurrency .next, left⟩ := fun hidle =>
    hidle n hripe (.inl hn)
  have hlt : Trial.Idle p ⟨q.after ask concurrency .next, left⟩ < Trial.Idle p ⟨q, left⟩ :=
    lt_of_le_not_ge (fun hafter => absurd hafter hbusy) fun hle => hbusy (hle hidle)
  refine Prod.Lex.toLex_lt_toLex.2 (.inr ⟨rfl, ?_⟩)
  exact Prod.Lex.toLex_lt_toLex.2 (.inl hlt)

end Moves

/-- Every move brings a run nearer to its end. -/
theorem measure_after (hplan : d.plan = .ok p) (hcheck : p.check = .ok ()) (hown : d.OwnEdges)
    (hplain : d.Unconditional) (hgoals : p.SharesGoals)
    (h : Underway c p ask concurrency (.first p concurrency false world log) q)
    (hplays : c.Plays q left m left') :
    Trial.measure p ⟨q.after ask concurrency m, left'⟩ < Trial.measure p ⟨q, left⟩ := by
  have hbuilt := built_of_plan hplan
  have hsteady := h.steady hplan
  cases hplays with
  | spawn hqueue => exact measure_spawn hsteady hqueue
  | resume ht => exact h.measure_resume hbuilt hsteady hplain ht
  | ended ht => exact h.measure_ended hbuilt hsteady ht
  | waits ht hleft pending => exact h.measure_waits hbuilt hsteady ht hleft pending
  | answered ht hleft => exact h.measure_answered hbuilt hsteady ht
  | collect hr => exact measure_collect hr
  | next hsettled hopen =>
    exact measure_next hsettled
      (h.exists_ripe_leaf hplan hcheck hown hplain hgoals hsettled hopen)

end Underway

/-! ## All runs -/

/-- A step of a run whose callbacks keep to their conduct is one that may be heard. -/
theorem follows_step {t t' : Trial ω} (hplan : d.plan = .ok p) (hown : d.OwnEdges)
    (hgoals : p.SharesGoals) (hsound : c.Sound)
    (h : Follows c.Bears ask concurrency (.first p concurrency false world log) t.pass)
    (hstep : Trial.Step c ask concurrency t t') :
    Follows c.Bears ask concurrency (.first p concurrency false world log) t'.pass := by
  obtain ⟨world', log', hplays⟩ := hstep
  have hnow := h.trans (.disturb t.pass world' log')
  have hrunning := (underway_of_follows hplan hown hgoals hsound hnow).running
  exact .move hnow (hplays.allowed hrunning) hplays.stops hplays.heard

/-- A plan that is accepted, whose relations ask no conditions and have no edges but those that
start at their own elements, and in which work has the goal of the elements it acts for, is run to
its end without a deadline, whatever the order in which evaluations go on and callbacks answer,
however many evaluations may be in flight that a limiter can hold, and however often completion
checks wait.  In the end those nodes have failed that can reach a node whose body or completion
check fails.  A run that is executed neither panics nor is it aborted, and it ends in this way as
well, provided that it is not given up. -/
theorem every_run_is_fulfilled {options : Options} (hplan : d.plan = .ok p)
    (hcheck : p.check = .ok ()) (hown : d.OwnEdges) (hplain : d.Unconditional)
    (hgoals : p.SharesGoals) (hsound : c.Sound) (hholds : options.holdable = true)
    (hdry : options.dryRun = false) (htimeout : options.timeout.filter (!·.isZero) = none) :
    (∀ (ask : Condition → ω → Readiness × ω) (world : ω) (log : Array Log.Event)
        (left : NodeId → ℕ),
      Inevitably (Trial.Step c ask options.concurrency)
        (fun t => c.Fulfilled p t.pass.shared.tracker ∧
          ConcludesFrom ask options.concurrency none
            (Follows c.Bears ask options.concurrency
              (.first p options.concurrency false world log))
            (.completed t.pass.shared.tracker.summary) t.pass.shared)
        ⟨.first p options.concurrency false world log, left⟩) ∧
    ∀ calls : Callbacks ω, calls.Conform p c.Bears →
      ∀ (limits : Limits) (world : ω) (log : Array Log.Event),
        (execute calls options limits p world log).panicked = false ∧
          (∀ f, (execute calls options limits p world log).outcome ≠ .aborted f) ∧
          ∀ summary, (execute calls options limits p world log).outcome = .completed summary →
            c.Fulfilled p (execute calls options limits p world log).state.tracker := by
  refine ⟨fun ask world log left => ?_, fun calls hconform limits world log =>
    execute_fulfilled hplan hown hgoals hsound hconform hholds hdry htimeout⟩
  refine Inevitably.of_measure
    (fun t => Follows c.Bears ask options.concurrency
      (.first p options.concurrency false world log) t.pass)
    (Trial.measure p) (fun t hfollows => ?_) (fun t t' hfollows hstep => ?_) .refl
  · have h := underway_of_follows hplan hown hgoals hsound hfollows
    have hnow := h.disturb hplan hown hgoals t.pass.shared.world t.pass.shared.log
    rcases hnow.goes_on t.left with ⟨hsettled, hfinal⟩ | ⟨m, left', hplays⟩
    · exact .inl ⟨h.fulfilled hplan hfinal, .settled (.settled hfollows hsettled (.refl _)) hfinal⟩
    · exact .inr ⟨_, .move _ _ hplays⟩
  · refine ⟨follows_step hplan hown hgoals hsound hfollows hstep, ?_⟩
    have h := underway_of_follows hplan hown hgoals hsound hfollows
    obtain ⟨world', log', hplays⟩ := hstep
    have hnow := h.disturb hplan hown hgoals world' log'
    exact hnow.measure_after hplan hcheck hown hplain hgoals hplays

/-- Every body breaks. -/
def breaking : Conduct where
  body _ := .error (.text "broken" none)
  check _ := .ok ()

/-- Callbacks that keep to this. -/
def breakers : Callbacks Bool where
  ask := gate
  body _ := .done (.reply (.error (.text "broken" none)))
  check _ _ := .done (.reply (.ok .ready))
  setClock _ isOpen := isOpen

theorem sound_breaking : breaking.Sound := by
  rintro n f (hf | hf)
  · rw [← Except.error.inj hf]
    rfl
  · cases hf

theorem conform_breakers (p : Plan) : breakers.Conform p breaking.Bears where
  body _ _ := .done rfl
  check _ _ := .done (.inr rfl)

theorem unconditional_installed : installed.Unconditional := by
  intro e he g r hr
  obtain ⟨-, rfl⟩ := relation_installed he hr
  rfl

theorem sharesGoals_installed : (planned installed).SharesGoals := by
  have hall : ∀ node ∈ (planned installed).nodes, node.goal = .deployed := by decide
  intro f l nf nl _ hf hl
  rw [hall nf (List.mem_of_getElem? hf), hall nl (List.mem_of_getElem? hl)]

/-- The run has come to a result. -/
def Outcome.isCompleted : Outcome → Bool
  | .completed _ => true
  | .aborted _ | .unfinished => false

/-- One evaluation at a time. -/
def singly : Options := { concurrency := some 1 }

/-- The first element is brought about; the action fails, and its element with it.  So it does in
the run that is executed. -/
theorem installed_breaks :
    Inevitably (Trial.Step breaking gate (some 1))
      (fun t => t.pass.shared.tracker.status 0 = .deployed ∧
        t.pass.shared.tracker.status 1 = .failed ∧ t.pass.shared.tracker.status 2 = .failed)
      ⟨.first (planned installed) (some 1) false true #[], fun _ => 2⟩ ∧
    ∃ report, execute breakers singly {} (planned installed) true #[] = report ∧
      (∃ summary, report.outcome = .completed summary) ∧
      report.state.tracker.status 0 = .deployed ∧ report.state.tracker.status 1 = .failed ∧
      report.state.tracker.status 2 = .failed := by
  have hplan : installed.plan = .ok (planned installed) := rfl
  have hfails : breaking.Fails (planned installed) 2 := ⟨_, rfl, .inl ⟨rfl, _, rfl⟩⟩
  have hwork : breaking.Doomed (planned installed) 2 := ⟨2, .refl, hfails⟩
  have helement : breaking.Doomed (planned installed) 1 := ⟨2, .single ⟨.hard, by decide⟩, hfails⟩
  have hbase : ¬breaking.Doomed (planned installed) 0 := by
    rintro ⟨m, hreach, hfails⟩
    rcases hreach.cases_head with rfl | ⟨b, ⟨k, hk⟩, -⟩
    · obtain ⟨node, hnode, ⟨hbody, -⟩ | ⟨-, f, hf⟩⟩ := hfails
      · rw [← Option.some.inj hnode] at hbody
        cases hbody
      · cases hf
    · have hnone : (planned installed).graph.successors 0 = [] := rfl
      have hb := Digraph.mem_successors_of_edge hk
      rw [hnone] at hb
      cases hb
  have hstatuses : ∀ {t : Tracker}, breaking.Fulfilled (planned installed) t →
      t.status 0 = .deployed ∧ t.status 1 = .failed ∧ t.status 2 = .failed := fun h =>
    ⟨h.at_goal 0 _ rfl hbase, (h.failed_iff 1 _ rfl).2 helement, (h.failed_iff 2 _ rfl).2 hwork⟩
  have hholds : singly.holdable = true := by decide +kernel
  obtain ⟨hended, hexecuted⟩ := every_run_is_fulfilled (ω := Bool) hplan rfl ownEdges_installed
    unconditional_installed sharesGoals_installed sound_breaking hholds rfl rfl
  refine ⟨(hended gate true #[] fun _ => 2).mono fun t h => hstatuses h.1, ?_⟩
  obtain ⟨-, -, hcompleted⟩ := hexecuted breakers (conform_breakers _) {} true #[]
  have hends : (execute breakers singly {} (planned installed) true #[]).outcome.isCompleted =
      true := by decide +kernel
  cases hsummary : (execute breakers singly {} (planned installed) true #[]).outcome with
  | completed summary =>
    exact ⟨_, rfl, ⟨summary, hsummary⟩, hstatuses (hcompleted summary hsummary)⟩
  | aborted f =>
    rw [hsummary] at hends
    cases hends
  | unfinished =>
    rw [hsummary] at hends
    cases hends

/-- As many evaluations at a time as no limiter can hold. -/
def overfull : Options := { concurrency := some (2 ^ 61) }

/-- All is in order, but a run with too large a limit panics and does not complete. -/
theorem overfull_run_panics :
    installed.plan = .ok (planned installed) ∧ (planned installed).check = .ok () ∧
      installed.OwnEdges ∧ installed.Unconditional ∧ (planned installed).SharesGoals ∧
      breaking.Sound ∧ breakers.Conform (planned installed) breaking.Bears ∧
      overfull.dryRun = false ∧ overfull.timeout = none ∧
      (execute breakers overfull {} (planned installed) true #[]).panicked = true ∧
      ∀ summary, (execute breakers overfull {} (planned installed) true #[]).outcome ≠
        .completed summary := by
  have hplan : installed.plan = .ok (planned installed) := rfl
  have hpanics : (execute breakers overfull {} (planned installed) true #[]).panicked = true :=
    (execute_panics_iff hplan).2 ⟨by decide +kernel, by decide, nofun⟩
  refine ⟨hplan, rfl, ownEdges_installed, unconditional_installed, sharesGoals_installed,
    sound_breaking, conform_breakers _, rfl, rfl, hpanics, fun summary h => ?_⟩
  have hunfinished := run_unfinished_of_panicked hpanics
  exact nomatch h.symm.trans hunfinished

end Rollout.Engine
