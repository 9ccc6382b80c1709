import Rollout.Proofs.Engine.Narrative
import Rollout.Proofs.Engine.Tasks

/-!
# The effort a pass has left

Whatever a task does brings it nearer to its end.  The effort that a pass has left adds this up over
all tasks, those that can be resumed and the results that nobody has looked at.  Resuming a task,
handing it an answer and looking at a result all take some of it away, whatever the evaluations do
to the shared state.
-/

namespace Rollout.Engine

/-- How far a task in this phase is from its end.  A task that is woken is counted among the
runnable ones as well, so it comes two nearer. -/
def Phase.effort : Phase → ℕ
  | arriving => 12
  | awaitingPermit => 10
  | permitted => 8
  | awaitingLock => 6
  | locked => 4
  | paused (.body _) => 3
  | paused (.check _) => 2

namespace Pass

variable {ω : Type} {q q' : Pass ω} {k : Task} {t : TaskId} {n : NodeId}
  {segment : StateM (State ω) Progress}

/-- How much there is to do with the tasks there are. -/
def effort (q : Pass ω) : ℕ :=
  q.weight Phase.effort + q.runnable.length + q.results.length

theorem ids_dropTask (q : Pass ω) (k : Task) (result : Except Fault Unit) :
    (q.dropTask k result).ids.Sublist q.ids :=
  List.filter_sublist.map _

theorem ids_releaseLock (q : Pass ω) (n : NodeId) : (q.releaseLock n).ids = q.ids := by
  rw [ids_eq, ids_eq, labels_releaseLock]

/-- A change of phase exchanges the efforts of the two phases. -/
theorem effort_setPhase (hids : q.ids.Nodup) (hk : q.task? t = some k) (s : Phase) :
    (q.setPhase t s).effort + k.phase.effort = q.effort + s.effort := by
  have hweight := weight_setPhase (w := Phase.effort) hids hk s
  have hrunnable : (q.setPhase t s).runnable = q.runnable := rfl
  have hresults : (q.setPhase t s).results = q.results := rfl
  unfold effort
  rw [hrunnable, hresults]
  omega

/-- To wake a task costs one for its place among those that can run. -/
theorem effort_wake (hids : q.ids.Nodup) (hk : q.task? t = some k) (s : Phase) :
    (q.wake t s).effort + k.phase.effort = q.effort + s.effort + 1 := by
  have hset := effort_setPhase hids hk s
  have hwake : (q.wake t s).effort = (q.setPhase t s).effort + 1 := by
    have hrunnable : (q.wake t s).runnable.length = (q.setPhase t s).runnable.length + 1 :=
      List.length_append
    have hresults : (q.wake t s).results = (q.setPhase t s).results := rfl
    have hweight : (q.wake t s).weight Phase.effort = (q.setPhase t s).weight Phase.effort := rfl
    unfold effort
    rw [hrunnable, hresults, hweight]
    omega
  omega

/-- Passing a lock on makes no new effort. -/
theorem effort_releaseLock (h : q.Locks) (hids : q.ids.Nodup) (n : NodeId) :
    (q.releaseLock n).effort ≤ q.effort := by
  unfold releaseLock
  cases hline : q.lockLine.find? (·.1 == n) with
  | none => exact Nat.le_refl _
  | some next =>
    obtain ⟨k, hk, -, hphase⟩ := h.lockLine (List.mem_of_find?_eq_some hline)
    let q₁ : Pass ω := { q with lockLine := q.lockLine.eraseP (·.1 == n) }
    have hwake := effort_wake (q := q₁) hids hk .locked
    have hsame : q₁.effort = q.effort := rfl
    rw [hphase, hsame] at hwake
    show (q₁.wake next.2 .locked).effort ≤ q.effort
    simp only [Phase.effort] at hwake
    omega

/-- Passing a permit on makes no new effort. -/
theorem effort_releasePermit (h : q.Locks) (hids : q.ids.Nodup) :
    q.releasePermit.effort ≤ q.effort := by
  unfold releasePermit
  cases q.free with
  | none => exact Nat.le_refl _
  | some free =>
    cases hline : q.permitLine with
    | nil => exact Nat.le_refl _
    | cons next line =>
      obtain ⟨k, hk, hphase⟩ := h.permitLine (t := next) (by rw [hline]; exact List.mem_cons_self)
      let q₁ : Pass ω := { q with permitLine := line }
      have hwake := effort_wake (q := q₁) hids hk .permitted
      have hsame : q₁.effort = q.effort := rfl
      rw [hphase, hsame] at hwake
      show (q₁.wake next .permitted).effort ≤ q.effort
      simp only [Phase.effort] at hwake
      omega

/-- A task that ends leaves its result behind. -/
theorem effort_finish (h : q.Locks) (hids : q.ids.Nodup) (hk : q.Holder k)
    (result : Except Fault Unit) : (q.finish k result).effort + k.phase.effort ≤ q.effort + 1 := by
  obtain ⟨hdrop, hfree⟩ := h.dropTask hk result
  have hids' : (q.dropTask k result).ids.Nodup := hids.sublist (ids_dropTask q k result)
  have hheld : k.node ∈ (q.dropTask k result).held := hk.held
  have hlock := effort_releaseLock hdrop hids' k.node
  have hpermit := effort_releasePermit (hdrop.releaseLock hheld hfree)
    (by rwa [ids_releaseLock])
  have hweight := weight_dropTask (w := Phase.effort) hids hk.task result
  have hresults : (q.dropTask k result).results.length = q.results.length + 1 := List.length_append
  have hrunnable : (q.dropTask k result).runnable = q.runnable := rfl
  have hstart : (q.dropTask k result).effort + k.phase.effort = q.effort + 1 := by
    unfold effort
    rw [hresults, hrunnable]
    omega
  -- whoever is granted the lock or the permit has less to do than the grant costs
  have hfinish : (q.finish k result).effort ≤ (q.dropTask k result).effort :=
    Nat.le_trans hpermit hlock
  omega

/-- The effort of a task after a segment of its evaluation. -/
def effortAfter : Progress → ℕ
  | .paused pause => (Phase.paused pause).effort
  | .finished _ => 1

/-- A segment exchanges the effort of its task for that of where it has come to. -/
theorem effort_runSegment (h : q.Locks) (hids : q.ids.Nodup) (hk : q.Holder k)
    (segment : StateM (State ω) Progress) :
    (q.runSegment k segment).effort + k.phase.effort ≤
      q.effort + effortAfter (segment.run q.shared).1 := by
  unfold runSegment
  rcases segment.run q.shared with ⟨pause | result, shared⟩
  · have hset := effort_setPhase (q := { q with shared }) hids hk.task (.paused pause)
    exact Nat.le_of_eq hset
  · have hshared : ({ q with shared } : Pass ω).Locks := h.of_same rfl rfl rfl rfl rfl
    exact effort_finish (q := { q with shared }) hshared hids
      ⟨hk.task, hk.held, hk.alone, hk.out_of_line⟩ result

/-! ## Moves -/

/-- To take a task up saves its place among those that can run. -/
theorem effort_runnable (ht : t ∈ q.runnable) :
    ({ q with runnable := q.runnable.erase t } : Pass ω).effort + 1 = q.effort := by
  have hlength := List.length_erase_of_mem ht
  have hpos := List.length_pos_of_mem ht
  unfold effort
  simp only
  have hsame : ({ q with runnable := q.runnable.erase t } : Pass ω).weight Phase.effort =
    q.weight Phase.effort := rfl
  omega

/-- To resume a task takes effort away, whatever comes of it. -/
theorem effort_resume (ask : Condition → ω → Readiness × ω) (h : q.Locks) (hids : q.ids.Nodup)
    (ht : t ∈ q.runnable) : (q.resume ask t).effort < q.effort := by
  have herase := effort_runnable ht
  -- a task with its permit has at least the effort of `permitted` before it
  have hpermits : ∀ {k free}, q.Permits k free → 8 ≤ k.phase.effort := by
    rintro k free (⟨hphase, -⟩ | ⟨hphase, -⟩) <;> rw [hphase] <;> decide
  have hresumed := resumed ask q t
  generalize q.resume ask t = q' at hresumed
  cases hresumed with
  | idle => exact Nat.lt_of_succ_le (Nat.le_of_eq herase)
  | @linedForPermit k hk hphase hfree =>
    let q₁ : Pass ω :=
      { q with runnable := q.runnable.erase t, permitLine := q.permitLine ++ [t] }
    have hset := effort_setPhase (q := q₁) hids hk .awaitingPermit
    have hsame : q₁.effort + 1 = q.effort := herase
    show (q₁.setPhase t .awaitingPermit).effort < q.effort
    rw [hphase] at hset
    simp only [Phase.effort] at hset
    omega
  | @linedForLock k free hk hpermit hheld =>
    let q₁ : Pass ω :=
      { q with runnable := q.runnable.erase t, free, lockLine := q.lockLine ++ [(k.node, t)] }
    have hset := effort_setPhase (q := q₁) hids hk .awaitingLock
    have hsame : q₁.effort + 1 = q.effort := herase
    have hphase := hpermits hpermit
    have hline : Phase.awaitingLock.effort = 6 := rfl
    show (q₁.setPhase t .awaitingLock).effort < q.effort
    omega
  | @ran k free held hk henters =>
    obtain rfl := id_of_task? hk
    obtain ⟨hlocks, hholder⟩ := h.enters hk henters (q.runnable.erase k.id)
    let q₁ : Pass ω := { q with runnable := q.runnable.erase k.id, free, held }
    have hrun := effort_runSegment hlocks (q := q₁) hids hholder (begin ask k.node)
    have hsame : q₁.effort + 1 = q.effort := herase
    have hphase : 4 ≤ k.phase.effort := by
      rcases henters with ⟨hpermit, -⟩ | ⟨hphase, -⟩
      · exact Nat.le_trans (by decide) (hpermits hpermit)
      · rw [hphase]
        decide
    -- a segment comes to a callback or to an end, which are below all that it can have started from
    have hafter : effortAfter ((begin ask k.node).run q₁.shared).1 ≤ 3 := by
      rcases ((begin ask k.node).run q₁.shared).1 with (c | c) | r <;>
        simp [effortAfter, Phase.effort]
    show (q₁.runSegment k (begin ask k.node)).effort < q.effort
    omega

/-- An answer that nobody waits for changes nothing. -/
theorem answerBody_of_none (ht : q.bodyOf? t = none) (answer : Answer Unit) :
    q.answerBody t answer = q := by
  unfold answerBody
  split
  next k hk =>
    split
    next c hphase =>
      rw [bodyOf?_eq_some.2 ⟨c, pausedAt?_eq_some.2 ⟨k, hk, rfl, hphase⟩⟩] at ht
      cases ht
    next => rfl
  next => rfl

theorem answerCheck_of_none (ht : q.checkOf? t = none) (answer : Answer Readiness) :
    q.answerCheck t answer = q := by
  unfold answerCheck
  split
  next k hk =>
    split
    next c hphase =>
      rw [checkOf?_eq_some.2 ⟨c, pausedAt?_eq_some.2 ⟨k, hk, rfl, hphase⟩⟩] at ht
      cases ht
    next => rfl
  next => rfl

namespace Locks

variable (h : q.Locks)

include h

/-- A task that waits for the end of its body goes on with it. -/
theorem answerBody_eq (ht : q.bodyOf? t = some n) :
    ∃ k, q.Holder k ∧ t = k.id ∧ n = k.node ∧ k.phase.effort = 3 ∧
      ∀ answer, q.answerBody t answer = q.runSegment k (resumeBody n answer) := by
  obtain ⟨c, hpaused⟩ := bodyOf?_eq_some.1 ht
  obtain ⟨k, hk, rfl, hphase⟩ := pausedAt?_eq_some.1 hpaused
  obtain rfl := id_of_task? hk
  refine ⟨k, h.holder hk (by rw [hphase]; rfl), rfl, rfl, by rw [hphase]; rfl, fun answer => ?_⟩
  unfold answerBody
  simp only [hk, hphase]

/-- A task that waits for the answer of its completion check goes on with it. -/
theorem answerCheck_eq (ht : q.checkOf? t = some n) : ∃ k, q.Holder k ∧ t = k.id ∧ n = k.node ∧
    k.phase.effort = 2 ∧
    ∀ answer, q.answerCheck t answer = q.runSegment k (resumeCheck n answer) := by
  obtain ⟨c, hpaused⟩ := checkOf?_eq_some.1 ht
  obtain ⟨k, hk, rfl, hphase⟩ := pausedAt?_eq_some.1 hpaused
  obtain rfl := id_of_task? hk
  refine ⟨k, h.holder hk (by rw [hphase]; rfl), rfl, rfl, by rw [hphase]; rfl, fun answer => ?_⟩
  unfold answerCheck
  simp only [hk, hphase]

/-- A body that has ended is not started again by the same evaluation. -/
theorem effort_answerBody (hids : q.ids.Nodup) (ht : q.bodyOf? t = some n)
    (answer : Answer Unit) : (q.answerBody t answer).effort < q.effort := by
  obtain ⟨k, hk, rfl, rfl, hphase, hanswer⟩ := h.answerBody_eq ht
  have hrun := effort_runSegment h hids hk (resumeBody k.node answer)
  have hafter : effortAfter ((resumeBody k.node answer).run q.shared).1 ≤ 2 := by
    cases heq : ((resumeBody k.node answer).run q.shared).1 with
    | finished r => simp [effortAfter]
    | paused pause =>
      cases pause with
      | body c => exact absurd heq (resumeBody_starts_none answer q.shared c)
      | check c => exact Nat.le_refl _
  rw [hanswer]
  omega

/-- A completion check that has answered is not asked again by the same evaluation. -/
theorem effort_answerCheck (hids : q.ids.Nodup) (ht : q.checkOf? t = some n)
    {answer : Answer Readiness}
    (hprogress : ∀ pause, ((resumeCheck n answer).run q.shared).1 ≠ .paused pause) :
    (q.answerCheck t answer).effort < q.effort := by
  obtain ⟨k, hk, rfl, rfl, hphase, hanswer⟩ := h.answerCheck_eq ht
  have hrun := effort_runSegment h hids hk (resumeCheck k.node answer)
  have hafter : effortAfter ((resumeCheck k.node answer).run q.shared).1 = 1 := by
    cases heq : ((resumeCheck k.node answer).run q.shared).1 with
    | finished r => rfl
    | paused pause => exact absurd heq (hprogress pause)
  rw [hanswer]
  omega

end Locks

/-- To look at a result takes effort away. -/
theorem effort_collect {r : Except Fault Unit} (hr : q.results.head? = some r) :
    ({ q with results := q.results.tail } : Pass ω).effort < q.effort := by
  have hsame : ({ q with results := q.results.tail } : Pass ω).weight Phase.effort =
    q.weight Phase.effort := rfl
  have hpos := List.length_pos_of_mem (List.mem_of_head? hr)
  unfold effort
  simp only [hsame, List.length_tail]
  omega

/-- A queued node is dearer than the task it gets. -/
theorem effort_spawn (q : Pass ω) :
    q.spawn.effort = q.effort + q.shared.queue.length * 13 := by
  -- each new task adds its effort on arrival and its place among those that can run
  have hfold : ∀ (ns : List NodeId) (q : Pass ω),
      (ns.foldl spawnOne q).runnable.length = q.runnable.length + ns.length ∧
        (ns.foldl spawnOne q).results = q.results := by
    intro ns
    induction ns with
    | nil => exact fun q => ⟨rfl, rfl⟩
    | cons n ns ih =>
      intro q
      obtain ⟨hrunnable, hresults⟩ := ih (q.spawnOne n)
      have hone : (q.spawnOne n).runnable.length = q.runnable.length + 1 := List.length_append
      rw [List.foldl_cons, hrunnable, hresults, List.length_cons, hone]
      exact ⟨by omega, rfl⟩
  obtain ⟨hrunnable, hresults⟩ := hfold q.shared.queue q.unqueued
  have hweight := weight_spawn (w := Phase.effort) q
  have hspawn : q.spawn = q.shared.queue.foldl spawnOne q.unqueued := rfl
  have hsame : q.unqueued.runnable = q.runnable ∧ q.unqueued.results = q.results := ⟨rfl, rfl⟩
  unfold effort
  rw [hweight, hspawn, hrunnable, hresults, hsame.1, hsame.2]
  simp only [Phase.effort]
  omega

end Pass

end Rollout.Engine
