import Rollout.Proofs.Engine.Tasks
import Rollout.Proofs.Engine.Waiting
import Rollout.Proofs.Order.Bodies

/-!
# Permits and locks

The permits of a pass are rationed: those that are free and those that tasks have are always as many
as the limit says (`Rationed`).  With what is known of locks and lines this makes evaluations
bounded, exclusive and free of deadlock all at once, for any number of tasks, permits and nodes and
in whatever order the tasks go on (`evaluations_keep_going`).
-/

namespace Rollout.Engine

variable {ω : Type} {ask : Condition → ω → Readiness × ω} {concurrency limit : Option ℕ}

namespace Pass

variable {q q' : Pass ω} {t u : TaskId} {k : Task} {n : NodeId} {loose : ℕ}

/-! ## Permits -/

/-- How many permits the tasks have. -/
def permits (q : Pass ω) : ℕ := q.weight fun s => s.hasPermit.toNat

theorem permits_eq_countP (q : Pass ω) : q.permits = q.tasks.countP (·.phase.hasPermit) := by
  unfold permits weight
  induction q.tasks with
  | nil => rfl
  | cons k ks ih =>
    rw [List.map_cons, List.sum_cons, ih, List.countP_cons]
    cases hpermit : k.phase.hasPermit <;> simp [hpermit, Nat.add_comm]

/-- A task that changes its phase gives back the permit of the one and takes that of the other. -/
theorem permits_setPhase (hids : q.ids.Nodup) (hk : q.task? t = some k) (s : Phase) :
    (q.setPhase t s).permits + k.phase.hasPermit.toNat = q.permits + s.hasPermit.toNat :=
  weight_setPhase hids hk s

/-- Whoever waits for a lock has a permit already. -/
theorem permits_releaseLock (h : q.Locks) (hids : q.ids.Nodup) (n : NodeId) :
    (q.releaseLock n).permits = q.permits :=
  load_releaseLock (w := fun _ s => s.hasPermit.toNat) (fun _ => rfl) h hids n

theorem free_releaseLock (q : Pass ω) (n : NodeId) : (q.releaseLock n).free = q.free := by
  unfold releaseLock
  split <;> rfl

/-! ## Rations -/

/-- Permits are neither made nor lost: those that are free, those that tasks have, and `loose` ones
that are on their way to or from a task, are as many as the limit says. -/
def Rationed (limit : Option ℕ) (loose : ℕ) (q : Pass ω) : Prop :=
  q.free.map (· + q.permits + loose) = limit.map (max 1)

namespace Rationed

theorem ofState (s : State ω) (concurrency : Option ℕ) :
    Rationed concurrency 0 (.ofState s concurrency) := by
  show (concurrency.map (max 1)).map _ = concurrency.map (max 1)
  rw [Option.map_map]
  rfl

/-- What counts is only how many permits are free and how many the tasks have. -/
theorem of_total {loose' : ℕ} (h : Rationed limit loose q) (hfree : q'.free = q.free)
    (htotal : q'.permits + loose' = q.permits + loose) : Rationed limit loose' q' := by
  unfold Rationed at h ⊢
  rw [hfree, ← h]
  refine congrArg (Option.map · q.free) (funext fun free => ?_)
  omega

/-- There are never more permits than the limit says. -/
theorem permits_le {n : ℕ} (h : Rationed (some n) loose q) : q.permits ≤ max n 1 := by
  obtain ⟨free, -, htotal⟩ := Option.map_eq_some_iff.1 h
  omega

/-! ### One task -/

/-- A task that is dropped leaves its permit loose. -/
theorem dropTask (h : Rationed limit loose q) (hids : q.ids.Nodup)
    (hk : q.task? k.id = some k) (hloose : loose + k.phase.hasPermit.toNat = 1)
    (result : Except Fault Unit) : Rationed limit 1 (q.dropTask k result) := by
  have hweight : (q.dropTask k result).permits + k.phase.hasPermit.toNat = q.permits :=
    weight_dropTask hids hk result
  exact h.of_total rfl (by omega)

/-- A permit goes to the first in line, or back. -/
theorem releasePermit (h : Rationed limit 1 q) (hlocks : q.Locks) (hids : q.ids.Nodup) :
    Rationed limit 0 q.releasePermit := by
  unfold Pass.releasePermit
  cases hfree : q.free with
  | none =>
    unfold Rationed at h ⊢
    rw [hfree] at h ⊢
    exact h
  | some free =>
    cases hline : q.permitLine with
    | nil =>
      unfold Rationed at h ⊢
      rw [hfree] at h
      rw [← h]
      show some (free + 1 + q.permits + 0) = some (free + q.permits + 1)
      congr 1
      omega
    | cons next line =>
      -- The permit passes to the first in line, and is never free in between.
      obtain ⟨k, hk, hphase⟩ :=
        hlocks.permitLine (t := next) (by rw [hline]; exact List.mem_cons_self)
      let q₁ : Pass ω := { q with permitLine := line }
      have hset := permits_setPhase (q := q₁) hids hk .permitted
      rw [hphase] at hset
      exact h.of_total hfree.symm hset

/-- A task that has finished gives its permit back. -/
theorem finish (h : Rationed limit loose q) (hlocks : q.Locks) (hids : q.ids.Nodup)
    (hk : q.Holder k) (hloose : loose + k.phase.hasPermit.toNat = 1)
    (result : Except Fault Unit) : Rationed limit 0 (q.finish k result) := by
  obtain ⟨hdrop, hfree⟩ := hlocks.dropTask hk result
  have hids' : (q.dropTask k result).ids.Nodup := hids.sublist (List.filter_sublist.map _)
  have hloose' := (h.dropTask hids hk.task hloose result).of_total
    (free_releaseLock _ k.node) (congrArg (· + 1) (permits_releaseLock hdrop hids' k.node))
  refine hloose'.releasePermit (hdrop.releaseLock hk.held hfree) ?_
  rw [ids_eq, labels_releaseLock, ← ids_eq]
  exact hids'

/-- A task that goes on with its evaluation keeps its permit until it ends. -/
theorem runSegment (h : Rationed limit loose q) (hlocks : q.Locks) (hids : q.ids.Nodup)
    (hk : q.Holder k) (hloose : loose + k.phase.hasPermit.toNat = 1)
    (segment : StateM (State ω) Progress) : Rationed limit 0 (q.runSegment k segment) := by
  unfold Pass.runSegment
  rcases segment.run q.shared with ⟨pause | result, shared⟩
  · have hset := permits_setPhase (q := { q with shared }) hids hk.task (.paused pause)
    have hpaused : (Phase.paused pause).hasPermit.toNat = 1 := rfl
    have hsame : ({ q with shared } : Pass ω).permits = q.permits := rfl
    refine h.of_total rfl ?_
    show (({ q with shared } : Pass ω).setPhase k.id (.paused pause)).permits + 0 = _
    omega
  · have hlocks' : ({ q with shared } : Pass ω).Locks := hlocks.of_same rfl rfl rfl rfl rfl
    have h' : Rationed limit loose { q with shared } := h
    exact h'.finish hlocks' hids ⟨hk.task, hk.held, hk.alone, hk.out_of_line⟩ hloose result

/-! ### Moves -/

/-- A permit that a task is about to have has been taken from the free ones, unless the task was
given it before. -/
theorem permitted {free : Option ℕ} (h : Rationed limit 0 q) (hpermit : q.Permits k free)
    (htasks : q'.tasks = q.tasks) (hfree : q'.free = free) :
    ∃ loose, loose + k.phase.hasPermit.toNat = 1 ∧ Rationed limit loose q' := by
  have hpermits : q'.permits = q.permits := by
    unfold permits weight
    rw [htasks]
  rcases hpermit with ⟨hphase, hbefore⟩ | ⟨hphase, hbefore⟩
  · refine ⟨1, by rw [hphase]; rfl, ?_⟩
    unfold Rationed at h ⊢
    rw [hbefore, Option.map_map] at h
    rw [hfree, hpermits, ← h]
    refine congrArg (Option.map · free) (funext fun free => ?_)
    show free + q.permits + 1 = free + 1 + q.permits + 0
    omega
  · exact ⟨0, by rw [hphase]; rfl, h.of_total (hfree.trans hbefore.symm) (by rw [hpermits])⟩

/-- A task that is resumed takes a permit that is free, or waits for one. -/
theorem resume (h : Rationed limit 0 q) (hlocks : q.Locks) (hids : q.ids.Nodup) (t : TaskId) :
    Rationed limit 0 (q.resume ask t) := by
  have hresumed := resumed ask q t
  generalize q.resume ask t = q' at hresumed
  cases hresumed with
  | idle => exact h
  | @linedForPermit k hk hphase hfree =>
    let q₁ : Pass ω :=
      { q with runnable := q.runnable.erase t, permitLine := q.permitLine ++ [t] }
    have hset := permits_setPhase (q := q₁) hids hk .awaitingPermit
    rw [hphase] at hset
    exact h.of_total rfl hset
  | @linedForLock k free hk hpermit hheld =>
    let q₁ : Pass ω :=
      { q with runnable := q.runnable.erase t, free, lockLine := q.lockLine ++ [(k.node, t)] }
    have hset := permits_setPhase (q := q₁) hids hk .awaitingLock
    obtain ⟨loose, hloose, h₁⟩ :
        ∃ loose, loose + k.phase.hasPermit.toNat = 1 ∧ Rationed limit loose q₁ :=
      h.permitted hpermit rfl rfl
    have hwaits : Phase.awaitingLock.hasPermit.toNat = 1 := rfl
    show Rationed limit 0 (q₁.setPhase t .awaitingLock)
    exact h₁.of_total rfl (by omega)
  | @ran k free held hk henters =>
    obtain rfl := id_of_task? hk
    obtain ⟨hlocks₁, hholder⟩ := hlocks.enters hk henters (q.runnable.erase k.id)
    let q₁ : Pass ω := { q with runnable := q.runnable.erase k.id, free, held }
    obtain ⟨loose, hloose, h₁⟩ :
        ∃ loose, loose + k.phase.hasPermit.toNat = 1 ∧ Rationed limit loose q₁ := by
      rcases henters with ⟨hpermit, -⟩ | ⟨hphase, rfl, -⟩
      · exact h.permitted hpermit rfl rfl
      · exact ⟨0, by rw [hphase]; rfl, h⟩
    exact h₁.runSegment hlocks₁ hids hholder hloose (begin ask k.node)

/-- A task that has paused has a permit. -/
theorem answer (h : Rationed limit 0 q) (hlocks : q.Locks) (hids : q.ids.Nodup)
    (hk : q.task? t = some k) {pause : Pause} (hphase : k.phase = .paused pause)
    (segment : StateM (State ω) Progress) : Rationed limit 0 (q.runSegment k segment) :=
  h.runSegment hlocks hids (hlocks.holder hk (by rw [hphase]; rfl)) (by rw [hphase]; rfl) segment

theorem answerBody (h : Rationed limit 0 q) (hlocks : q.Locks) (hids : q.ids.Nodup) (t : TaskId)
    (answer : Answer Unit) : Rationed limit 0 (q.answerBody t answer) := by
  unfold Pass.answerBody
  split
  next k hk =>
    split
    next c hphase => exact h.answer hlocks hids hk hphase _
    next => exact h
  next => exact h

theorem answerCheck (h : Rationed limit 0 q) (hlocks : q.Locks) (hids : q.ids.Nodup) (t : TaskId)
    (answer : Answer Readiness) : Rationed limit 0 (q.answerCheck t answer) := by
  unfold Pass.answerCheck
  split
  next k hk =>
    split
    next c hphase => exact h.answer hlocks hids hk hphase _
    next => exact h
  next => exact h

theorem spawn (h : Rationed limit 0 q) : Rationed limit 0 q.spawn := by
  have hfree : ∀ (ns : List NodeId) (q : Pass ω), (ns.foldl spawnOne q).free = q.free := by
    intro ns
    induction ns with
    | nil => exact fun _ => rfl
    | cons n ns ih => exact fun q => ih _
  exact h.of_total (hfree _ _) (congrArg (· + 0) (weight_spawn q))

/-- Every move keeps the permits rationed. -/
theorem after (h : Rationed concurrency 0 q) (hlocks : q.Locks) (hids : q.ids.Nodup)
    (m : Move ω) : Rationed concurrency 0 (q.after ask concurrency m) := by
  cases m with
  | spawn => exact h.spawn
  | resume t => exact h.resume hlocks hids t
  | answerBody t answer => exact h.answerBody hlocks hids t answer
  | answerCheck t answer => exact h.answerCheck hlocks hids t answer
  | next => exact ofState _ _
  | collect | disturb | stop => exact h

end Rationed

/-! ## Locks -/

/-- A task of the list is the one that its number finds. -/
theorem task?_of_mem (hids : q.ids.Nodup) (hk : k ∈ q.tasks) : q.task? k.id = some k := by
  obtain ⟨j, hj⟩ : ∃ j, q.task? k.id = some j :=
    Option.isSome_iff_exists.1 (List.find?_isSome.2 ⟨k, hk, beq_self_eq_true _⟩)
  have hmem : j ∈ q.tasks := List.mem_of_find?_eq_some hj
  rw [hj, List.inj_on_of_nodup_map hids hmem hk (id_of_task? hj)]

/-- Of two tasks of a node one has no lock. -/
theorem Locks.countP_holdsLock_le (h : q.Locks) (hids : q.ids.Nodup) (n : NodeId) :
    q.tasks.countP (fun k => k.node = n ∧ k.phase.holdsLock) ≤ 1 := by
  rw [List.countP_eq_length_filter]
  generalize hmatches : q.tasks.filter (fun k => k.node = n ∧ k.phase.holdsLock) = matching
  match matching, hmatches with
  | [], _ | [_], _ => simp
  | a :: b :: rest, hmatches =>
    have hholds : ∀ k ∈ a :: b :: rest,
        q.task? k.id = some k ∧ k.node = n ∧ k.phase.holdsLock = true := by
      intro k hk
      rw [← hmatches, List.mem_filter] at hk
      exact ⟨task?_of_mem hids hk.1, by simpa using hk.2⟩
    obtain ⟨ha, hna, hla⟩ := hholds a List.mem_cons_self
    obtain ⟨hb, hnb, hlb⟩ := hholds b (List.mem_cons_of_mem _ List.mem_cons_self)
    have hsame : a.id = b.id := h.alone ha hla hb hlb (hna.trans hnb.symm)
    have hnodup : ((a :: b :: rest).map (·.id)).Nodup :=
      hids.sublist (hmatches ▸ List.filter_sublist.map _)
    rw [List.map_cons, List.nodup_cons, List.map_cons, hsame] at hnodup
    exact absurd List.mem_cons_self hnodup.1

/-! ## Steps -/

/-- A task that has something to do does so when it is resumed: it gets in a line, it pauses or it
ends. -/
theorem task?_resume_ne (ask : Condition → ω → Readiness × ω) (hk : q.task? t = some k)
    (hready : k.phase.isReady = true) : (q.resume ask t).task? t ≠ some k := by
  have hphase : ∀ s : Phase, s.isReady = false → some { k with phase := s } ≠ some k := by
    intro s hs heq
    have hsame : s = k.phase := congrArg Task.phase (Option.some.inj heq)
    rw [hsame, hready] at hs
    cases hs
  have hresumed := resumed ask q t
  generalize q.resume ask t = q' at hresumed
  cases hresumed with
  | idle hidle =>
    obtain ⟨harriving, hpermitted, hlocked⟩ := hidle k hk
    revert hready
    cases hk' : k.phase <;> simp_all [Phase.isReady]
  | linedForPermit =>
    refine Eq.trans_ne (task?_setPhase_self ?_ _) (hphase _ rfl)
    exact hk
  | linedForLock =>
    refine Eq.trans_ne (task?_setPhase_self ?_ _) (hphase _ rfl)
    exact hk
  | @ran j free held hj henters =>
    obtain rfl := Option.some.inj (hk.symm.trans hj)
    obtain rfl := id_of_task? hj
    refine Eq.trans_ne (task?_runSegment_self ?_ _) ?_
    · exact hj
    · split
      · exact hphase _ rfl
      · exact nofun

/-! ## Passes -/

/-- What the limit, the locks and the lines make of the tasks of a pass. -/
structure Flowing (ask : Condition → ω → Readiness × ω) (concurrency : Option ℕ) (q : Pass ω) :
    Prop where
  /-- No permit is lost. -/
  rationed : ∀ limit, concurrency = some limit →
    ∃ free, q.free = some free ∧ free + q.tasks.countP (·.phase.hasPermit) = max limit 1
  bounded : ∀ limit, concurrency = some limit →
    q.tasks.countP (·.phase.hasPermit) ≤ max limit 1
  exclusive : ∀ n, q.tasks.countP (fun k => k.node = n ∧ k.phase.holdsLock) ≤ 1
  /-- As long as there are tasks, one of them can take a step, or it is in a callback. -/
  moving : q.tasks ≠ [] →
    (∃ t k, q.allows (.resume t) = true ∧ q.task? t = some k ∧
      (q.resume ask t).task? t ≠ some k) ∨
    ∃ t n pause, q.pausedAt? t = some (n, pause)

/-- What every move keeps. -/
structure Arranged (concurrency : Option ℕ) (q : Pass ω) : Prop where
  locks : q.Locks
  ids : q.ids.Nodup
  orderly : q.Orderly none False
  rationed : Rationed concurrency 0 q

namespace Arranged

theorem ofState (s : State ω) (concurrency : Option ℕ) :
    Arranged concurrency (.ofState s concurrency) :=
  ⟨.ofState s concurrency, List.nodup_nil, .ofState s concurrency, .ofState s concurrency⟩

/-- Every move keeps a pass arranged. -/
theorem after (h : Arranged concurrency q) {m : Move ω} (hm : q.allows m = true) :
    Arranged concurrency (q.after ask concurrency m) :=
  have hstep : Stepped ask q m (q.after ask concurrency m) := stepped h.locks hm
  ⟨hstep.locks, nodup_after ask concurrency h.locks h.ids m, h.orderly.after h.locks m,
    h.rationed.after h.locks h.ids m⟩

/-- In an arranged pass evaluations keep going. -/
theorem flowing (h : Arranged concurrency q) (ask : Condition → ω → Readiness × ω) :
    Flowing ask concurrency q where
  rationed limit hlimit := by
    have hrationed := h.rationed
    subst hlimit
    obtain ⟨free, hfree, htotal⟩ := Option.map_eq_some_iff.1 hrationed
    rw [permits_eq_countP] at htotal
    exact ⟨free, hfree, by omega⟩
  bounded limit hlimit := by
    have hrationed := h.rationed
    subst hlimit
    rw [← permits_eq_countP]
    exact hrationed.permits_le
  exclusive := h.locks.countP_holdsLock_le h.ids
  moving htasks := (h.orderly.exists_ready htasks).imp_left fun ⟨t, k, ht, hk, hready⟩ =>
    ⟨t, k, by simpa [allows] using ht, hk, task?_resume_ne ask hk hready⟩

end Arranged

end Pass

/-- Every pass that can be reached is arranged. -/
theorem Reachable.arranged {s : State ω} {q : Pass ω}
    (h : Reachable ask concurrency (.ofState s concurrency) q) : q.Arranged concurrency := by
  induction h with
  | start => exact .ofState s concurrency
  | move m _ hm ih => exact ih.after hm

/-- In whatever order evaluations go on and callbacks answer, over whatever state: no more of them
have permits than the limit says, a limit below one counting as one; of each node at most one is
past its lock; and as long as there is one, one of them can take a step or is in a callback. -/
theorem evaluations_keep_going (ask : Condition → ω → Readiness × ω) (concurrency : Option ℕ)
    (s : State ω) (q : Pass ω) (h : Reachable ask concurrency (.ofState s concurrency) q) :
    q.Flowing ask concurrency :=
  h.arranged.flowing ask

/-- Two evaluations of one node have both permits: one has started the body, the other waits for
the lock. -/
theorem joined_keeps_going : ∃ q,
    play gate (some 2) [.spawn, .resume 0, .resume 1, .spawn, .resume 2, .resume 3]
      (.first (planned joined) (some 2) false true #[]) = some q ∧
    q.tasks = [⟨2, 3, .paused (.body 0)⟩, ⟨3, 3, .awaitingLock⟩] ∧ q.free = some 0 ∧
    q.Flowing gate (some 2) := by
  obtain ⟨q, hq, htasks, hfree⟩ : ∃ q,
      play gate (some 2) [.spawn, .resume 0, .resume 1, .spawn, .resume 2, .resume 3]
        (.first (planned joined) (some 2) false true #[]) = some q ∧
      q.tasks = [⟨2, 3, .paused (.body 0)⟩, ⟨3, 3, .awaitingLock⟩] ∧ q.free = some 0 :=
    ⟨_, rfl, rfl, rfl⟩
  exact ⟨q, hq, htasks, hfree,
    evaluations_keep_going gate (some 2) _ q (reachable_of_play .start hq)⟩

end Rollout.Engine
