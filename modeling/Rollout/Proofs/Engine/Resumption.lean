import Rollout.Proofs.Engine.Exclusion

/-!
# Resuming a task

A task that is resumed gets in line for a permit or for the lock of its node, or it begins its
evaluation, or there is nothing for it to do: `Resumed` lists the four cases with all that changes
in each.  The second half of the file says what running a segment does to the tasks and the locks.
-/

namespace Rollout.Engine

namespace Pass

variable {ω : Type} {q q' : Pass ω} {t u : TaskId} {k : Task}

/-- The task has a permit, or takes one, and `free` permits are left. -/
def Permits (q : Pass ω) (k : Task) (free : Option Nat) : Prop :=
  k.phase = .arriving ∧ q.free = free.map (· + 1) ∨ k.phase = .permitted ∧ q.free = free

/-- The task has the lock of its node, or takes it, and the locks `held` are held then. -/
def Enters (q : Pass ω) (k : Task) (free : Option Nat) (held : List NodeId) : Prop :=
  q.Permits k free ∧ k.node ∉ q.held ∧ held = k.node :: q.held ∨
    k.phase = .locked ∧ free = q.free ∧ held = q.held

/-- What becomes of a task that is resumed. -/
inductive Resumed (ask : Condition → ω → Readiness × ω) (q : Pass ω) (t : TaskId) : Pass ω → Prop
  where
  | idle : (∀ k, q.task? t = some k →
        k.phase ≠ .arriving ∧ k.phase ≠ .permitted ∧ k.phase ≠ .locked) →
      Resumed ask q t { q with runnable := q.runnable.erase t }
  | linedForPermit {k : Task} (hk : q.task? t = some k) (hphase : k.phase = .arriving)
      (hfree : q.free = some 0) :
      Resumed ask q t ({ q with
        runnable := q.runnable.erase t
        permitLine := q.permitLine ++ [t] }.setPhase t .awaitingPermit)
  | linedForLock {k : Task} {free : Option Nat} (hk : q.task? t = some k)
      (hpermit : q.Permits k free) (hheld : k.node ∈ q.held) :
      Resumed ask q t ({ q with
        runnable := q.runnable.erase t
        free
        lockLine := q.lockLine ++ [(k.node, t)] }.setPhase t .awaitingLock)
  | ran {k : Task} {free : Option Nat} {held : List NodeId} (hk : q.task? t = some k)
      (henters : q.Enters k free held) :
      Resumed ask q t
        ({ q with runnable := q.runnable.erase t, free, held }.runSegment k (begin ask k.node))

variable (ask : Condition → ω → Readiness × ω)

/-- A task that has its permit runs, or waits in line for the lock of its node. -/
theorem resumed_takeLock (hk : q.task? t = some k) {free : Option Nat}
    (hpermit : q.Permits k free) :
    Resumed ask q t ({ q with runnable := q.runnable.erase t, free }.takeLock ask k) := by
  obtain rfl := id_of_task? hk
  unfold takeLock
  by_cases hheld : k.node ∈ q.held
  · rw [if_pos (by simpa using hheld)]
    exact .linedForLock hk hpermit hheld
  · rw [if_neg (by simpa using hheld)]
    exact .ran hk (.inl ⟨hpermit, hheld, rfl⟩)

/-- A task that arrives takes a permit and asks for the lock, or waits in line for a permit. -/
theorem resumed_takePermit (hk : q.task? t = some k) (hphase : k.phase = .arriving) :
    Resumed ask q t ({ q with runnable := q.runnable.erase t }.takePermit ask k) := by
  obtain rfl := id_of_task? hk
  unfold takePermit
  split
  next hfree =>
    have hnone : q.free = none := hfree
    exact resumed_takeLock ask hk (.inl ⟨hphase, by rw [hnone]; rfl⟩)
  next hfree => exact .linedForPermit hk hphase hfree
  next free hfree =>
    have hpermit : q.Permits k (some free) := .inl ⟨hphase, hfree⟩
    exact resumed_takeLock ask hk hpermit

/-- What a task that is resumed does. -/
theorem resumed (q : Pass ω) (t : TaskId) : Resumed ask q t (q.resume ask t) := by
  unfold resume
  extract_lets q₁
  split
  next hnone =>
    have hk : q.task? t = none := hnone
    exact .idle fun k hk' => absurd (hk.symm.trans hk') nofun
  next k hsome =>
    have hk : q.task? t = some k := hsome
    -- A task in any other phase has nothing to do.
    have hidle : k.phase ≠ .arriving ∧ k.phase ≠ .permitted ∧ k.phase ≠ .locked →
        Resumed ask q t q₁ := fun h => .idle fun j hj => Option.some.inj (hk.symm.trans hj) ▸ h
    split
    next hphase => exact resumed_takePermit ask hk hphase
    next hphase => exact resumed_takeLock ask hk (.inr ⟨hphase, rfl⟩)
    next hphase => exact .ran hk (.inr ⟨hphase, rfl, rfl⟩)
    all_goals next hphase => exact hidle (by rw [hphase]; exact ⟨nofun, nofun, nofun⟩)

/-! ## Locks while a task goes on -/

/-- A task that has the lock of its node may evaluate it. -/
theorem Locks.holder (h : q.Locks) (hk : q.task? t = some k) (hhold : k.phase.holdsLock = true) :
    q.Holder k := by
  obtain rfl := id_of_task? hk
  have hphase : ∀ s : Phase, s.holdsLock = false → k.phase ≠ s := by
    intro s hs heq
    rw [heq, hs] at hhold
    cases hhold
  exact ⟨hk, h.held hk hhold, fun hj hj' hnode => h.alone hj hj' hk hhold hnode,
    h.outOfLine hk (hphase _ rfl) (hphase _ rfl)⟩

/-- A task that goes on to its evaluation has the lock of its node. -/
theorem Locks.enters (h : q.Locks) (hk : q.task? k.id = some k) {free : Option Nat}
    {held : List NodeId} (henters : q.Enters k free held) (runnable : List TaskId) :
    ({ q with runnable, free, held } : Pass ω).Locks ∧
      ({ q with runnable, free, held } : Pass ω).Holder k := by
  rcases henters with ⟨hpermit, hnot, rfl⟩ | ⟨hphase, rfl, rfl⟩
  · -- The lock was free, so no other task has it.
    have hline : q.OutOfLine k.id := by
      rcases hpermit with ⟨hphase, -⟩ | ⟨hphase, -⟩ <;>
      · apply h.outOfLine hk <;> rw [hphase] <;> exact nofun
    exact ⟨⟨h.bound, h.alone, fun hj hhold => List.mem_cons_of_mem _ (h.held hj hhold),
        h.lockLine, h.lockLine_nodup, h.permitLine, h.permitLine_nodup⟩,
      hk, List.mem_cons_self,
      fun hj hhold hnode => absurd (h.held hj hhold) (hnode ▸ hnot), hline⟩
  · have hholder := h.holder hk (by rw [hphase]; rfl)
    exact ⟨h.of_same rfl rfl rfl rfl rfl, hk, hholder.held, hholder.alone, hholder.out_of_line⟩

/-- A segment that is run by the holder of a lock leaves the locks in order. -/
theorem Locks.runSegment (h : q.Locks) (hk : q.Holder k) (segment : StateM (State ω) Progress) :
    (q.runSegment k segment).Locks := by
  unfold Pass.runSegment
  cases segment.run q.shared with
  | mk progress shared =>
    have hlocks : ({ q with shared } : Pass ω).Locks := h.of_same rfl rfl rfl rfl rfl
    have hholder : ({ q with shared } : Pass ω).Holder k :=
      ⟨hk.task, hk.held, hk.alone, hk.out_of_line⟩
    cases progress with
    | paused pause =>
      -- The task keeps the lock while it waits for its callback.
      exact hlocks.setPhase hholder.task hholder.out_of_line fun _ => hholder
    | finished result => exact hlocks.finish hholder result

/-- A task that is resumed leaves the locks in order. -/
theorem Locks.resumed (h : q.Locks) (hq : Resumed ask q t q') : q'.Locks := by
  cases hq with
  | idle => exact h.of_same rfl rfl rfl rfl rfl
  | linedForPermit hk hphase hfree =>
    have hline : q.OutOfLine t := by
      apply h.outOfLine hk <;> rw [hphase] <;> exact nofun
    exact (h.awaitPermit hk hline).of_same rfl rfl rfl rfl rfl
  -- whoever waits for a lock comes from an arrival or from the permit line, and has left that line
  | linedForLock hk hpermit hheld =>
    have hline : q.OutOfLine t := by
      rcases hpermit with ⟨hphase, -⟩ | ⟨hphase, -⟩ <;>
      · apply h.outOfLine hk <;> rw [hphase] <;> exact nofun
    exact (h.awaitLock hk hline).of_same rfl rfl rfl rfl rfl
  | ran hk henters =>
    obtain rfl := id_of_task? hk
    obtain ⟨hlocks, hholder⟩ := h.enters hk henters _
    exact hlocks.runSegment hholder _

/-! ## Tasks that have paused -/

/-- The lock goes to a task that waits for it. -/
theorem Locks.task?_releaseLock (h : q.Locks) {n : NodeId} (hk : q.task? u = some k)
    (hphase : k.phase ≠ .awaitingLock) : (q.releaseLock n).task? u = some k := by
  unfold Pass.releaseLock
  cases hline : q.lockLine.find? (·.1 == n) with
  | none => exact hk
  | some next =>
    have hne : u ≠ next.2 := by
      rintro rfl
      obtain ⟨j, hj, -, hwaits⟩ := h.lockLine (List.mem_of_find?_eq_some hline)
      exact hphase (Option.some.inj (hk.symm.trans hj) ▸ hwaits)
    simp only
    rw [task?_wake, if_neg hne]
    exact hk

/-- The permit goes to a task that waits for it. -/
theorem Locks.task?_releasePermit (h : q.Locks) (hk : q.task? u = some k)
    (hphase : k.phase ≠ .awaitingPermit) : q.releasePermit.task? u = some k := by
  unfold Pass.releasePermit
  cases q.free with
  | none => exact hk
  | some free =>
    cases hline : q.permitLine with
    | nil => exact hk
    | cons next line =>
      -- the permit goes to a task in line, and `u` does not stand there
      have hne : u ≠ next := by
        rintro rfl
        obtain ⟨j, hj, hwaits⟩ := h.permitLine (t := u) (by rw [hline]; exact List.mem_cons_self)
        exact hphase (Option.some.inj (hk.symm.trans hj) ▸ hwaits)
      simp only
      rw [task?_wake, if_neg hne]
      exact hk

/-- The task that runs a segment pauses at its end or is over. -/
theorem task?_runSegment_self (hk : q.task? k.id = some k) (segment : StateM (State ω) Progress) :
    (q.runSegment k segment).task? k.id =
      match (segment.run q.shared).1 with
      | .paused pause => some { k with phase := .paused pause }
      | .finished _ => none := by
  unfold Pass.runSegment
  cases segment.run q.shared with
  | mk progress shared =>
    have hself : ({ q with shared } : Pass ω).task? k.id = some k := hk
    cases progress with
    | paused pause =>
      simp only
      rw [task?_setPhase, if_pos rfl, hself]
      rfl
    | finished result =>
      obtain ⟨f, -, hview⟩ := granted_finish { q with shared } k result k.id
      simp only
      rw [hview, task?_dropTask, if_pos rfl]
      rfl

/-- While one task runs a segment, the others stay paused where they are. -/
theorem Locks.task?_runSegment (h : q.Locks) (hk : q.Holder k) (hu : u ≠ k.id) {i : Task}
    {pause : Pause} (hi : i.phase = .paused pause) (segment : StateM (State ω) Progress) :
    (q.runSegment k segment).task? u = some i ↔ q.task? u = some i := by
  unfold Pass.runSegment
  cases segment.run q.shared with
  | mk progress shared =>
    have hlocks : ({ q with shared } : Pass ω).Locks := h.of_same rfl rfl rfl rfl rfl
    have hholder : ({ q with shared } : Pass ω).Holder k :=
      ⟨hk.task, hk.held, hk.alone, hk.out_of_line⟩
    cases progress with
    | paused pause' =>
      simp only
      rw [task?_setPhase, if_neg hu]
      rfl
    | finished result =>
      constructor
      · intro hafter
        obtain ⟨-, j, hj, hnode, hphase⟩ := task?_of_finish hafter
        -- Whoever has been given a lock or a permit has not paused.
        have hsame : i.phase = j.phase := by
          rcases hphase with hphase | hphase | hphase
          · exact hphase
          · rw [hi] at hphase
            cases hphase
          · rw [hi] at hphase
            cases hphase
        have heq : j = i := by
          have hid := (id_of_task? hj).trans (id_of_task? hafter).symm
          cases i
          cases j
          simp_all
        exact heq ▸ hj
      · intro hbefore
        obtain ⟨hdrop, hfree⟩ := hlocks.dropTask hholder result
        have hdropped : (({ q with shared } : Pass ω).dropTask k result).task? u = some i := by
          rw [task?_dropTask, if_neg hu]
          exact hbefore
        have hlock := hdrop.task?_releaseLock (n := k.node) hdropped (by rw [hi]; exact nofun)
        exact (hdrop.releaseLock hholder.held hfree).task?_releasePermit hlock
          (by rw [hi]; exact nofun)

end Pass

end Rollout.Engine
