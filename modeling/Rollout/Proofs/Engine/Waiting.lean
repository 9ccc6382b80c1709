import Rollout.Proofs.Engine.Narrative

/-!
# Whoever waits, waits for somebody

A task that waits for a lock stands in line for it, and some task has that lock; a task that waits
for a permit stands in line as well, and then some task has a permit.  `Orderly` says so, and every
move keeps it.  So as long as there are tasks, one of them can be resumed or waits for a callback
(`Orderly.stirs`): no pass ever gets stuck.
-/

namespace Rollout.Engine

/-- A task in this phase has a permit, if evaluations are limited. -/
def Phase.hasPermit : Phase → Bool
  | arriving | awaitingPermit => false
  | _ => true

/-- A task in this phase goes on as soon as it is resumed. -/
def Phase.isReady : Phase → Bool
  | arriving | permitted | locked => true
  | _ => false

namespace Pass

variable {ω : Type} {q q' : Pass ω} {t u : TaskId} {k j : Task} {n : NodeId} {s : Phase}
  {loose loose' : Option NodeId} {spare spare' : Prop}

/-- The task stands where its phase says. -/
def Stands (q : Pass ω) (t : TaskId) (k : Task) : Prop :=
  match k.phase with
  | .arriving | .permitted | .locked => t ∈ q.runnable
  | .awaitingPermit => t ∈ q.permitLine
  | .awaitingLock => (k.node, t) ∈ q.lockLine
  | .paused _ => True

/-- Tasks, locks and permits agree with each other.  While a task ends, its lock is `loose`, and its
permit is `spare`. -/
structure Orderly (q : Pass ω) (loose : Option NodeId) (spare : Prop) : Prop where
  stands : ∀ {t k}, q.task? t = some k → q.Stands t k
  owned : ∀ {n}, n ∈ q.held → loose ≠ some n →
    ∃ t k, q.task? t = some k ∧ k.node = n ∧ k.phase.holdsLock = true
  contended : ∀ {n t}, (n, t) ∈ q.lockLine → n ∈ q.held
  scarce : ∀ {t}, t ∈ q.permitLine → q.free = some 0
  spent : q.free = some 0 → spare ∨ ∃ t k, q.task? t = some k ∧ k.phase.hasPermit = true

/-! ## One task changes -/

theorem task?_setPhase_self (hk : q.task? t = some k) (s : Phase) :
    (q.setPhase t s).task? t = some { k with phase := s } := by
  rw [task?_setPhase, if_pos rfl, hk]
  rfl

/-- A task that changes its phase is still the one that was looked for. -/
theorem exists_task_setPhase (hk : q.task? t = some k) {P : Task → Prop}
    (hP : P k → P { k with phase := s }) (h : ∃ u j, q.task? u = some j ∧ P j) :
    ∃ u j, (q.setPhase t s).task? u = some j ∧ P j := by
  obtain ⟨u, j, hj, hPj⟩ := h
  by_cases hu : u = t
  · subst hu
    obtain rfl := Option.some.inj (hk.symm.trans hj)
    exact ⟨u, _, task?_setPhase_self hk s, hP hPj⟩
  · exact ⟨u, j, by rw [task?_setPhase, if_neg hu, hj], hPj⟩

/-- The last phase that a task is given counts. -/
theorem setPhase_setPhase (q : Pass ω) (t : TaskId) (s s' : Phase) :
    (q.setPhase t s).setPhase t s' = q.setPhase t s' := by
  unfold setPhase
  simp only [List.map_map]
  congr 1
  refine List.map_congr_left fun k _ => ?_
  by_cases hk : k.id = t <;> simp [hk]

/-- The phase of a task that is dropped does not matter. -/
theorem dropTask_setPhase (q : Pass ω) (k : Task) (s : Phase) (result : Except Fault Unit) :
    (q.setPhase k.id s).dropTask k result = q.dropTask k result := by
  have htasks : (q.setPhase k.id s).tasks.filter (·.id != k.id) =
      q.tasks.filter (·.id != k.id) := by
    unfold setPhase
    induction q.tasks with
    | nil => rfl
    | cons j js ih =>
      rw [List.map_cons, List.filter_cons, List.filter_cons, ih]
      by_cases hj : j.id = k.id <;> simp [hj]
  unfold dropTask
  rw [htasks]
  rfl

/-- What becomes of a task after a segment does not depend on the phase it was in. -/
theorem runSegment_setPhase (q : Pass ω) (k : Task) (s : Phase)
    (segment : StateM (State ω) Progress) :
    (q.setPhase k.id s).runSegment k segment = q.runSegment k segment := by
  unfold runSegment
  have hshared : (q.setPhase k.id s).shared = q.shared := rfl
  rw [hshared]
  rcases segment.run q.shared with ⟨pause | result, shared⟩
  · exact setPhase_setPhase { q with shared } k.id s (.paused pause)
  · have hdrop := dropTask_setPhase { q with shared } k s result
    exact congrArg (fun q' : Pass ω => (q'.releaseLock k.node).releasePermit) hdrop

/-- Whoever stands in a line or among the runnable tasks stays there. -/
theorem Stands.mono (h : q.Stands t k) (hrunnable : t ∈ q.runnable → t ∈ q'.runnable)
    (hpermit : t ∈ q.permitLine → t ∈ q'.permitLine)
    (hlock : (k.node, t) ∈ q.lockLine → (k.node, t) ∈ q'.lockLine) : q'.Stands t k := by
  unfold Stands at h ⊢
  cases hphase : k.phase with
  | arriving | permitted | locked => rw [hphase] at h; exact hrunnable h
  | awaitingPermit => rw [hphase] at h; exact hpermit h
  | awaitingLock => rw [hphase] at h; exact hlock h
  | paused pause => trivial

namespace Orderly

/-- One task goes to another phase, and lines, locks and permits change with it. -/
theorem changed (h : q.Orderly loose spare) (q₁ : Pass ω) (s : Phase) (htasks : q₁.tasks = q.tasks)
    (hk : q.task? t = some k) (hlocked : k.phase.holdsLock = true → s.holdsLock = true)
    (hpermitted : k.phase.hasPermit = true → s.hasPermit = true)
    (hself : q₁.Stands t { k with phase := s })
    (hothers : ∀ {u j}, u ≠ t → q.Stands u j → q₁.Stands u j)
    (hheld : ∀ {n}, n ∈ q₁.held → loose' ≠ some n →
      n ∈ q.held ∧ loose ≠ some n ∨ n = k.node ∧ s.holdsLock = true)
    (hcontended : ∀ {n u}, (n, u) ∈ q₁.lockLine → n ∈ q₁.held)
    (hscarce : ∀ {u}, u ∈ q₁.permitLine → q₁.free = some 0)
    (hspent : q₁.free = some 0 → q.free = some 0 ∧ (spare → spare') ∨ s.hasPermit = true) :
    (q₁.setPhase t s).Orderly loose' spare' := by
  have htask : ∀ u, q₁.task? u = q.task? u := by
    intro u
    unfold task?
    rw [htasks]
  have hk₁ : q₁.task? t = some k := (htask t).trans hk
  refine ⟨fun {u j} hj => ?_, fun {n} hn hloose => ?_, hcontended, hscarce, fun hfree => ?_⟩
  · rw [task?_setPhase] at hj
    by_cases hu : u = t
    · rw [if_pos hu, hk₁] at hj
      obtain rfl := Option.some.inj hj
      exact hu ▸ hself
    · rw [if_neg hu, htask] at hj
      exact hothers hu (h.stands hj)
  · rcases hheld hn hloose with ⟨hn, hloose⟩ | ⟨rfl, hs⟩
    · obtain ⟨u, j, hj, hnode, hhold⟩ := h.owned hn hloose
      exact exists_task_setPhase hk₁ (P := fun j => j.node = n ∧ j.phase.holdsLock = true)
        (fun hP => ⟨hP.1, hlocked hP.2⟩) ⟨u, j, (htask u).trans hj, hnode, hhold⟩
    · exact ⟨t, _, task?_setPhase_self hk₁ s, rfl, hs⟩
  · rcases hspent hfree with ⟨hfree, hspare⟩ | hs
    · refine (h.spent hfree).imp hspare fun ⟨u, j, hj, hpermit⟩ => ?_
      exact exists_task_setPhase hk₁ (P := fun j => j.phase.hasPermit = true) hpermitted
        ⟨u, j, (htask u).trans hj, hpermit⟩
    · exact .inr ⟨t, _, task?_setPhase_self hk₁ s, hs⟩

/-! ## A task ends -/

/-- Tasks, locks and permits agree when a task has ended, but for the lock and the permit that it
had. -/
theorem dropTask (h : q.Orderly none False) (hk : q.task? k.id = some k)
    (result : Except Fault Unit) : (q.dropTask k result).Orderly (some k.node) True where
  stands {t j} hj := by
    rw [task?_dropTask] at hj
    by_cases ht : t = k.id
    · rw [if_pos ht] at hj
      cases hj
    · rw [if_neg ht] at hj
      exact h.stands hj
  owned {n} hn hloose := by
    obtain ⟨t, j, hj, hnode, hhold⟩ := h.owned hn nofun
    have ht : t ≠ k.id := by
      rintro rfl
      rw [← hnode, Option.some.inj (hj.symm.trans hk)] at hloose
      exact hloose rfl
    exact ⟨t, j, by rw [task?_dropTask, if_neg ht, hj], hnode, hhold⟩
  contended := h.contended
  scarce := h.scarce
  spent _ := .inl trivial

/-- The lock goes to the first in line, or back. -/
theorem releaseLock (hlocks : q.Locks) (h : q.Orderly (some n) spare) :
    (q.releaseLock n).Orderly none spare := by
  unfold Pass.releaseLock
  cases hline : q.lockLine.find? (·.1 == n) with
  | none =>
    -- nobody stands in line for the lock, so it is free
    have hnobody : ∀ {m u}, (m, u) ∈ q.lockLine → m ≠ n := by
      intro m u hu
      simpa using List.find?_eq_none.1 hline _ hu
    refine ⟨h.stands, fun {m} hm _ => ?_, fun {m u} hu => ?_, h.scarce, h.spent⟩
    · obtain ⟨hm, hne⟩ := List.mem_filter.1 hm
      exact h.owned hm fun heq => by simp [Option.some.inj heq] at hne
    · exact List.mem_filter.2 ⟨h.contended hu, by simpa using hnobody hu⟩
  | some next =>
    obtain ⟨m, t⟩ := next
    obtain rfl : m = n := by simpa using List.find?_some hline
    obtain ⟨pre, post, hsplit, herase⟩ := exists_split_eraseP hline
    have hmem : (m, t) ∈ q.lockLine := List.mem_of_find?_eq_some hline
    obtain ⟨k, hk, hnode, hphase⟩ := hlocks.lockLine hmem
    have hrest : ∀ {e}, e ∈ pre ++ post → e ∈ q.lockLine := by
      intro e he
      rw [hsplit]
      exact (List.mem_append.1 he).elim (List.mem_append_left _)
        fun he => List.mem_append_right _ (List.mem_cons_of_mem _ he)
    -- the first in line for this lock gets it without the lock ever becoming free
    simp only [herase]
    refine h.changed { q with lockLine := pre ++ post, runnable := q.runnable ++ [t] } .locked
        rfl hk (fun _ => rfl)
      (fun _ => rfl) ?_ (fun {u j} hu hj => ?_) (fun {m'} hm' _ => ?_) (fun hu => ?_) h.scarce
      fun hfree => .inl ⟨hfree, id⟩
    · exact List.mem_append_right _ (List.mem_singleton.2 rfl)
    · refine hj.mono (fun hu => List.mem_append_left _ hu) id fun hmem' => ?_
      rw [hsplit] at hmem'
      rcases List.mem_append.1 hmem' with hmem' | hmem'
      · exact List.mem_append_left _ hmem'
      · rcases List.mem_cons.1 hmem' with heq | hmem'
        · exact absurd (Prod.mk.inj heq).2 hu
        · exact List.mem_append_right _ hmem'
    · by_cases heq : m' = m
      · exact .inr ⟨heq.trans hnode.symm, rfl⟩
      · exact .inl ⟨hm', fun hsome => heq (Option.some.inj hsome).symm⟩
    · exact h.contended (hrest hu)

/-- The permit goes to the first in line, or back. -/
theorem releasePermit (hlocks : q.Locks) (h : q.Orderly none True) :
    q.releasePermit.Orderly none False := by
  unfold Pass.releasePermit
  cases hfree : q.free with
  | none =>
    exact ⟨h.stands, h.owned, h.contended, h.scarce, fun heq => by rw [hfree] at heq; cases heq⟩
  | some free =>
    cases hline : q.permitLine with
    | nil =>
      refine ⟨fun hj => ?_, h.owned, h.contended, nofun, nofun⟩
      exact (h.stands hj).mono id (fun hu => by rwa [hline] at hu) id
    | cons next line =>
      have hmem : next ∈ q.permitLine := by rw [hline]; exact List.mem_cons_self
      obtain ⟨k, hk, hphase⟩ := hlocks.permitLine hmem
      -- the permit goes to the first in line without ever becoming free, so that there is still
      -- none to take
      refine h.changed { q with
          free := some free, permitLine := line, runnable := q.runnable ++ [next] }
          .permitted rfl hk
        (fun hhold => ?_)
        (fun _ => rfl) ?_ (fun {u j} hu hj => ?_) (fun hm _ => .inl ⟨hm, nofun⟩) h.contended
        (fun hu => ?_) fun _ => .inr rfl
      · rw [hphase] at hhold
        cases hhold
      · exact List.mem_append_right _ (List.mem_singleton.2 rfl)
      · refine hj.mono (fun hu => List.mem_append_left _ hu) (fun hmem => ?_) id
        rw [hline] at hmem
        exact (List.mem_cons.1 hmem).resolve_left hu
      · exact hfree.symm.trans (h.scarce hmem)

/-- A task that finishes gives its lock and its permit to whoever is next. -/
theorem finish (hlocks : q.Locks) (h : q.Orderly none False) (hk : q.Holder k)
    (result : Except Fault Unit) : (q.finish k result).Orderly none False := by
  obtain ⟨hdrop, hfree⟩ := hlocks.dropTask hk result
  exact ((h.dropTask hk.task result).releaseLock hdrop).releasePermit
    (hdrop.releaseLock hk.held hfree)

/-! ## A task goes on -/

/-- A task that goes on with its evaluation. -/
theorem runSegment (hlocks : q.Locks) (h : q.Orderly none False) (hk : q.task? k.id = some k)
    {pause : Pause} (hphase : k.phase = .paused pause) (segment : StateM (State ω) Progress) :
    (q.runSegment k segment).Orderly none False := by
  have hholder := hlocks.holder hk (by rw [hphase]; rfl)
  unfold Pass.runSegment
  rcases segment.run q.shared with ⟨pause' | result, shared⟩
  · exact h.changed { q with shared } (.paused pause') rfl hk (fun _ => rfl)
      (fun _ => rfl) trivial (fun _ hj => hj) (fun hn _ => .inl ⟨hn, nofun⟩) h.contended h.scarce
      fun hfree => .inl ⟨hfree, id⟩
  · have hlocks' : ({ q with shared } : Pass ω).Locks := hlocks.of_same rfl rfl rfl rfl rfl
    exact finish hlocks' ⟨h.stands, h.owned, h.contended, h.scarce, h.spent⟩
      ⟨hholder.task, hholder.held, hholder.alone, hholder.out_of_line⟩ result

/-- A permit is left only if nobody waits for one. -/
theorem scarce_of_permits (h : q.Orderly none False) {free : Option ℕ} (hpermit : q.Permits k free)
    (hu : u ∈ q.permitLine) : free = some 0 := by
  have hfree := h.scarce hu
  rcases hpermit with ⟨-, heq⟩ | ⟨-, heq⟩
  · rw [hfree] at heq
    cases free <;> cases heq
  · exact heq.symm.trans hfree

/-- A task that is resumed runs, or stands in the line that it has to wait in. -/
theorem resume (ask : Condition → ω → Readiness × ω) (hlocks : q.Locks)
    (h : q.Orderly none False) (t : TaskId) : (q.resume ask t).Orderly none False := by
  have hresumed := resumed ask q t
  generalize q.resume ask t = q' at hresumed
  cases hresumed with
  | idle hidle =>
    refine ⟨fun {u j} hj => ?_, h.owned, h.contended, h.scarce, h.spent⟩
    have hstands := h.stands hj
    by_cases hu : u = t
    · subst hu
      obtain ⟨harriving, hpermitted, hlocked⟩ := hidle j hj
      unfold Stands at hstands ⊢
      cases hphase : j.phase with
      | arriving => exact absurd hphase harriving
      | permitted => exact absurd hphase hpermitted
      | locked => exact absurd hphase hlocked
      | awaitingPermit | awaitingLock | paused => rw [hphase] at hstands; exact hstands
    · exact hstands.mono (fun hmem => (List.mem_erase_of_ne hu).2 hmem) id id
  | @linedForPermit k hk hphase hfree =>
    refine h.changed { q with
        runnable := q.runnable.erase t, permitLine := q.permitLine ++ [t] } .awaitingPermit rfl hk
      (fun hhold => by rw [hphase] at hhold; cases hhold)
      (fun hpermit => by rw [hphase] at hpermit; cases hpermit)
      (List.mem_append_right _ (List.mem_singleton.2 rfl)) (fun {u j} hu hj => ?_)
      (fun hn _ => .inl ⟨hn, nofun⟩) h.contended (fun _ => hfree) fun _ => .inl ⟨hfree, id⟩
    exact hj.mono (fun hmem => (List.mem_erase_of_ne hu).2 hmem) (List.mem_append_left _) id
  | @linedForLock k free hk hpermit hheld =>
    refine h.changed { q with
        runnable := q.runnable.erase t, free, lockLine := q.lockLine ++ [(k.node, t)] }
      .awaitingLock rfl hk
      (fun hhold => ?_) (fun _ => rfl) (List.mem_append_right _ (List.mem_singleton.2 rfl))
      (fun {u j} hu hj => ?_) (fun hn _ => .inl ⟨hn, nofun⟩) (fun {n u} hu => ?_)
      (fun hu => h.scarce_of_permits hpermit hu) fun _ => .inr rfl
    · rcases hpermit with ⟨hphase, -⟩ | ⟨hphase, -⟩ <;> rw [hphase] at hhold <;> cases hhold
    · exact hj.mono (fun hmem => (List.mem_erase_of_ne hu).2 hmem) id (List.mem_append_left _)
    · rcases List.mem_append.1 hu with hu | hu
      · exact h.contended hu
      · rw [(Prod.mk.inj (List.mem_singleton.1 hu)).1]
        exact hheld
  | @ran k free held hk henters =>
    obtain rfl := id_of_task? hk
    obtain ⟨hlocks₁, hholder⟩ := hlocks.enters hk henters (q.runnable.erase k.id)
    -- A task that enters its evaluation may as well have paused in it before.
    let q₁ : Pass ω := { q with runnable := q.runnable.erase k.id, free, held }
    let paused : Phase := .paused (.body 0)
    have hpaused : (q₁.setPhase k.id paused).Orderly none False := by
      refine h.changed q₁ paused rfl hk (fun _ => rfl) (fun _ => rfl) trivial
        (fun {u j} hu hj => ?_)
        (fun {n} hn _ => ?_) (fun {n u} hu => ?_) (fun {u} hu => ?_) fun _ => .inr rfl
      · exact hj.mono (fun hmem => (List.mem_erase_of_ne hu).2 hmem) id id
      · rcases henters with ⟨-, -, rfl⟩ | ⟨-, -, rfl⟩
        · exact (List.mem_cons.1 hn).elim (fun heq => .inr ⟨heq, rfl⟩) fun hn => .inl ⟨hn, nofun⟩
        · exact .inl ⟨hn, nofun⟩
      · have hn := h.contended hu
        rcases henters with ⟨-, -, rfl⟩ | ⟨-, -, rfl⟩
        · exact List.mem_cons_of_mem _ hn
        · exact hn
      · rcases henters with ⟨hpermit, -, -⟩ | ⟨-, rfl, -⟩
        · exact h.scarce_of_permits hpermit hu
        · exact h.scarce hu
    have hlocks₂ : (q₁.setPhase k.id paused).Locks :=
      hlocks₁.setPhase hholder.task hholder.out_of_line fun _ => hholder
    have hself := task?_setPhase_self (q := q₁) hk paused
    show (q₁.runSegment k (begin ask k.node)).Orderly none False
    rw [← runSegment_setPhase]
    exact runSegment (k := { k with phase := paused }) hlocks₂ hpaused hself rfl (begin ask k.node)

/-- The answer of a body keeps the lines in order. -/
theorem answerBody (hlocks : q.Locks) (h : q.Orderly none False) (t : TaskId)
    (answer : Answer Unit) : (q.answerBody t answer).Orderly none False := by
  unfold Pass.answerBody
  split
  next k hk =>
    obtain rfl := id_of_task? hk
    split
    next c hphase => exact h.runSegment hlocks hk hphase _
    next => exact h
  next => exact h

/-- The answer of a completion check keeps the lines in order. -/
theorem answerCheck (hlocks : q.Locks) (h : q.Orderly none False) (t : TaskId)
    (answer : Answer Readiness) : (q.answerCheck t answer).Orderly none False := by
  unfold Pass.answerCheck
  split
  next k hk =>
    obtain rfl := id_of_task? hk
    split
    next c hphase => exact h.runSegment hlocks hk hphase _
    next => exact h
  next => exact h

/-! ## Passes -/

/-- A new task can be resumed. -/
theorem spawnOne (hlocks : q.Locks) (h : q.Orderly none False) (n : NodeId) :
    (q.spawnOne n).Orderly none False := by
  have hold : ∀ {u j}, q.task? u = some j → (q.spawnOne n).task? u = some j := by
    intro u j hj
    rw [task?_spawnOne hlocks, if_neg (Nat.ne_of_lt (hlocks.bound hj)), hj]
  refine ⟨fun {u j} hj => ?_, fun hn hloose => ?_, h.contended, h.scarce, fun hfree => ?_⟩
  · rw [task?_spawnOne hlocks] at hj
    by_cases hu : u = q.spawned
    · rw [if_pos hu] at hj
      obtain rfl := Option.some.inj hj
      exact List.mem_append_right _ (List.mem_singleton.2 hu)
    · rw [if_neg hu] at hj
      exact (h.stands hj).mono (List.mem_append_left _) id id
  · obtain ⟨u, j, hj, howner⟩ := h.owned hn hloose
    exact ⟨u, j, hold hj, howner⟩
  · exact (h.spent hfree).imp id fun ⟨u, j, hj, hpermit⟩ => ⟨u, j, hold hj, hpermit⟩

/-- New tasks keep the lines in order. -/
theorem spawn (hlocks : q.Locks) (h : q.Orderly none False) : q.spawn.Orderly none False := by
  have hfold : ∀ (ns : List NodeId) (q : Pass ω), q.Locks → q.Orderly none False →
      (ns.foldl Pass.spawnOne q).Orderly none False := by
    intro ns
    induction ns with
    | nil => exact fun _ _ h => h
    | cons n ns ih =>
      exact fun q hlocks h => ih _ (rearranged_spawnOne hlocks n).locks (h.spawnOne hlocks n)
  exact hfold _ q.unqueued (hlocks.of_same rfl rfl rfl rfl rfl)
    ⟨h.stands, h.owned, h.contended, h.scarce, h.spent⟩

/-- A pass that begins has all its permits. -/
theorem ofState (s : State ω) (concurrency : Option ℕ) :
    (Pass.ofState s concurrency).Orderly none False := by
  refine ⟨nofun, nofun, nofun, nofun, fun hfree => ?_⟩
  obtain ⟨limit, -, hzero⟩ := Option.map_eq_some_iff.1 hfree
  exact absurd hzero (Nat.ne_of_gt (Nat.lt_of_lt_of_le Nat.one_pos (Nat.le_max_left 1 limit)))

/-- Every move keeps the lines in order. -/
theorem after {ask : Condition → ω → Readiness × ω} {concurrency : Option ℕ} (hlocks : q.Locks)
    (h : q.Orderly none False) (m : Move ω) : (q.after ask concurrency m).Orderly none False := by
  cases m with
  | spawn => exact h.spawn hlocks
  | resume t => exact h.resume ask hlocks t
  | answerBody t answer => exact h.answerBody hlocks t answer
  | answerCheck t answer => exact h.answerCheck hlocks t answer
  | next => exact ofState _ _
  | collect | disturb | stop => exact ⟨h.stands, h.owned, h.contended, h.scarce, h.spent⟩

/-! ## Nothing gets stuck -/

/-- As long as there are tasks, one of them can be resumed and has something to do then, or it waits
for a callback. -/
theorem exists_ready (h : q.Orderly none False) (htasks : q.tasks ≠ []) :
    (∃ t k, t ∈ q.runnable ∧ q.task? t = some k ∧ k.phase.isReady = true) ∨
      ∃ t n pause, q.pausedAt? t = some (n, pause) := by
  -- Whoever has the lock of a node is about to evaluate it, or does so.
  have hholder : ∀ {t k}, q.task? t = some k → k.phase.holdsLock = true →
      (∃ t k, t ∈ q.runnable ∧ q.task? t = some k ∧ k.phase.isReady = true) ∨
        ∃ t n pause, q.pausedAt? t = some (n, pause) := by
    intro t k hk hhold
    have hstands := h.stands hk
    unfold Stands at hstands
    cases hphase : k.phase with
    | locked => rw [hphase] at hstands; exact .inl ⟨t, k, hstands, hk, by rw [hphase]; rfl⟩
    | paused pause => exact .inr ⟨t, k.node, pause, pausedAt?_eq_some.2 ⟨k, hk, rfl, hphase⟩⟩
    | arriving | awaitingPermit | permitted | awaitingLock => rw [hphase] at hhold; cases hhold
  have hpermitted : ∀ {t k}, q.task? t = some k → k.phase.hasPermit = true →
      (∃ t k, t ∈ q.runnable ∧ q.task? t = some k ∧ k.phase.isReady = true) ∨
        ∃ t n pause, q.pausedAt? t = some (n, pause) := by
    intro t k hk hpermit
    have hstands := h.stands hk
    unfold Stands at hstands
    cases hphase : k.phase with
    | permitted => rw [hphase] at hstands; exact .inl ⟨t, k, hstands, hk, by rw [hphase]; rfl⟩
    | awaitingLock =>
      rw [hphase] at hstands
      obtain ⟨u, j, hj, -, hhold⟩ := h.owned (h.contended hstands) nofun
      exact hholder hj hhold
    | locked | paused => exact hholder hk (by rw [hphase]; rfl)
    | arriving | awaitingPermit => rw [hphase] at hpermit; cases hpermit
  obtain ⟨k, hmem⟩ := List.exists_mem_of_ne_nil _ htasks
  obtain ⟨j, hj⟩ : ∃ j, q.task? k.id = some j :=
    Option.isSome_iff_exists.1 (List.find?_isSome.2 ⟨k, hmem, beq_self_eq_true _⟩)
  have hstands := h.stands hj
  unfold Stands at hstands
  cases hphase : j.phase with
  | arriving => rw [hphase] at hstands; exact .inl ⟨_, j, hstands, hj, by rw [hphase]; rfl⟩
  | awaitingPermit =>
    rw [hphase] at hstands
    obtain ⟨u, i, hi, hpermit⟩ := (h.spent (h.scarce hstands)).resolve_left id
    exact hpermitted hi hpermit
  | permitted | awaitingLock | locked | paused => exact hpermitted hj (by rw [hphase]; rfl)

/-- As long as there are tasks, one of them can be resumed, or it waits for a callback. -/
theorem stirs (h : q.Orderly none False) (htasks : q.tasks ≠ []) :
    (∃ t, t ∈ q.runnable) ∨ ∃ t n pause, q.pausedAt? t = some (n, pause) :=
  (h.exists_ready htasks).imp_left fun ⟨t, _, ht, _⟩ => ⟨t, ht⟩

end Orderly

end Pass

end Rollout.Engine
