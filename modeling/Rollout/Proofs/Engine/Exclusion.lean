import Mathlib.Data.List.Nodup
import Rollout.Engine.Pass
import Rollout.Proofs.Table

/-!
# One evaluation of a node at a time

A task that has taken the lock of its node evaluates it, and no other task does until the lock
is passed on.  `Locks` is what the moves of a pass keep for this; tasks are seen through `task?`
only, by their numbers.
-/

namespace Rollout.Engine

/-- A task in this phase has the lock of its node. -/
def Phase.holdsLock : Phase → Bool
  | locked | paused _ => true
  | _ => false

namespace Pass

variable {ω : Type} {q : Pass ω} {t u : TaskId} {k : Task}

/-! ## Tasks by number -/

theorem id_of_task? (h : q.task? t = some k) : k.id = t := by
  have := List.find?_some h
  simpa using this

/-- A change of phase is seen by whoever looks for the task, and by no one else. -/
theorem find?_map_phase (tasks : List Task) (t u : TaskId) (s : Phase) :
    (tasks.map fun k => if k.id == t then { k with phase := s } else k).find? (·.id == u) =
      if u = t then (tasks.find? (·.id == t)).map fun k => { k with phase := s }
      else tasks.find? (·.id == u) := by
  induction tasks with
  | nil => simp
  | cons k ks ih =>
    rw [List.map_cons, List.find?_cons, List.find?_cons, List.find?_cons, ih]
    by_cases hk : k.id = t
    · subst hk
      simp only [beq_self_eq_true, if_true]
      by_cases hu : u = k.id
      · simp [hu]
      · have hku : (k.id == u) = false := by simpa using Ne.symm hu
        simp [hu, hku]
    · have hkt : (k.id == t) = false := by simpa using hk
      simp only [hkt, Bool.false_eq_true, if_false]
      by_cases hu : u = t
      · subst hu
        simp [hkt]
      · cases k.id == u <;> simp [hu]

/-- A task in a new phase is the same task otherwise. -/
theorem task?_setPhase (q : Pass ω) (t : TaskId) (s : Phase) (u : TaskId) :
    (q.setPhase t s).task? u =
      if u = t then (q.task? t).map fun k => { k with phase := s } else q.task? u :=
  find?_map_phase q.tasks t u s

/-- A task that wakes is in its new phase. -/
theorem task?_wake (q : Pass ω) (t : TaskId) (s : Phase) (u : TaskId) :
    (q.wake t s).task? u =
      if u = t then (q.task? t).map fun k => { k with phase := s } else q.task? u :=
  task?_setPhase q t s u

/-- A task that is taken out is not found, and the others are. -/
theorem find?_filter_id (tasks : List Task) (t u : TaskId) :
    (tasks.filter (·.id != t)).find? (·.id == u) =
      if u = t then none else tasks.find? (·.id == u) := by
  induction tasks with
  | nil => simp
  | cons k ks ih =>
    rw [List.filter_cons, List.find?_cons]
    by_cases hk : k.id = t
    · -- the head is the task taken out
      have hbne : (k.id != t) = false := by simpa using hk
      rw [if_neg (by simp [hbne]), ih]
      by_cases hu : u = t
      · simp [hu]
      · have hku : (k.id == u) = false := by simpa [hk] using Ne.symm hu
        simp [hu, hku]
    · have hbne : (k.id != t) = true := by simpa using hk
      rw [if_pos hbne, List.find?_cons, ih]
      by_cases hu : u = t
      · subst hu
        have hku : (k.id == u) = false := by simpa using hk
        simp [hku]
      · simp [hu]

/-! ## Locks -/

/-- The locks and the lines of a pass are in order. -/
structure Locks (q : Pass ω) : Prop where
  bound : ∀ {t k}, q.task? t = some k → t < q.spawned
  alone : ∀ {t k u j}, q.task? t = some k → k.phase.holdsLock = true → q.task? u = some j →
    j.phase.holdsLock = true → k.node = j.node → t = u
  held : ∀ {t k}, q.task? t = some k → k.phase.holdsLock = true → k.node ∈ q.held
  lockLine : ∀ {n t}, (n, t) ∈ q.lockLine →
    ∃ k, q.task? t = some k ∧ k.node = n ∧ k.phase = .awaitingLock
  lockLine_nodup : (q.lockLine.map (·.2)).Nodup
  permitLine : ∀ {t}, t ∈ q.permitLine → ∃ k, q.task? t = some k ∧ k.phase = .awaitingPermit
  permitLine_nodup : q.permitLine.Nodup

/-- A task is in neither line. -/
def OutOfLine (q : Pass ω) (t : TaskId) : Prop := t ∉ q.lockLine.map (·.2) ∧ t ∉ q.permitLine

/-- A task may evaluate its node. -/
structure Holder (q : Pass ω) (k : Task) : Prop where
  task : q.task? k.id = some k
  held : k.node ∈ q.held
  alone : ∀ {u j}, q.task? u = some j → j.phase.holdsLock = true → j.node = k.node → u = k.id
  out_of_line : q.OutOfLine k.id

/-- The locks are in order however the rest of the pass may be. -/
theorem Locks.of_same {q' : Pass ω} (h : q.Locks) (htasks : q'.tasks = q.tasks)
    (hspawned : q'.spawned = q.spawned) (hheld : q'.held = q.held)
    (hlock : q'.lockLine = q.lockLine) (hpermit : q'.permitLine = q.permitLine) : q'.Locks := by
  have htask : ∀ u, q'.task? u = q.task? u := by
    intro u
    unfold Pass.task?
    rw [htasks]
  constructor
  · intro t k hk
    rw [htask] at hk
    rw [hspawned]
    exact h.bound hk
  · intro t k u j hk hhold hj
    rw [htask] at hk hj
    exact h.alone hk hhold hj
  · intro t k hk hhold
    rw [htask] at hk
    rw [hheld]
    exact h.held hk hhold
  · intro n t ht
    rw [hlock] at ht
    rw [htask]
    exact h.lockLine ht
  · rw [hlock]
    exact h.lockLine_nodup
  · intro t ht
    rw [hpermit] at ht
    rw [htask]
    exact h.permitLine ht
  · rw [hpermit]
    exact h.permitLine_nodup

/-- Only tasks that wait for a lock stand in line for one. -/
theorem Locks.not_mem_lockLine (h : q.Locks) (hk : q.task? t = some k)
    (hphase : k.phase ≠ .awaitingLock) : t ∉ q.lockLine.map (·.2) := by
  intro hmem
  obtain ⟨⟨n, u⟩, he, rfl⟩ := List.mem_map.1 hmem
  obtain ⟨j, hj, -, hwaits⟩ := h.lockLine he
  exact hphase (Option.some.inj (hk.symm.trans hj) ▸ hwaits)

/-- Only tasks that wait for a permit stand in line for one. -/
theorem Locks.not_mem_permitLine (h : q.Locks) (hk : q.task? t = some k)
    (hphase : k.phase ≠ .awaitingPermit) : t ∉ q.permitLine := by
  intro hmem
  obtain ⟨j, hj, hwaits⟩ := h.permitLine hmem
  exact hphase (Option.some.inj (hk.symm.trans hj) ▸ hwaits)

theorem Locks.outOfLine (h : q.Locks) (hk : q.task? t = some k) (hlock : k.phase ≠ .awaitingLock)
    (hpermit : k.phase ≠ .awaitingPermit) : q.OutOfLine t :=
  ⟨h.not_mem_lockLine hk hlock, h.not_mem_permitLine hk hpermit⟩

/-- Whoever is in line stays there while a task that is in no line changes or ends. -/
theorem Locks.lines_of_kept {q' : Pass ω} (h : q.Locks) (hline : q.OutOfLine t)
    (hkept : ∀ {u}, u ≠ t → q'.task? u = q.task? u) :
    (∀ {n u}, (n, u) ∈ q.lockLine →
        ∃ k, q'.task? u = some k ∧ k.node = n ∧ k.phase = .awaitingLock) ∧
      ∀ {u}, u ∈ q.permitLine → ∃ k, q'.task? u = some k ∧ k.phase = .awaitingPermit := by
  refine ⟨fun {n u} hu => ?_, fun {u} hu => ?_⟩
  · have hne : u ≠ t := fun hut => hline.1 (hut ▸ List.mem_map_of_mem hu)
    rw [hkept hne]
    exact h.lockLine hu
  · have hne : u ≠ t := fun hut => hline.2 (hut ▸ hu)
    rw [hkept hne]
    exact h.permitLine hu

/-- A pass that has not spawned anything has its locks in order. -/
theorem Locks.ofState (s : State ω) (concurrency : Option Nat) : (ofState s concurrency).Locks where
  bound h := by cases h
  alone h := by cases h
  held h := by cases h
  lockLine h := by cases h
  lockLine_nodup := List.nodup_nil
  permitLine h := by cases h
  permitLine_nodup := List.nodup_nil

/-- A task that is in no line changes its phase.  If it is to have the lock of its node then it
must be free to take it. -/
theorem Locks.setPhase (h : q.Locks) (hk : q.task? t = some k) (hline : q.OutOfLine t) {s : Phase}
    (hs : s.holdsLock = true → q.Holder k) : (q.setPhase t s).Locks := by
  obtain rfl := id_of_task? hk
  -- seen from outside, one task is in its new phase and all others are as before
  have hview : ∀ {u j}, (q.setPhase k.id s).task? u = some j →
      u = k.id ∧ j = { k with phase := s } ∨ u ≠ k.id ∧ q.task? u = some j := by
    intro u j hj
    rw [task?_setPhase, hk] at hj
    by_cases hu : u = k.id
    · rw [if_pos hu] at hj
      exact .inl ⟨hu, (Option.some.inj hj).symm⟩
    · rw [if_neg hu] at hj
      exact .inr ⟨hu, hj⟩
  have hothers : ∀ {u}, u ≠ k.id → (q.setPhase k.id s).task? u = q.task? u := by
    intro u hu
    rw [task?_setPhase, if_neg hu]
  obtain ⟨hlocks, hpermits⟩ := h.lines_of_kept hline hothers
  refine ⟨fun {u j} hj => ?_, fun {u j u' j'} hj hhold hj' hhold' hnode => ?_,
    fun {u j} hj hhold => ?_, hlocks, h.lockLine_nodup, hpermits, h.permitLine_nodup⟩
  · rcases hview hj with ⟨rfl, -⟩ | ⟨-, hj⟩
    · exact h.bound hk
    · exact h.bound hj
  · -- of two that have the lock of one node, either may be the task itself
    rcases hview hj with ⟨rfl, rfl⟩ | ⟨-, hj⟩ <;> rcases hview hj' with ⟨rfl, rfl⟩ | ⟨-, hj'⟩
    · rfl
    · exact ((hs hhold).alone hj' hhold' hnode.symm).symm
    · exact (hs hhold').alone hj hhold hnode
    · exact h.alone hj hhold hj' hhold' hnode
  · rcases hview hj with ⟨-, rfl⟩ | ⟨-, hj⟩
    · exact (hs hhold).held
    · exact h.held hj hhold

/-- A task gets in line for the lock of its node. -/
theorem Locks.awaitLock (h : q.Locks) (hk : q.task? t = some k) (hline : q.OutOfLine t) :
    ({ q with lockLine := q.lockLine ++ [(k.node, t)] }.setPhase t .awaitingLock).Locks := by
  have hset := h.setPhase hk hline (s := .awaitingLock) nofun
  have hself : (q.setPhase t .awaitingLock).task? t = some { k with phase := .awaitingLock } := by
    rw [task?_setPhase, if_pos rfl, hk]
    rfl
  -- only the line has grown, by a task that stood in none
  refine ⟨hset.bound, hset.alone, hset.held, fun {n u} hu => ?_, ?_, hset.permitLine,
    h.permitLine_nodup⟩
  · rcases List.mem_append.1 hu with hu | hu
    · exact hset.lockLine hu
    · obtain ⟨rfl, rfl⟩ := Prod.mk.inj (List.mem_singleton.1 hu)
      exact ⟨_, hself, rfl, rfl⟩
  · show ((q.lockLine ++ [(k.node, t)]).map (·.2)).Nodup
    rw [List.map_append, List.map_singleton]
    exact List.Nodup.append h.lockLine_nodup (List.nodup_singleton t)
      (List.disjoint_singleton.2 hline.1)

/-- A task gets in line for a permit. -/
theorem Locks.awaitPermit (h : q.Locks) (hk : q.task? t = some k) (hline : q.OutOfLine t) :
    ({ q with permitLine := q.permitLine ++ [t] }.setPhase t .awaitingPermit).Locks := by
  have hset := h.setPhase hk hline (s := .awaitingPermit) nofun
  have hself : (q.setPhase t .awaitingPermit).task? t =
      some { k with phase := .awaitingPermit } := by
    rw [task?_setPhase, if_pos rfl, hk]
    rfl
  refine ⟨hset.bound, hset.alone, hset.held, hset.lockLine, h.lockLine_nodup, fun {u} hu => ?_, ?_⟩
  · rcases List.mem_append.1 hu with hu | hu
    · exact hset.permitLine hu
    · obtain rfl := List.mem_singleton.1 hu
      exact ⟨_, hself, rfl⟩
  · exact List.Nodup.append h.permitLine_nodup (List.nodup_singleton t)
      (List.disjoint_singleton.2 hline.2)

/-! ## Ends of tasks -/

/-- The pass without a task, before its lock and its permit are passed on. -/
def dropTask (q : Pass ω) (k : Task) (result : Except Fault Unit) : Pass ω :=
  { q with tasks := q.tasks.filter (·.id != k.id), results := q.results ++ [result] }

/-- A task that is dropped is gone, and the others stay. -/
theorem task?_dropTask (q : Pass ω) (k : Task) (result : Except Fault Unit) (u : TaskId) :
    (q.dropTask k result).task? u = if u = k.id then none else q.task? u :=
  find?_filter_id q.tasks k.id u

/-- When the holder of a lock is dropped, nobody holds the lock of its node. -/
theorem Locks.dropTask (h : q.Locks) (hk : q.Holder k) (result : Except Fault Unit) :
    (q.dropTask k result).Locks ∧
      ∀ {u j}, (q.dropTask k result).task? u = some j → j.phase.holdsLock = true →
        j.node ≠ k.node := by
  have hview : ∀ {u j}, (q.dropTask k result).task? u = some j → u ≠ k.id ∧ q.task? u = some j := by
    intro u j hj
    rw [task?_dropTask] at hj
    by_cases hu : u = k.id
    · rw [if_pos hu] at hj
      cases hj
    · rw [if_neg hu] at hj
      exact ⟨hu, hj⟩
  have hothers : ∀ {u}, u ≠ k.id → (q.dropTask k result).task? u = q.task? u := by
    intro u hu
    rw [task?_dropTask, if_neg hu]
  obtain ⟨hlocks, hpermits⟩ := h.lines_of_kept hk.out_of_line hothers
  refine ⟨⟨fun hj => h.bound (hview hj).2, fun hj hhold hj' hhold' hnode =>
      h.alone (hview hj).2 hhold (hview hj').2 hhold' hnode,
    fun hj hhold => h.held (hview hj).2 hhold, hlocks, h.lockLine_nodup, hpermits,
    h.permitLine_nodup⟩, fun {u j} hj hhold hnode => ?_⟩
  exact (hview hj).1 (hk.alone (hview hj).2 hhold hnode)

/-- What is found first is what is erased. -/
theorem exists_split_eraseP {α : Type} {l : List α} {f : α → Bool} {a : α}
    (h : l.find? f = some a) : ∃ pre post, l = pre ++ a :: post ∧ l.eraseP f = pre ++ post := by
  obtain ⟨ha, pre, post, rfl, hpre⟩ := List.find?_eq_some_iff_append.1 h
  refine ⟨pre, post, rfl, ?_⟩
  rw [List.eraseP_append_right _ (fun e he => by simpa using hpre e he), List.eraseP_cons_of_pos ha]

/-- A lock that no task has is passed on or put back. -/
theorem Locks.releaseLock (h : q.Locks) {n : NodeId} (hheld : n ∈ q.held)
    (hfree : ∀ {u j}, q.task? u = some j → j.phase.holdsLock = true → j.node ≠ n) :
    (q.releaseLock n).Locks := by
  unfold Pass.releaseLock
  cases hline : q.lockLine.find? (·.1 == n) with
  | none =>
    refine ⟨h.bound, h.alone, fun {u j} hj hhold => ?_, h.lockLine, h.lockLine_nodup,
      h.permitLine, h.permitLine_nodup⟩
    simp only [List.mem_filter, bne_iff_ne]
    exact ⟨h.held hj hhold, hfree hj hhold⟩
  | some next =>
    obtain ⟨m, u⟩ := next
    obtain rfl : m = n := by simpa using List.find?_some hline
    obtain ⟨k, hk, hnode, hphase⟩ := h.lockLine (List.mem_of_find?_eq_some hline)
    obtain rfl := id_of_task? hk
    -- The task found is the only one in the line with its number, so the rest is free of it.
    obtain ⟨pre, post, hsplit, herase⟩ := exists_split_eraseP hline
    have hline' := h.lockLine_nodup
    rw [hsplit, List.map_append, List.map_cons, List.nodup_middle, ← List.map_append,
      List.nodup_cons] at hline'
    have hrest : ({ q with lockLine := pre ++ post } : Pass ω).Locks := by
      refine ⟨h.bound, h.alone, h.held, fun {n u} hu => h.lockLine ?_, hline'.2, h.permitLine,
        h.permitLine_nodup⟩
      rw [hsplit]
      exact (List.mem_append.1 hu).elim (List.mem_append_left _)
        fun hu => List.mem_append_right _ (List.mem_cons_of_mem _ hu)
    have hpermit : k.id ∉ q.permitLine := h.not_mem_permitLine hk (by rw [hphase]; decide)
    -- The first in line may have the lock, which nobody has now.
    have hholder : ({ q with lockLine := pre ++ post } : Pass ω).Holder k :=
      ⟨hk, hnode ▸ hheld, fun hj hhold hj' => absurd (hj'.trans hnode) (hfree hj hhold),
        hline'.1, hpermit⟩
    have hset := hrest.setPhase hk ⟨hline'.1, hpermit⟩ (s := .locked) fun _ => hholder
    simp only [herase]
    exact hset.of_same rfl rfl rfl rfl rfl

/-- A permit is passed on or put back. -/
theorem Locks.releasePermit (h : q.Locks) : q.releasePermit.Locks := by
  unfold Pass.releasePermit
  cases q.free with
  | none => exact h
  | some free =>
    cases hline : q.permitLine with
    | nil =>
      exact ⟨h.bound, h.alone, h.held, h.lockLine, h.lockLine_nodup, nofun, List.nodup_nil⟩
    | cons next line =>
      have hnodup := h.permitLine_nodup
      rw [hline, List.nodup_cons] at hnodup
      obtain ⟨k, hk, hphase⟩ := h.permitLine (t := next) (by rw [hline]; exact List.mem_cons_self)
      -- the first in line leaves it before its phase changes, so that it is out of line when it
      -- wakes
      have hrest : ({ q with permitLine := line } : Pass ω).Locks :=
        ⟨h.bound, h.alone, h.held, h.lockLine, h.lockLine_nodup,
          fun hu => h.permitLine (by rw [hline]; exact List.mem_cons_of_mem _ hu), hnodup.2⟩
      have hlock : next ∉ q.lockLine.map (·.2) :=
        h.not_mem_lockLine hk (by rw [hphase]; decide)
      have hset := hrest.setPhase hk ⟨hlock, hnodup.1⟩ (s := .permitted) nofun
      exact hset.of_same rfl rfl rfl rfl rfl

/-- When a task ends, nobody has the lock of its node until it is passed on. -/
theorem Locks.finish (h : q.Locks) (hk : q.Holder k) (result : Except Fault Unit) :
    (q.finish k result).Locks := by
  obtain ⟨hdrop, hfree⟩ := h.dropTask hk result
  exact (hdrop.releaseLock hk.held hfree).releasePermit

/-! ## Tasks after the end of another -/

/-- Tasks have at most been given a lock or a permit. -/
def Granted (q q' : Pass ω) : Prop :=
  ∀ u, ∃ f : Phase → Phase, (∀ s, f s = s ∨ f s = .locked ∨ f s = .permitted) ∧
    q'.task? u = (q.task? u).map fun k => { k with phase := f k.phase }

/-- To grant nothing is a case of granting. -/
theorem Granted.of_task?_eq {q' : Pass ω} (h : ∀ u, q'.task? u = q.task? u) : q.Granted q' := by
  intro u
  refine ⟨id, fun s => .inl rfl, ?_⟩
  rw [h]
  cases q.task? u <;> rfl

/-- What is granted in two steps is granted. -/
theorem Granted.trans {q' q'' : Pass ω} (h : q.Granted q') (h' : q'.Granted q'') :
    q.Granted q'' := by
  intro u
  obtain ⟨f, hf, hview⟩ := h u
  obtain ⟨g, hg, hview'⟩ := h' u
  refine ⟨g ∘ f, fun s => ?_, ?_⟩
  · rcases hg (f s) with hgs | hgs
    · exact (hf s).imp (hgs.trans ·) fun hs => hs.imp (hgs.trans ·) (hgs.trans ·)
    · exact .inr hgs
  · rw [hview', hview, Option.map_map]
    rfl

theorem granted_wake (q : Pass ω) (t : TaskId) {s : Phase} (hs : s = .locked ∨ s = .permitted) :
    q.Granted (q.wake t s) := by
  intro u
  rw [task?_wake]
  by_cases hu : u = t
  · subst hu
    exact ⟨fun _ => s, fun _ => .inr hs, if_pos rfl⟩
  · refine ⟨id, fun s => .inl rfl, ?_⟩
    rw [if_neg hu]
    cases q.task? u <;> rfl

/-- A lock that is released is granted to the next in line. -/
theorem granted_releaseLock (q : Pass ω) (n : NodeId) : q.Granted (q.releaseLock n) := by
  unfold releaseLock
  cases q.lockLine.find? (·.1 == n) with
  | none => exact .of_task?_eq fun _ => rfl
  | some next =>
    exact Granted.trans (.of_task?_eq fun _ => rfl) (granted_wake _ _ (.inl rfl))

/-- A permit that is released is granted to the next in line. -/
theorem granted_releasePermit (q : Pass ω) : q.Granted q.releasePermit := by
  unfold releasePermit
  cases q.free with
  | none => exact .of_task?_eq fun _ => rfl
  | some free =>
    cases q.permitLine with
    | nil => exact .of_task?_eq fun _ => rfl
    | cons next line =>
      exact Granted.trans (.of_task?_eq fun _ => rfl) (granted_wake _ _ (.inr rfl))

/-- A task that finishes passes its lock and its permit on, and nothing else happens to the others.
-/
theorem granted_finish (q : Pass ω) (k : Task) (result : Except Fault Unit) :
    (q.dropTask k result).Granted (q.finish k result) :=
  (granted_releaseLock _ _).trans (granted_releasePermit _)

/-- A task that is there after another has ended was there before. -/
theorem task?_of_finish {result : Except Fault Unit} {j : Task}
    (h : (q.finish k result).task? u = some j) :
    u ≠ k.id ∧ ∃ i, q.task? u = some i ∧ i.node = j.node ∧
      (j.phase = i.phase ∨ j.phase = .locked ∨ j.phase = .permitted) := by
  obtain ⟨f, hf, hview⟩ := granted_finish q k result u
  rw [hview, task?_dropTask] at h
  by_cases hu : u = k.id
  · simp [hu] at h
  · rw [if_neg hu] at h
    obtain ⟨i, hi, rfl⟩ := Option.map_eq_some_iff.1 h
    exact ⟨hu, i, hi, rfl, hf i.phase⟩

/-- A task stays while another ends. -/
theorem task?_finish {result : Except Fault Unit} {j : Task} (hu : u ≠ k.id)
    (h : q.task? u = some j) : ∃ i, (q.finish k result).task? u = some i ∧ i.node = j.node := by
  obtain ⟨f, -, hview⟩ := granted_finish q k result u
  rw [task?_dropTask, if_neg hu, h] at hview
  exact ⟨_, hview, rfl⟩

theorem releaseLock_untouched (q : Pass ω) (n : NodeId) :
    (q.releaseLock n).shared = q.shared ∧ (q.releaseLock n).results = q.results := by
  unfold releaseLock
  split <;> exact ⟨rfl, rfl⟩

theorem releasePermit_untouched (q : Pass ω) :
    q.releasePermit.shared = q.shared ∧ q.releasePermit.results = q.results := by
  unfold releasePermit
  split
  · exact ⟨rfl, rfl⟩
  · split <;> exact ⟨rfl, rfl⟩

theorem finish_shared (q : Pass ω) (k : Task) (result : Except Fault Unit) :
    (q.finish k result).shared = q.shared :=
  (releasePermit_untouched _).1.trans (releaseLock_untouched _ _).1

/-- The result of a task that finishes comes last. -/
theorem finish_results (q : Pass ω) (k : Task) (result : Except Fault Unit) :
    (q.finish k result).results = q.results ++ [result] :=
  (releasePermit_untouched _).2.trans (releaseLock_untouched _ _).2

/-- A segment does to the state what it does on its own; locks and permits do not bear on it. -/
theorem runSegment_shared (q : Pass ω) (k : Task) (segment : StateM (State ω) Progress) :
    (q.runSegment k segment).shared = (segment.run q.shared).2 := by
  unfold runSegment
  cases segment.run q.shared with
  | mk progress shared =>
    cases progress with
    | paused pause => rfl
    | finished result => exact finish_shared ..

end Pass

end Rollout.Engine
