import Rollout.Proofs.Engine.Resumption
import Rollout.Proofs.Engine.Segment

/-!
# Interleavings

A run is a sequence of moves: those of the passes, the answers of callbacks, the start of the next
pass, and the passing of the deadline.  Between any two moves the environment may change in
whatever way, so that a run with arbitrary callbacks, taking their turns in arbitrary order, is a
sequence of moves.  `Reachable` says which passes such a sequence leads to, and `Steady` is what
holds of all of them.
-/

namespace Rollout

/-- The plan with a status tracker attached to its context. -/
def Plan.attach (p : Plan) : Plan := { p with context := { p.context with attached := true } }

namespace Engine

/-- What may happen next in a run. -/
inductive Move (ω : Type) where
  /-- Queued nodes become tasks. -/
  | spawn
  | resume (t : TaskId)
  | answerBody (t : TaskId) (answer : Answer Unit)
  | answerCheck (t : TaskId) (answer : Answer Readiness)
  /-- The oldest result is looked at. -/
  | collect
  /-- The environment changes, and something may be logged. -/
  | disturb (world : ω) (log : Array Log.Event)
  /-- The deadline passes. -/
  | stop
  /-- The pass has settled, and the next one begins. -/
  | next

/-- The move is the passing of the deadline. -/
def Move.stops {ω : Type} : Move ω → Bool
  | .stop => true
  | _ => false

namespace Pass

variable {ω : Type}

/-- No task is left, nothing is queued, and there has been no defect. -/
def settled (q : Pass ω) : Bool :=
  q.tasks.isEmpty && q.shared.queue.isEmpty && q.results.all fun r => r.isOk

/-- A task of this node has started the node's body and waits for its end. -/
def InBody (q : Pass ω) (n : NodeId) : Prop :=
  ∃ t k c, q.task? t = some k ∧ k.node = n ∧ k.phase = .paused (.body c)

/-- A move that may come next.  A defect is passed over only while a run that has been stopped
winds down; and only a settled pass is followed by another one. -/
def allows (q : Pass ω) : Move ω → Bool
  | .spawn => !q.shared.stopped
  | .resume t => q.runnable.contains t
  | .collect => q.shared.stopped || q.results.head?.all fun r => r.isOk
  | .next => q.settled && !q.shared.stopped
  | .answerBody _ _ | .answerCheck _ _ | .disturb _ _ | .stop => true

/-- The pass after a move. -/
def after (ask : Condition → ω → Readiness × ω) (concurrency : Option Nat) (q : Pass ω) :
    Move ω → Pass ω
  | .spawn => q.spawn
  | .resume t => q.resume ask t
  | .answerBody t answer => q.answerBody t answer
  | .answerCheck t answer => q.answerCheck t answer
  | .collect => { q with results := q.results.tail }
  | .disturb world log => { q with shared := { q.shared with world, log } }
  | .stop => { q with shared := { q.shared with stopped := true } }
  | .next => .ofState { q.shared with queue := q.shared.plan.leaves } concurrency

/-- The first pass over a plan. -/
def first (p : Plan) (concurrency : Option Nat) (dryRun : Bool) (world : ω)
    (log : Array Log.Event) : Pass ω :=
  let shared : State ω :=
    { plan := p.attach
      tracker := .ofInfos p.goal dryRun p.infos
      dryRun, world, log
      queue := p.leaves }
  .ofState shared concurrency

end Pass

/-- The passes that some run leads to. -/
inductive Reachable {ω : Type} (ask : Condition → ω → Readiness × ω) (concurrency : Option Nat)
    (start : Pass ω) : Pass ω → Prop where
  | start : Reachable ask concurrency start start
  | move {q} (m : Move ω) : Reachable ask concurrency start q → q.allows m = true →
      Reachable ask concurrency start (q.after ask concurrency m)

/-- Make some moves, if each of them may come next. -/
def play {ω : Type} (ask : Condition → ω → Readiness × ω) (concurrency : Option Nat) :
    List (Move ω) → Pass ω → Option (Pass ω)
  | [], q => some q
  | m :: ms, q => if q.allows m then play ask concurrency ms (q.after ask concurrency m) else none

/-- What is played from a reachable pass is reachable. -/
theorem reachable_of_play {ω : Type} {ask : Condition → ω → Readiness × ω}
    {concurrency : Option Nat} {start q q' : Pass ω} (h : Reachable ask concurrency start q)
    {ms : List (Move ω)} (hplay : play ask concurrency ms q = some q') :
    Reachable ask concurrency start q' := by
  induction ms generalizing q with
  | nil => exact Option.some.inj hplay ▸ h
  | cons m ms ih =>
    unfold play at hplay
    by_cases hm : q.allows m = true
    · rw [if_pos hm] at hplay
      exact ih (h.move m hm) hplay
    · rw [if_neg hm] at hplay
      cases hplay

/-- The plan of a deployment, the empty one if it has none. -/
def planned (d : Deployment) : Plan :=
  match d.plan with
  | .ok p => p
  | .error _ => .empty d.goal {}

/-- Conditions are ready as soon as the gate is open. -/
def gate (_ : Condition) (isOpen : Bool) : Readiness × Bool :=
  (if isOpen then .ready else .waitingFor "closed", isOpen)

/-- The pass that some moves over a deployment lead to, with the gate open or closed. -/
def replay (d : Deployment) (isOpen : Bool) (ms : List (Move Bool)) : Option (Pass Bool) :=
  play gate none ms (.first (planned d) none false isOpen #[])

/-- What is replayed from the first pass is reachable. -/
theorem reachable_of_replay {d : Deployment} {isOpen : Bool} {ms : List (Move Bool)}
    {q : Pass Bool} (h : replay d isOpen ms = some q) :
    Reachable gate none (.first (planned d) none false isOpen #[]) q :=
  reachable_of_play .start h

open Rollout.Plan

variable {ω : Type} {p : Plan} {q q' : Pass ω} {k : Task} {t : TaskId}

/-! ## Steady passes -/

/-- What holds of every pass of a run over `p`. -/
structure Steady (p : Plan) (q : Pass ω) : Prop where
  consistent : Consistent p q.shared
  locks : q.Locks
  paused : ∀ {t k pause}, q.task? t = some k → k.phase = .paused pause →
    InProgress p (statusAfter q.shared.trace) k.node ∧ ∀ c, pause = .check c → HasCheck p k.node

/-- Tasks have been moved about, but nothing has been evaluated. -/
structure Rearranged (q q' : Pass ω) : Prop where
  shared : q'.shared = q.shared
  results : q'.results = q.results
  kept : ∀ {u j}, q.task? u = some j → ∃ i, q'.task? u = some i ∧ i.node = j.node
  paused : ∀ {u i pause}, q'.task? u = some i → i.phase = .paused pause → q.task? u = some i
  locks : q'.Locks

/-- If the tasks look the same, nothing but lines and locks can have been rearranged. -/
theorem Rearranged.of_task?_eq (h : q'.Locks) (hshared : q'.shared = q.shared)
    (hresults : q'.results = q.results) (htask : ∀ u, q'.task? u = q.task? u) :
    Rearranged q q' where
  shared := hshared
  results := hresults
  kept {u j} hj := ⟨j, (htask u).trans hj, rfl⟩
  paused {u _ _} hi _ := (htask u).symm.trans hi
  locks := h

/-- A task gets in line. -/
theorem Rearranged.setPhase (hk : q.task? t = some k) {s : Phase} (hs : s.holdsLock = false)
    (h : (q.setPhase t s).Locks) : Rearranged q (q.setPhase t s) where
  shared := rfl
  results := rfl
  kept {u j} hj := by
    rw [Pass.task?_setPhase, hk]
    by_cases hu : u = t
    · subst hu
      obtain rfl := Option.some.inj (hk.symm.trans hj)
      exact ⟨_, if_pos rfl, rfl⟩
    · exact ⟨j, by rw [if_neg hu, hj], rfl⟩
  paused {u i pause} hi hpause := by
    rw [Pass.task?_setPhase, hk] at hi
    by_cases hu : u = t
    · rw [if_pos hu] at hi
      obtain rfl := Option.some.inj hi
      -- a phase without a lock is no pause, so the task itself cannot have come to wait
      have hphase : s = .paused pause := hpause
      rw [hphase] at hs
      cases hs
    · rwa [if_neg hu] at hi
  locks := h

/-- To rearrange twice is to rearrange. -/
theorem Rearranged.trans {q'' : Pass ω} (h : Rearranged q q') (h' : Rearranged q' q'') :
    Rearranged q q'' where
  shared := h'.shared.trans h.shared
  results := h'.results.trans h.results
  kept hj := by
    obtain ⟨i, hi, hnode⟩ := h.kept hj
    obtain ⟨i', hi', hnode'⟩ := h'.kept hi
    exact ⟨i', hi', hnode'.trans hnode⟩
  paused hi hpause := h.paused (h'.paused hi hpause) hpause
  locks := h'.locks

/-- What the move of one task comes to: either it only gets in line, or it runs a segment of the
evaluation of its node, having the lock of the node. -/
inductive TaskMoved {ω : Type} (p : Plan) (q : Pass ω) : Pass ω → Prop where
  | lined {q' : Pass ω} (h : Rearranged q q') : TaskMoved p q q'
  | ran {q₁ : Pass ω} {k : Task} {segment : StateM (State ω) Progress} (h : Rearranged q q₁)
      (hk : q₁.Holder k)
      (hadvance : Advance p k.node q.shared (segment.run q.shared).1 (segment.run q.shared).2) :
      TaskMoved p q (q₁.runSegment k segment)

section Moves

variable (ask : Condition → ω → Readiness × ω)

theorem rearranged_runnable (h : Steady p q) (runnable : List TaskId) :
    Rearranged q { q with runnable } :=
  .of_task?_eq (h.locks.of_same rfl rfl rfl rfl rfl) rfl rfl fun _ => rfl

/-- A task that is resumed gets in line, or begins its evaluation. -/
theorem resume_cases (h : Steady p q) (t : TaskId) :
    Rearranged q (q.resume ask t) ∨ ∃ q₁ k, Rearranged q q₁ ∧ q.task? k.id = some k ∧ q₁.Holder k ∧
      q.resume ask t = q₁.runSegment k (begin ask k.node) ∧ q₁.tasks = q.tasks ∧ t = k.id := by
  have hresumed := Pass.resumed ask q t
  have hlocks := h.locks.resumed ask hresumed
  generalize q.resume ask t = q' at hresumed hlocks
  cases hresumed with
  -- one case for each thing that a resumed task can do
  | idle => exact .inl (rearranged_runnable h _)
  | linedForPermit hk hphase hfree =>
    have hstep := Rearranged.setPhase (s := .awaitingPermit) (q := { q with
      runnable := q.runnable.erase t, permitLine := q.permitLine ++ [t] }) hk rfl hlocks
    exact .inl ⟨rfl, rfl, hstep.kept, hstep.paused, hlocks⟩
  | @linedForLock k free hk hpermit hheld =>
    have hstep := Rearranged.setPhase (s := .awaitingLock) (q := { q with
      runnable := q.runnable.erase t, free, lockLine := q.lockLine ++ [(k.node, t)] }) hk rfl hlocks
    exact .inl ⟨rfl, rfl, hstep.kept, hstep.paused, hlocks⟩
  -- the task has its permit and its lock, and runs
  | ran hk henters =>
    obtain rfl := Pass.id_of_task? hk
    obtain ⟨hlocks₁, hholder⟩ := h.locks.enters hk henters (q.runnable.erase _)
    exact .inr ⟨_, _, .of_task?_eq hlocks₁ rfl rfl fun _ => rfl, hk, hholder, rfl, rfl, rfl⟩

/-- A task that is resumed goes into a line, or it runs the first segment of its evaluation. -/
theorem taskMoved_resume (hp : p.Runnable) (h : Steady p q) (t : TaskId) :
    TaskMoved p q (q.resume ask t) := by
  rcases resume_cases ask h t with hq | ⟨q₁, k, hq, -, hk, hrun, -, -⟩
  · exact .lined hq
  · rw [hrun]
    exact .ran hq hk (begin_advance ask hp h.consistent _)

theorem rearranged_refl (h : Steady p q) : Rearranged q q :=
  .of_task?_eq h.locks rfl rfl fun _ => rfl

/-- The answer of a body lets its task run on, or nobody waits for it. -/
theorem taskMoved_answerBody (hp : p.Runnable) (h : Steady p q) (t : TaskId)
    (answer : Answer Unit) : TaskMoved p q (q.answerBody t answer) := by
  unfold Pass.answerBody
  split
  next k hk =>
    split
    next c hphase =>
      exact .ran (rearranged_refl h) (h.locks.holder hk (by rw [hphase]; rfl))
        (resumeBody_advance hp h.consistent (h.paused hk hphase).1 answer)
    next => exact .lined (rearranged_refl h)
  next => exact .lined (rearranged_refl h)

/-- The answer of a completion check lets its task run on, or nobody waits for it. -/
theorem taskMoved_answerCheck (hp : p.Runnable) (h : Steady p q) (t : TaskId)
    (answer : Answer Readiness) : TaskMoved p q (q.answerCheck t answer) := by
  unfold Pass.answerCheck
  split
  next k hk =>
    split
    next c hphase =>
      exact .ran (rearranged_refl h) (h.locks.holder hk (by rw [hphase]; rfl))
        (resumeCheck_advance hp h.consistent (h.paused hk hphase).1 ((h.paused hk hphase).2 c rfl)
          answer)
    next => exact .lined (rearranged_refl h)
  next => exact .lined (rearranged_refl h)

end Moves

/-! ## Every move keeps a pass steady -/

/-- Whether a node is in progress depends on its own status alone. -/
theorem InProgress.congr {status status' : NodeId → NodeStatus} {n : NodeId}
    (h : InProgress p status n) (hn : status' n = status n) : InProgress p status' n :=
  h.imp fun _ h => ⟨h.1, hn.trans h.2⟩

/-- Lines and locks do not bear on what is steady. -/
theorem Steady.rearranged (h : Steady p q) (hq : Rearranged q q') : Steady p q' where
  consistent := hq.shared ▸ h.consistent
  locks := hq.locks
  paused hk hphase := by
    rw [hq.shared]
    exact h.paused (hq.paused hk hphase) hphase

/-- A segment that advances its node keeps the pass steady: no other task waits for that node. -/
theorem Steady.ran (h : Steady p q) (hk : q.Holder k) {segment : StateM (State ω) Progress}
    (hadvance : Advance p k.node q.shared (segment.run q.shared).1 (segment.run q.shared).2) :
    Steady p (q.runSegment k segment) := by
  -- Whoever else has paused is at another node, which the segment leaves as it is.
  have hothers : ∀ {u j pause}, u ≠ k.id → q.task? u = some j → j.phase = .paused pause →
      InProgress p (statusAfter (segment.run q.shared).2.trace) j.node ∧
        ∀ c, pause = .check c → HasCheck p j.node := by
    intro u j pause hu hj hphase
    have hne : j.node ≠ k.node := fun hnode => hu (hk.alone hj (by rw [hphase]; rfl) hnode)
    obtain ⟨hprogress, hcheck⟩ := h.paused hj hphase
    exact ⟨hprogress.congr (hadvance.moved.started hne hprogress.started), hcheck⟩
  refine ⟨?_, h.locks.runSegment hk segment, fun {u j pause} hj hphase => ?_⟩
  · rw [Pass.runSegment_shared]
    exact hadvance.moved.consistent
  rw [Pass.runSegment_shared]
  by_cases hu : u = k.id
  · subst hu
    rw [Pass.task?_runSegment_self hk.task] at hj
    cases hprogress : (segment.run q.shared).1 with
    | finished result =>
      rw [hprogress] at hj
      cases hj
    | paused pause' =>
      rw [hprogress] at hj
      obtain rfl := Option.some.inj hj
      obtain rfl : pause' = pause := Phase.paused.inj hphase
      exact hadvance.paused _ hprogress
  · exact hothers hu ((h.locks.task?_runSegment hk hu hphase segment).1 hj) hphase

/-- Whatever a task does, the pass stays steady. -/
theorem Steady.taskMoved (h : Steady p q) (hq : TaskMoved p q q') : Steady p q' := by
  cases hq with
  | lined hq => exact h.rearranged hq
  | ran hq hk hadvance =>
    refine (h.rearranged hq).ran hk ?_
    rw [hq.shared]
    exact hadvance

/-! ## New tasks -/

/-- A spawned task gets the next number and is about to ask for a permit. -/
theorem task?_spawnOne (h : q.Locks) (n : NodeId) (u : TaskId) :
    (q.spawnOne n).task? u =
      if u = q.spawned then some ⟨q.spawned, n, .arriving⟩ else q.task? u := by
  -- numbers are given out once, so the new one is nobody's
  have hfresh : q.task? q.spawned = none := by
    cases hk : q.task? q.spawned with
    | none => rfl
    | some k => exact absurd (h.bound hk) (Nat.lt_irrefl _)
  have hview : (q.spawnOne n).task? u =
      (q.task? u).or (if q.spawned == u then some ⟨q.spawned, n, .arriving⟩ else none) := by
    unfold Pass.spawnOne Pass.task?
    rw [List.find?_append]
    congr 1
    cases hu : q.spawned == u <;> simp [hu]
  rw [hview]
  by_cases hu : u = q.spawned
  · subst hu
    simp [hfresh]
  · have hne : (q.spawned == u) = false := by simpa using Ne.symm hu
    simp [hu, hne]

/-- To spawn a task leaves the others as they are. -/
theorem rearranged_spawnOne (h : q.Locks) (n : NodeId) : Rearranged q (q.spawnOne n) := by
  have hne : ∀ {u j}, q.task? u = some j → u ≠ q.spawned := fun hj => Nat.ne_of_lt (h.bound hj)
  -- The new task has a number of its own and stands in no line.
  have hold : ∀ {u j}, q.task? u = some j → (q.spawnOne n).task? u = some j := by
    intro u j hj
    rw [task?_spawnOne h, if_neg (hne hj), hj]
  have hnew : ∀ {u i}, (q.spawnOne n).task? u = some i →
      u = q.spawned ∧ i = ⟨q.spawned, n, .arriving⟩ ∨ q.task? u = some i := by
    intro u i hi
    rw [task?_spawnOne h] at hi
    by_cases hu : u = q.spawned
    · rw [if_pos hu] at hi
      exact .inl ⟨hu, (Option.some.inj hi).symm⟩
    · rw [if_neg hu] at hi
      exact .inr hi
  have hhold : ∀ {u i}, (q.spawnOne n).task? u = some i → i.phase.holdsLock = true →
      q.task? u = some i := by
    intro u i hi hphase
    rcases hnew hi with ⟨-, rfl⟩ | hi
    · cases hphase
    · exact hi
  refine ⟨rfl, rfl, fun hj => ⟨_, hold hj, rfl⟩, fun {u i pause} hi hpause => ?_, ?_⟩
  · exact hhold hi (by rw [hpause]; rfl)
  · refine ⟨fun {u i} hi => ?_, fun hi hphase hj hphase' hnode =>
        h.alone (hhold hi hphase) hphase (hhold hj hphase') hphase' hnode,
      fun hi hphase => h.held (hhold hi hphase) hphase, fun hu => ?_, h.lockLine_nodup,
      fun hu => ?_, h.permitLine_nodup⟩
    · rcases hnew hi with ⟨rfl, -⟩ | hi
      · exact Nat.lt_succ_self _
      · exact Nat.lt_succ_of_lt (h.bound hi)
    · exact (h.lockLine hu).imp fun _ hk => ⟨hold hk.1, hk.2⟩
    · exact (h.permitLine hu).imp fun _ hk => ⟨hold hk.1, hk.2⟩

/-- Every node of a list gets a task. -/
theorem rearranged_foldl_spawnOne (h : q.Locks) (ns : List NodeId) :
    Rearranged q (ns.foldl Pass.spawnOne q) ∧
      ∀ n ∈ ns, ∃ u j, (ns.foldl Pass.spawnOne q).task? u = some j ∧ j.node = n := by
  induction ns generalizing q with
  | nil => exact ⟨.of_task?_eq h rfl rfl fun _ => rfl, nofun⟩
  | cons n ns ih =>
    have hone := rearranged_spawnOne h n
    obtain ⟨hrest, htasks⟩ := ih hone.locks
    refine ⟨hone.trans hrest, fun m hm => ?_⟩
    rcases List.mem_cons.1 hm with rfl | hm
    · obtain ⟨i, hi, hnode⟩ := hrest.kept (u := q.spawned) (j := ⟨q.spawned, m, .arriving⟩)
        (by rw [task?_spawnOne h, if_pos rfl])
      exact ⟨_, i, hi, hnode⟩
    · exact htasks m hm

/-- The pass with an empty queue. -/
def Pass.unqueued (q : Pass ω) : Pass ω := { q with shared := { q.shared with queue := [] } }

/-- A steady pass may change what the trace does not tell. -/
theorem Steady.withShared (h : Steady p q) {shared : State ω} (hshared : Consistent p shared)
    (htrace : shared.trace = q.shared.trace) : Steady p { q with shared } where
  consistent := hshared
  locks := h.locks.of_same rfl rfl rfl rfl rfl
  paused hk hphase := by
    refine (h.paused hk hphase).imp_left fun hprogress => ?_
    show InProgress p (statusAfter shared.trace) _
    rw [htrace]
    exact hprogress

theorem rearranged_spawn (h : q.Locks) :
    Rearranged q.unqueued q.spawn ∧
      ∀ n ∈ q.shared.queue, ∃ u j, q.spawn.task? u = some j ∧ j.node = n :=
  rearranged_foldl_spawnOne (q := q.unqueued) (h.of_same rfl rfl rfl rfl rfl) q.shared.queue

/-! ## All runs -/

/-- Every move keeps a pass steady. -/
theorem Steady.after {ask : Condition → ω → Readiness × ω} {concurrency : Option Nat}
    (hp : p.Runnable) (h : Steady p q) (m : Move ω) : Steady p (q.after ask concurrency m) := by
  cases m with
  | spawn =>
    have hunqueued : Steady p q.unqueued := h.withShared (h.consistent.withQueue []) rfl
    exact hunqueued.rearranged (rearranged_spawn h.locks).1
  | resume t => exact h.taskMoved (taskMoved_resume ask hp h t)
  | answerBody t answer => exact h.taskMoved (taskMoved_answerBody hp h t answer)
  | answerCheck t answer => exact h.taskMoved (taskMoved_answerCheck hp h t answer)
  | collect =>
    exact ⟨h.consistent, h.locks.of_same rfl rfl rfl rfl rfl, h.paused⟩
  | disturb world log => exact h.withShared (h.consistent.withWorld world log) rfl
  | stop => exact h.withShared (h.consistent.withStopped true) rfl
  | next => exact ⟨h.consistent.withQueue _, .ofState _ _, nofun⟩

/-- What the tracker is told of the nodes has their numbers, in order. -/
theorem ids_infos {p : Plan}
    (hids : ∀ {n : NodeId} {node : Node}, p.nodes[n]? = some node → node.id = n) :
    p.infos.map (·.id) = List.range p.infos.length := by
  refine List.ext_getElem? fun n => ?_
  unfold infos
  rw [List.map_map, List.getElem?_map, List.length_map]
  cases hnode : p.nodes[n]? with
  | none =>
    rw [List.getElem?_eq_none_iff] at hnode
    rw [Option.map_none, List.getElem?_eq_none (by simpa using hnode)]
  | some node =>
    rw [List.getElem?_range (lt_of_node hnode)]
    exact congrArg some (hids hnode)

/-- The first pass is steady. -/
theorem steady_first {p : Plan} (hp : p.attach.Runnable) (concurrency : Option Nat) (dryRun : Bool)
    (world : ω) (log : Array Log.Event) :
    Steady p.attach (Pass.first p concurrency dryRun world log) := by
  have hentry : ∀ {n}, n < p.nodes.length →
      ∃ e, (Tracker.ofInfos p.goal dryRun p.infos).lookup? n = some e ∧ e.status = .waiting := by
    intro n hn
    obtain ⟨node, hnode⟩ := node_of_lt hn
    have hinfo : node.info ∈ p.infos := List.mem_map_of_mem (List.mem_of_getElem? hnode)
    obtain ⟨e, he, hs⟩ := Tracker.lookup?_ofInfos p.goal dryRun hinfo
    have hid : node.info.id = n := hp.id_eq hnode
    exact ⟨e, hid ▸ he, hs⟩
  have hlive : ∀ {n}, p.isLive n = true ↔ n < p.nodes.length := hp.contains_iff
  -- Nothing has happened: every node is live and waits, and no task has paused.
  refine ⟨⟨rfl, hp.coherent, fun {a b k} => ?_, fun {n} => ?_, fun hn => ?_, fun {n} hn => ?_,
    .nil, ?_⟩, .ofState _ _, nofun⟩
  · exact ⟨fun h => ⟨h, hlive.2 (hp.source_lt h), hlive.2 (hp.target_lt h)⟩, fun h => h.1⟩
  · refine hlive.trans ⟨fun h => ⟨h, ?_⟩, fun h => h.1⟩
    intro hgoal
    cases hgoal.isFinal
  · exact (hentry hn).imp fun _ h => h.1
  · obtain ⟨e, he, hs⟩ := hentry hn
    exact (Tracker.status_of_entry he).trans hs
  · have htallied := (Tracker.Rostered.ofInfos p.goal dryRun (ids_infos hp.id_eq)).toTallied
    unfold infos at htallied
    rwa [List.length_map] at htallied

/-- Every reachable pass is steady. -/
theorem Reachable.steady {p : Plan} (hp : p.attach.Runnable)
    {ask : Condition → ω → Readiness × ω} {concurrency : Option Nat} {dryRun : Bool} {world : ω}
    {log : Array Log.Event} {q : Pass ω}
    (h : Reachable ask concurrency (.first p concurrency dryRun world log) q) :
    Steady p.attach q := by
  induction h with
  | start => exact steady_first hp concurrency dryRun world log
  | move m _ _ ih => exact ih.after hp m

end Engine

end Rollout
