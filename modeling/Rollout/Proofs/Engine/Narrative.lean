import Rollout.Proofs.Engine.Claim
import Rollout.Proofs.Engine.Interleaving

/-!
# What a run has to do with callbacks

`narrate` reads off a sequence of moves which bodies were started and which answers were heard, in
order.  `Stepped` says what one move does, for any plan: it leaves alone everything that matters
here, or it runs one segment of one evaluation.
-/

namespace Rollout.Engine

/-- Something a run has to do with a callback. -/
inductive Notice where
  /-- The body of a node has been started. -/
  | began (n : NodeId)
  /-- The body of a node has ended. -/
  | ended (n : NodeId) (answer : Answer Unit)
  /-- The completion check of a node has answered. -/
  | checked (n : NodeId) (answer : Answer Readiness)

/-- The bodies that were started, in order. -/
def begun (notices : List Notice) : List NodeId :=
  notices.filterMap fun notice => match notice with
    | .began n => some n
    | _ => none

namespace Pass

variable {ω : Type}

/-- The node at which a task has paused, and what it waits for there. -/
def pausedAt? (q : Pass ω) (t : TaskId) : Option (NodeId × Pause) :=
  match q.task? t with
  | some ⟨_, n, .paused pause⟩ => some (n, pause)
  | _ => none

/-- The node whose body a task has under way. -/
def bodyOf? (q : Pass ω) (t : TaskId) : Option NodeId :=
  match q.pausedAt? t with
  | some (n, .body _) => some n
  | _ => none

/-- The node whose completion check a task has asked. -/
def checkOf? (q : Pass ω) (t : TaskId) : Option NodeId :=
  match q.pausedAt? t with
  | some (n, .check _) => some n
  | _ => none

/-- The answer that a move hands over, if somebody waits for it. -/
def heard (q : Pass ω) : Move ω → List Notice
  | .answerBody t answer => (q.bodyOf? t).toList.map (.ended · answer)
  | .answerCheck t answer => (q.checkOf? t).toList.map (.checked · answer)
  | _ => []

/-- The move hands a task the end of its body. -/
def endsBody : Move ω → TaskId → Bool
  | .answerBody t _, u => t == u
  | _, _ => false

/-- The bodies that a move has started: those that are under way after it, and were not before it
or have ended with it. -/
def starts (q : Pass ω) (m : Move ω) (q' : Pass ω) : List Notice :=
  (List.range q'.spawned).filterMap fun t =>
    if (q.bodyOf? t).isNone || endsBody m t then (q'.bodyOf? t).map .began else none

/-- What there is to tell of a move. -/
def tells (q : Pass ω) (m : Move ω) (q' : Pass ω) : List Notice := q.heard m ++ q.starts m q'

end Pass

/-- What there is to tell of some moves. -/
def narrate {ω : Type} (ask : Condition → ω → Readiness × ω) (concurrency : Option Nat) :
    List (Move ω) → Pass ω → List Notice
  | [], _ => []
  | m :: ms, q =>
    let q' := q.after ask concurrency m
    q.tells m q' ++ narrate ask concurrency ms q'

variable {ω : Type} {ask : Condition → ω → Readiness × ω} {concurrency : Option Nat}
  {q q' start : Pass ω} {k : Task} {t u : TaskId} {m : Move ω} {ms : List (Move ω)}

/-! ## One more move -/

theorem play_cons (m : Move ω) (ms : List (Move ω)) (q : Pass ω) :
    play ask concurrency (m :: ms) q =
      if q.allows m then play ask concurrency ms (q.after ask concurrency m) else none := rfl

/-- A play is its first move, if that is allowed, and the rest. -/
theorem play_cons_eq_some : play ask concurrency (m :: ms) q = some q' ↔
    q.allows m = true ∧ play ask concurrency ms (q.after ask concurrency m) = some q' := by
  rw [play_cons]
  by_cases hm : q.allows m = true
  · rw [if_pos hm]
    exact ⟨fun h => ⟨hm, h⟩, fun h => h.2⟩
  · rw [if_neg hm]
    exact ⟨nofun, fun h => absurd h.1 hm⟩

/-- Plays can be put together. -/
theorem play_append (ms ms' : List (Move ω)) (q : Pass ω) :
    play ask concurrency (ms ++ ms') q =
      (play ask concurrency ms q).bind (play ask concurrency ms') := by
  induction ms generalizing q with
  | nil => rfl
  | cons m ms ih =>
    rw [List.cons_append, play_cons, play_cons]
    by_cases hm : q.allows m = true
    · rw [if_pos hm, if_pos hm, ih]
    · rw [if_neg hm, if_neg hm]
      rfl

/-- The last move of a play is made where the others have led. -/
theorem play_snoc (ms : List (Move ω)) (m : Move ω) (q : Pass ω) :
    play ask concurrency (ms ++ [m]) q = (play ask concurrency ms q).bind fun q' =>
      if q'.allows m then some (q'.after ask concurrency m) else none :=
  play_append ms [m] q

/-- So can what they tell. -/
theorem narrate_append (h : play ask concurrency ms q = some q') (ms' : List (Move ω)) :
    narrate ask concurrency (ms ++ ms') q =
      narrate ask concurrency ms q ++ narrate ask concurrency ms' q' := by
  induction ms generalizing q with
  | nil =>
    obtain rfl := Option.some.inj h
    rfl
  | cons m ms ih =>
    rw [play_cons] at h
    by_cases hm : q.allows m = true
    · rw [if_pos hm] at h
      show _ ++ narrate ask concurrency (ms ++ ms') _ = _ ++ narrate ask concurrency ms _ ++ _
      rw [ih h, List.append_assoc]
    · rw [if_neg hm] at h
      cases h

/-- The last move is told last. -/
theorem narrate_snoc (h : play ask concurrency ms q = some q') (m : Move ω) :
    narrate ask concurrency (ms ++ [m]) q =
      narrate ask concurrency ms q ++ q'.tells m (q'.after ask concurrency m) := by
  rw [narrate_append h]
  show _ ++ (q'.tells m (q'.after ask concurrency m) ++ []) = _
  rw [List.append_nil]

/-- What holds at first, and of one more move if it holds of those before it, holds of all
sequences of moves. -/
theorem play_induction {motive : List (Move ω) → Pass ω → Prop} (hstart : motive [] start)
    (hstep : ∀ ms q m, play ask concurrency ms start = some q → motive ms q →
      q.allows m = true → motive (ms ++ [m]) (q.after ask concurrency m))
    (hplay : play ask concurrency ms start = some q) : motive ms q := by
  induction ms using List.reverseRecOn generalizing q with
  | nil => exact Option.some.inj hplay ▸ hstart
  | append_singleton ms m ih =>
    rw [play_snoc, Option.bind_eq_some_iff] at hplay
    obtain ⟨q₁, hplay₁, hlast⟩ := hplay
    by_cases hm : q₁.allows m = true
    · rw [if_pos hm] at hlast
      exact Option.some.inj hlast ▸ hstep ms q₁ m hplay₁ (ih hplay₁) hm
    · rw [if_neg hm] at hlast
      cases hlast

/-- The passes that some run leads to are those that some moves lead to. -/
theorem reachable_iff_play :
    Reachable ask concurrency start q ↔ ∃ ms, play ask concurrency ms start = some q := by
  constructor
  · intro h
    induction h with
    | start => exact ⟨[], rfl⟩
    | @move q m h hm ih =>
      obtain ⟨ms, hplay⟩ := ih
      refine ⟨ms ++ [m], ?_⟩
      rw [play_snoc, hplay, Option.bind_some, if_pos hm]
  · rintro ⟨ms, hplay⟩
    exact reachable_of_play .start hplay

/-! ## Tasks that have paused -/

namespace Pass

/-- What a task waits for is read off its phase. -/
theorem pausedAt?_eq_some {n : NodeId} {pause : Pause} :
    q.pausedAt? t = some (n, pause) ↔
      ∃ k, q.task? t = some k ∧ k.node = n ∧ k.phase = .paused pause := by
  unfold pausedAt?
  constructor
  · intro h
    split at h
    next id n' pause' hk =>
      obtain ⟨rfl, rfl⟩ := Prod.mk.inj (Option.some.inj h)
      exact ⟨_, hk, rfl, rfl⟩
    · cases h
  · rintro ⟨⟨id, n', phase⟩, hk, rfl, rfl⟩
    rw [hk]

/-- If the same tasks are paused, the same is waited for. -/
theorem pausedAt?_congr
    (h : ∀ u i pause, i.phase = .paused pause → (q'.task? u = some i ↔ q.task? u = some i)) :
    q'.pausedAt? = q.pausedAt? := by
  funext u
  apply Option.ext
  rintro ⟨n, pause⟩
  rw [pausedAt?_eq_some, pausedAt?_eq_some]
  constructor
  · rintro ⟨k, hk, hnode, hphase⟩
    exact ⟨k, (h u k pause hphase).1 hk, hnode, hphase⟩
  · rintro ⟨k, hk, hnode, hphase⟩
    exact ⟨k, (h u k pause hphase).2 hk, hnode, hphase⟩

/-- A task that changes between other phases. -/
theorem pausedAt?_setPhase {s : Phase} (hk : q.task? t = some k)
    (hbefore : ∀ pause, k.phase ≠ .paused pause) (hafter : ∀ pause, s ≠ .paused pause) :
    (q.setPhase t s).pausedAt? = q.pausedAt? := by
  refine pausedAt?_congr fun u i pause hphase => ?_
  rw [task?_setPhase]
  by_cases hu : u = t
  · subst hu
    rw [if_pos rfl, hk]
    constructor
    · intro h
      obtain rfl := Option.some.inj h
      exact absurd hphase (hafter pause)
    · intro h
      obtain rfl := Option.some.inj h
      exact absurd hphase (hbefore pause)
  · rw [if_neg hu]

/-- What a segment leaves its task waiting for. -/
def waitsAfter (k : Task) : Progress → Option (NodeId × Pause)
  | .paused pause => some (k.node, pause)
  | .finished _ => none

/-- After a segment its own task waits for what the segment has come to, and the others wait as
before. -/
theorem pausedAt?_runSegment (h : q.Locks) (hk : q.Holder k)
    (segment : StateM (State ω) Progress) (u : TaskId) :
    (q.runSegment k segment).pausedAt? u =
      if u = k.id then waitsAfter k (segment.run q.shared).1 else q.pausedAt? u := by
  by_cases hu : u = k.id
  · rw [if_pos hu, hu]
    unfold pausedAt?
    rw [task?_runSegment_self hk.task]
    cases (segment.run q.shared).1 <;> rfl
  · rw [if_neg hu]
    apply Option.ext
    rintro ⟨n, pause⟩
    rw [pausedAt?_eq_some, pausedAt?_eq_some]
    -- a segment of one task changes no other one that waits, since it only grants locks and permits
    have hiff : ∀ {i : Task}, i.phase = .paused pause →
        ((q.runSegment k segment).task? u = some i ↔ q.task? u = some i) :=
      fun hi => h.task?_runSegment hk hu hi segment
    constructor
    · rintro ⟨i, hi, hnode, hphase⟩
      exact ⟨i, (hiff hphase).1 hi, hnode, hphase⟩
    · rintro ⟨i, hi, hnode, hphase⟩
      exact ⟨i, (hiff hphase).2 hi, hnode, hphase⟩

/-- The number of a task that waits has been given out. -/
theorem Locks.lt_of_pausedAt? (h : q.Locks) {n : NodeId} {pause : Pause}
    (ht : q.pausedAt? t = some (n, pause)) : t < q.spawned := by
  obtain ⟨k, hk, -, -⟩ := pausedAt?_eq_some.1 ht
  exact h.bound hk

theorem bodyOf?_eq_some {n : NodeId} :
    q.bodyOf? t = some n ↔ ∃ c, q.pausedAt? t = some (n, .body c) := by
  unfold bodyOf?
  constructor
  · intro h
    split at h
    next n' c hp =>
      obtain rfl := Option.some.inj h
      exact ⟨c, hp⟩
    · cases h
  · rintro ⟨c, hp⟩
    rw [hp]

theorem checkOf?_eq_some {n : NodeId} :
    q.checkOf? t = some n ↔ ∃ c, q.pausedAt? t = some (n, .check c) := by
  unfold checkOf?
  constructor
  · intro h
    split at h
    next n' c hp =>
      obtain rfl := Option.some.inj h
      exact ⟨c, hp⟩
    · cases h
  · rintro ⟨c, hp⟩
    rw [hp]

theorem bodyOf?_eq_none (h : ∀ k c, q.task? t = some k → k.phase ≠ .paused (.body c)) :
    q.bodyOf? t = none := by
  rw [Option.eq_none_iff_forall_ne_some]
  intro n hn
  obtain ⟨c, hpaused⟩ := bodyOf?_eq_some.1 hn
  obtain ⟨k, hk, -, hphase⟩ := pausedAt?_eq_some.1 hpaused
  exact h k c hk hphase

theorem checkOf?_eq_none (h : ∀ k c, q.task? t = some k → k.phase ≠ .paused (.check c)) :
    q.checkOf? t = none := by
  rw [Option.eq_none_iff_forall_ne_some]
  intro n hn
  obtain ⟨c, hpaused⟩ := checkOf?_eq_some.1 hn
  obtain ⟨k, hk, -, hphase⟩ := pausedAt?_eq_some.1 hpaused
  exact h k c hk hphase

end Pass

/-! ## Steps -/

/-- A change of the shared state that has no bearing on nodes and bodies.  Live nodes may be
queued. -/
structure Quiet (s s' : State ω) : Prop where
  plan : s'.plan = s.plan
  tracker : s'.tracker = s.tracker
  dryRun : s'.dryRun = s.dryRun
  started : s'.started = s.started
  transitions : s'.transitions = s.transitions
  stopped : s.stopped = true → s'.stopped = true
  queued : ∀ {a}, a ∈ s'.queue → a ∈ s.queue ∨ s.plan.isLive a = true

theorem Quiet.refl (s : State ω) : Quiet s s := ⟨rfl, rfl, rfl, rfl, rfl, id, .inl⟩

/-- The results there are after a segment of an evaluation. -/
def resultsAfter (results : List (Except Fault Unit)) : Progress → List (Except Fault Unit)
  | .paused _ => results
  | .finished result => results ++ [result]

/-- A task runs a segment of the evaluation of its node, which no other task evaluates. -/
structure Evaluates (q : Pass ω) (k : Task) (segment : StateM (State ω) Progress) (q' : Pass ω) :
    Prop where
  task : q.task? k.id = some k
  shared : q'.shared = (segment.run q.shared).2
  pausedAt? : ∀ u, q'.pausedAt? u =
    if u = k.id then Pass.waitsAfter k (segment.run q.shared).1 else q.pausedAt? u
  results : q'.results = resultsAfter q.results (segment.run q.shared).1
  alone : ∀ {u pause}, q.pausedAt? u = some (k.node, pause) → u = k.id
  locks : q'.Locks

/-- A segment that is run by the holder of its lock is an evaluation. -/
theorem evaluates_runSegment {q₁ : Pass ω} (hlocks : q₁.Locks) (hk : q₁.Holder k)
    (htasks : q₁.tasks = q.tasks) (hshared : q₁.shared = q.shared)
    (hpaused : q₁.pausedAt? = q.pausedAt?)
    (hresults : q₁.results = q.results) (segment : StateM (State ω) Progress) :
    Evaluates q k segment (q₁.runSegment k segment) where
  task := by
    have htask := hk.task
    unfold Pass.task? at htask ⊢
    rwa [htasks] at htask
  shared := by rw [Pass.runSegment_shared, hshared]
  pausedAt? u := by rw [Pass.pausedAt?_runSegment hlocks hk, hshared, hpaused]
  results := by
    rw [← hshared, ← hresults]
    unfold Pass.runSegment
    rcases segment.run q₁.shared with ⟨pause | result, shared⟩
    · rfl
    · exact Pass.finish_results ..
  -- the holder of the lock of a node is the only task that can wait for it
  alone {u pause} hu := by
    rw [← hpaused] at hu
    obtain ⟨j, hj, hnode, hphase⟩ := Pass.pausedAt?_eq_some.1 hu
    exact hk.alone hj (by rw [hphase]; rfl) hnode
  locks := hlocks.runSegment hk segment

/-- What a move does. -/
inductive Stepped (ask : Condition → ω → Readiness × ω) (q : Pass ω) : Move ω → Pass ω → Prop where
  /-- Nothing is evaluated. -/
  | quiet {m : Move ω} {q' : Pass ω} (hshared : Quiet q.shared q'.shared)
      (hpaused : q'.pausedAt? = q.pausedAt?) (hresults : q'.results ⊆ q.results)
      (hheard : q.heard m = []) (hlocks : q'.Locks)
      (hgoes : m.stops = false → q'.shared.stopped = q.shared.stopped) : Stepped ask q m q'
  /-- An evaluation begins. -/
  | began {k : Task} {q' : Pass ω} (h : Evaluates q k (begin ask k.node) q')
      (hfree : q.pausedAt? k.id = none) : Stepped ask q (.resume k.id) q'
  /-- An evaluation goes on with the end of its body. -/
  | ended {k : Task} {c : CallbackId} {q' : Pass ω} (answer : Answer Unit)
      (h : Evaluates q k (resumeBody k.node answer) q')
      (hwaits : q.pausedAt? k.id = some (k.node, .body c)) :
      Stepped ask q (.answerBody k.id answer) q'
  /-- An evaluation goes on with the answer of its completion check. -/
  | checked {k : Task} {c : CallbackId} {q' : Pass ω} (answer : Answer Readiness)
      (h : Evaluates q k (resumeCheck k.node answer) q')
      (hwaits : q.pausedAt? k.id = some (k.node, .check c)) :
      Stepped ask q (.answerCheck k.id answer) q'

theorem Stepped.locks (hq : Stepped ask q m q') : q'.Locks := by
  cases hq with
  | quiet hshared hpaused hresults hheard hlocks => exact hlocks
  | began h hfree => exact h.locks
  | ended answer h hwaits => exact h.locks
  | checked answer h hwaits => exact h.locks

theorem Quiet.later {s s' : State ω} (h : Quiet s s') : Later s s' where
  nodes := by rw [h.plan]
  elementNodes := by rw [h.plan]
  dryRun := h.dryRun
  knows hm := by rwa [h.tracker]
  kept := by rw [h.started]; exact fun _ => id
  trace := by
    have htrace : s'.trace = s.trace := by simp only [State.trace, h.transitions]
    simp only [htrace, List.prefix_rfl]

/-- No move takes back what is recorded. -/
theorem Stepped.later (hids : Numbered q.shared) (hq : Stepped ask q m q') :
    Later q.shared q'.shared := by
  -- Nothing is ruled out for the node that is evaluated.
  have hfree : ∀ {n m : NodeId}, m = n → (∀ status : NodeStatus, (fun _ => True) status) ∧ True :=
    fun _ => ⟨fun _ => trivial, trivial⟩
  cases hq with
  | quiet hshared hpaused hresults hheard hlocks => exact hshared.later
  | @began k q' h _ =>
    rw [h.shared]
    exact (within_begin (n := k.node) hids hfree fun _ _ _ => trivial).later
  | @ended k c q' answer h hwaits =>
    rw [h.shared]
    have hwithin : Within k.node (fun _ => True) True q.shared
        ((resumeBody k.node answer).run q.shared).2 :=
      within_resumeBody hids (fun heq => (hfree heq).1) (fun _ _ _ => trivial) answer
    exact hwithin.later
  | @checked k c q' answer h hwaits =>
    rw [h.shared]
    have hwithin : Within k.node (fun _ => True) True q.shared
        ((resumeCheck k.node answer).run q.shared).2 :=
      within_resumeCheck hids (fun heq => (hfree heq).1) (fun _ _ _ => trivial) answer
    exact hwithin.later

/-- A task that is resumed begins an evaluation, or it waits in line and nothing is evaluated. -/
theorem stepped_resume (h : q.Locks) (t : TaskId) :
    Stepped ask q (.resume t) (q.resume ask t) := by
  have hresumed := Pass.resumed ask q t
  have hlocks := h.resumed ask hresumed
  have hpermits : ∀ {k free}, q.Permits k free → ∀ pause, k.phase ≠ .paused pause := by
    rintro k free (⟨hphase, -⟩ | ⟨hphase, -⟩) pause <;> rw [hphase] <;> exact nofun
  generalize q.resume ask t = q' at hresumed hlocks
  cases hresumed with
  | idle => exact .quiet (.refl _) rfl (fun _ => id) rfl hlocks fun _ => rfl
  | linedForPermit hk hphase hfree =>
    have hview := Pass.pausedAt?_setPhase (s := .awaitingPermit) (q := { q with
      runnable := q.runnable.erase t, permitLine := q.permitLine ++ [t] }) hk
      (by rw [hphase]; exact nofun) nofun
    exact .quiet (.refl _) hview (fun _ => id) rfl hlocks fun _ => rfl
  | @linedForLock k free hk hpermit hheld =>
    have hview := Pass.pausedAt?_setPhase (s := .awaitingLock) (q := { q with
      runnable := q.runnable.erase t, free, lockLine := q.lockLine ++ [(k.node, t)] }) hk
      (hpermits hpermit) nofun
    exact .quiet (.refl _) hview (fun _ => id) rfl hlocks fun _ => rfl
  | @ran k free held hk henters =>
    obtain rfl := Pass.id_of_task? hk
    obtain ⟨hlocks₁, hholder⟩ := h.enters hk henters (q.runnable.erase k.id)
    refine .began (evaluates_runSegment (q := q) hlocks₁ hholder rfl rfl rfl rfl _) ?_
    -- Whoever takes the lock has not paused.
    rw [Option.eq_none_iff_forall_ne_some]
    rintro ⟨n, pause⟩ hpaused
    obtain ⟨j, hj, -, hphase⟩ := Pass.pausedAt?_eq_some.1 hpaused
    obtain rfl := Option.some.inj (hk.symm.trans hj)
    rcases henters with ⟨hpermit, -⟩ | ⟨hlocked, -⟩
    · exact hpermits hpermit pause hphase
    · rw [hlocked] at hphase
      cases hphase

/-- A body that ends lets its evaluation go on; if nobody waits for it, its answer is not heard. -/
theorem stepped_answerBody (h : q.Locks) (t : TaskId) (answer : Answer Unit) :
    Stepped ask q (.answerBody t answer) (q.answerBody t answer) := by
  -- An answer that nobody waits for is not heard.
  have hdeaf : (∀ k c, q.task? t = some k → k.phase ≠ .paused (.body c)) →
      Stepped ask q (.answerBody t answer) q := by
    intro hnot
    refine .quiet (.refl _) rfl (fun _ => id) ?_ h fun _ => rfl
    show (q.bodyOf? t).toList.map (Notice.ended · answer) = []
    rw [Pass.bodyOf?_eq_none hnot]
    rfl
  unfold Pass.answerBody
  split
  next k hk =>
    split
    next c hphase =>
      obtain rfl := Pass.id_of_task? hk
      have hholder := h.holder hk (by rw [hphase]; rfl)
      exact .ended answer (evaluates_runSegment h hholder rfl rfl rfl rfl _)
        (Pass.pausedAt?_eq_some.2 ⟨k, hk, rfl, hphase⟩)
    next hnot =>
      exact hdeaf fun j c hj hphase => hnot c (Option.some.inj (hk.symm.trans hj) ▸ hphase)
  next hnone => exact hdeaf fun j c hj => absurd (hnone.symm.trans hj) nofun

/-- A completion check that answers lets its evaluation go on; if nobody waits for it, its answer is
not heard. -/
theorem stepped_answerCheck (h : q.Locks) (t : TaskId) (answer : Answer Readiness) :
    Stepped ask q (.answerCheck t answer) (q.answerCheck t answer) := by
  -- an answer that nobody waits for
  have hdeaf : (∀ k c, q.task? t = some k → k.phase ≠ .paused (.check c)) →
      Stepped ask q (.answerCheck t answer) q := by
    intro hnot
    refine .quiet (.refl _) rfl (fun _ => id) ?_ h fun _ => rfl
    show (q.checkOf? t).toList.map (Notice.checked · answer) = []
    rw [Pass.checkOf?_eq_none hnot]
    rfl
  unfold Pass.answerCheck
  split
  next k hk =>
    split
    next c hphase =>
      obtain rfl := Pass.id_of_task? hk
      have hholder := h.holder hk (by rw [hphase]; rfl)
      exact .checked answer (evaluates_runSegment h hholder rfl rfl rfl rfl _)
        (Pass.pausedAt?_eq_some.2 ⟨k, hk, rfl, hphase⟩)
    next hnot =>
      exact hdeaf fun j c hj hphase => hnot c (Option.some.inj (hk.symm.trans hj) ▸ hphase)
  next hnone => exact hdeaf fun j c hj => absurd (hnone.symm.trans hj) nofun

/-- The tasks that are there keep their numbers when new ones come in. -/
theorem task?_foldl_spawnOne (h : q.Locks) {i : Task} (hi : q.task? u = some i)
    (ns : List NodeId) : (ns.foldl Pass.spawnOne q).task? u = some i := by
  induction ns generalizing q with
  | nil => exact hi
  | cons n ns ih =>
    have hne : u ≠ q.spawned := Nat.ne_of_lt (h.bound hi)
    exact ih (rearranged_spawnOne h n).locks (by rw [task?_spawnOne h, if_neg hne, hi])

/-- To spawn tasks evaluates nothing. -/
theorem stepped_spawn (h : q.Locks) : Stepped ask q .spawn q.spawn := by
  have hspawn := (rearranged_spawn h).1
  refine .quiet ?_ ?_ (by rw [hspawn.results]; exact fun _ => id) rfl hspawn.locks ?_
  · rw [hspawn.shared]
    exact ⟨rfl, rfl, rfl, rfl, rfl, id, nofun⟩
  · refine Pass.pausedAt?_congr fun u i pause hphase => ⟨fun hi => hspawn.paused hi hphase, ?_⟩
    intro hi
    have hunqueued : q.unqueued.Locks := h.of_same rfl rfl rfl rfl rfl
    exact task?_foldl_spawnOne hunqueued hi q.shared.queue
  · intro _
    rw [hspawn.shared]
    rfl

/-- What a move does. -/
theorem stepped (h : q.Locks) (hm : q.allows m = true) :
    Stepped ask q m (q.after ask concurrency m) := by
  cases m with
  | spawn => exact stepped_spawn h
  | resume t => exact stepped_resume h t
  | answerBody t answer => exact stepped_answerBody h t answer
  | answerCheck t answer => exact stepped_answerCheck h t answer
  | collect =>
    exact .quiet (.refl _) rfl (fun _ => List.mem_of_mem_tail) rfl (h.of_same rfl rfl rfl rfl rfl)
      fun _ => rfl
  | disturb world log =>
    exact .quiet ⟨rfl, rfl, rfl, rfl, rfl, id, .inl⟩ rfl (fun _ => id) rfl
      (h.of_same rfl rfl rfl rfl rfl) fun _ => rfl
  | stop =>
    exact .quiet ⟨rfl, rfl, rfl, rfl, rfl, fun _ => rfl, .inl⟩ rfl (fun _ => id) rfl
      (h.of_same rfl rfl rfl rfl rfl) nofun
  | next =>
    refine .quiet ⟨rfl, rfl, rfl, rfl, rfl, id, fun ha => .inr (Digraph.mem_leaves.1 ha).1⟩ ?_
      (List.nil_subset _) rfl (.ofState _ _) fun _ => rfl
    -- No task is left of a pass that has settled.
    have hallowed : (q.settled && !q.shared.stopped) = true := hm
    have htasks : q.tasks = [] := by
      unfold Pass.settled at hallowed
      simp only [Bool.and_eq_true, List.isEmpty_iff] at hallowed
      exact hallowed.1.1.1
    refine Pass.pausedAt?_congr fun u i pause _ => ?_
    have hbefore : q.task? u = none := by
      unfold Pass.task?
      rw [htasks]
      rfl
    rw [hbefore]
    rfl

/-! ## What there is to tell of a step -/

/-- The body that a segment of `k` has started, if there is one. -/
def startedBy (k : Task) : Progress → List Notice
  | .paused (.body _) => [.began k.node]
  | _ => []

/-- A list in which all but one number are passed over. -/
theorem filterMap_range_eq {β : Type} {f : Nat → Option β} {bound t : Nat} (ht : t < bound)
    (hothers : ∀ u, u ≠ t → f u = none) :
    (List.range bound).filterMap f = (f t).toList := by
  induction bound with
  | zero => exact absurd ht (Nat.not_lt_zero t)
  | succ bound ih =>
    rw [List.range_succ, List.filterMap_append]
    -- the one number that counts is the last one, or it comes before
    by_cases hlast : t = bound
    · subst hlast
      have hnone : (List.range t).filterMap f = [] := by
        rw [List.filterMap_eq_nil_iff]
        intro u hu
        exact hothers u (Nat.ne_of_lt (List.mem_range.1 hu))
      rw [hnone, List.nil_append]
      cases hf : f t <;> simp [hf]
    · rw [ih (by omega), List.filterMap_cons, hothers bound (Ne.symm hlast)]
      simp

/-- Which body a task waits for depends on its pause alone. -/
theorem bodyOf?_congr (h : q'.pausedAt? t = q.pausedAt? t) : q'.bodyOf? t = q.bodyOf? t := by
  unfold Pass.bodyOf?
  rw [h]

/-- A move that hands over no answer ends no body. -/
theorem endsBody_of_heard (hheard : q.heard m = []) {n : NodeId} (hbody : q.bodyOf? t = some n) :
    Pass.endsBody m t = false := by
  cases m with
  | answerBody u answer =>
    by_cases hut : u = t
    · subst hut
      have hnil : (q.bodyOf? u).toList.map (Notice.ended · answer) = [] := hheard
      rw [hbody] at hnil
      cases hnil
    · exact beq_eq_false_iff_ne.2 hut
  | _ => rfl

/-- A move that changes no pause starts no body. -/
theorem starts_quiet (hpaused : q'.pausedAt? = q.pausedAt?) (hheard : q.heard m = []) :
    q.starts m q' = [] := by
  unfold Pass.starts
  rw [List.filterMap_eq_nil_iff]
  intro t _
  rw [bodyOf?_congr (congrFun hpaused t)]
  cases hbody : q.bodyOf? t with
  | none => split <;> rfl
  | some n =>
    rw [endsBody_of_heard hheard hbody]
    rfl

/-- A task that runs a segment starts at most its own body. -/
theorem Evaluates.starts {segment : StateM (State ω) Progress} (h : Evaluates q k segment q')
    (hself : q.bodyOf? k.id = none ∨ Pass.endsBody m k.id = true)
    (hothers : ∀ u, u ≠ k.id → Pass.endsBody m u = false) :
    q.starts m q' = startedBy k (segment.run q.shared).1 := by
  -- the other tasks wait as before, so that none of them has just begun to
  have hrest : ∀ u, u ≠ k.id → (if (q.bodyOf? u).isNone || Pass.endsBody m u then
      (q'.bodyOf? u).map Notice.began else none) = none := by
    intro u hu
    have hsame : q'.pausedAt? u = q.pausedAt? u := by rw [h.pausedAt?, if_neg hu]
    rw [bodyOf?_congr hsame, hothers u hu]
    cases q.bodyOf? u <;> rfl
  have hcond : ((q.bodyOf? k.id).isNone || Pass.endsBody m k.id) = true := by
    rcases hself with hnone | hends
    · rw [hnone]
      rfl
    · rw [hends, Bool.or_true]
  have hown : ((q'.bodyOf? k.id).map Notice.began).toList =
      startedBy k (segment.run q.shared).1 := by
    unfold Pass.bodyOf?
    rw [h.pausedAt?, if_pos rfl]
    rcases (segment.run q.shared).1 with (c | c) | result <;> rfl
  unfold Pass.starts
  by_cases hlt : k.id < q'.spawned
  · rw [filterMap_range_eq hlt hrest, if_pos hcond, hown]
  · -- The task has not even paused, for then its number would have been given out.
    have hnone : q'.bodyOf? k.id = none := by
      rw [Option.eq_none_iff_forall_ne_some]
      intro n hn
      obtain ⟨c, hc⟩ := Pass.bodyOf?_eq_some.1 hn
      exact hlt (h.locks.lt_of_pausedAt? hc)
    rw [← hown, hnone]
    show _ = []
    rw [List.filterMap_eq_nil_iff]
    intro u hu
    exact hrest u fun heq => hlt (heq ▸ List.mem_range.1 hu)

/-- A move that evaluates nothing has nothing to tell. -/
theorem tells_quiet (hpaused : q'.pausedAt? = q.pausedAt?) (hheard : q.heard m = []) :
    q.tells m q' = [] := by
  unfold Pass.tells
  rw [hheard, starts_quiet hpaused hheard]
  rfl

/-- The first segment tells of the body that it starts, if it does. -/
theorem tells_began (h : Evaluates q k (begin ask k.node) q') (hfree : q.pausedAt? k.id = none) :
    q.tells (.resume k.id) q' = startedBy k ((begin ask k.node).run q.shared).1 := by
  have hbody : q.bodyOf? k.id = none := by
    unfold Pass.bodyOf?
    rw [hfree]
  exact h.starts (.inl hbody) fun _ _ => rfl

/-- The segment after a body tells of its end, and starts no other one. -/
theorem tells_ended {c : CallbackId} {answer : Answer Unit}
    (h : Evaluates q k (resumeBody k.node answer) q')
    (hwaits : q.pausedAt? k.id = some (k.node, .body c)) :
    q.tells (.answerBody k.id answer) q' = [.ended k.node answer] := by
  have hheard : q.heard (.answerBody k.id answer) = [.ended k.node answer] := by
    show (q.bodyOf? k.id).toList.map (Notice.ended · answer) = _
    rw [Pass.bodyOf?_eq_some.2 ⟨c, hwaits⟩]
    rfl
  -- the task does wait again if the check is asked, but not for a body
  have hstarts : q.starts (.answerBody k.id answer) q' = [] := by
    rw [h.starts (m := .answerBody k.id answer) (.inr (beq_self_eq_true k.id))
      fun u hu => beq_eq_false_iff_ne.2 hu.symm]
    have hnone := resumeBody_starts_none (n := k.node) answer q.shared
    cases hprogress : ((resumeBody k.node answer).run q.shared).1 with
    | finished result => rfl
    | paused pause =>
      cases pause with
      | body c' => exact absurd hprogress (hnone c')
      | check c' => rfl
  unfold Pass.tells
  rw [hheard, hstarts]
  rfl

/-- The segment after a completion check tells of its answer, and starts no body. -/
theorem tells_checked {c : CallbackId} {answer : Answer Readiness}
    (h : Evaluates q k (resumeCheck k.node answer) q')
    (hwaits : q.pausedAt? k.id = some (k.node, .check c)) :
    q.tells (.answerCheck k.id answer) q' = [.checked k.node answer] := by
  have hheard : q.heard (.answerCheck k.id answer) = [.checked k.node answer] := by
    show (q.checkOf? k.id).toList.map (Notice.checked · answer) = _
    rw [Pass.checkOf?_eq_some.2 ⟨c, hwaits⟩]
    rfl
  -- the task waited for its check, so it had no body to end
  have hbody : q.bodyOf? k.id = none := by
    unfold Pass.bodyOf?
    rw [hwaits]
  have hstarts : q.starts (.answerCheck k.id answer) q' = [] := by
    rw [h.starts (.inl hbody) fun _ _ => rfl]
    have hnone := resumeCheck_starts_none (n := k.node) answer q.shared
    cases hprogress : ((resumeCheck k.node answer).run q.shared).1 with
    | finished result => rfl
    | paused pause =>
      cases pause with
      | body c' => exact absurd hprogress (hnone c')
      | check c' => rfl
  unfold Pass.tells
  rw [hheard, hstarts]
  rfl

end Rollout.Engine
