import Rollout.Engine.Timeline
import Rollout.Proofs.Engine.Passage

/-!
# What a run hears of its callbacks

The moves of `Reachable` hand over any answers whatever.  A run of known callbacks hears less: a job
ends with one of the answers it `Gives`, and a task that has paused waits for a callback of its own
node (`CallsOwn`).  So if all callbacks of the nodes `Conform` to what may be heard, then the passes
of a run are those that it `Follows` from the first one.
-/

namespace Rollout.Engine

variable {ω α : Type} {p : Plan} {dryRun : Bool} {q q' q'' start : Pass ω} {m : Move ω} {k : Task}
  {ask : Condition → ω → Readiness × ω} {concurrency : Option Nat}
  {hears hears' : Notice → Prop}

/-! ## Jobs -/

/-- Whatever the job comes to see of its environment, it ends with an answer of the kind, if it
ends. -/
inductive Job.Gives (kind : Answer α → Prop) : Job ω α → Prop where
  | done {answer : Answer α} (h : kind answer) : Gives kind (.done answer)
  | act {effect : Relation.View → ω → ω} {next : Relation.View → ω → Job ω α}
      (h : ∀ view world, Gives kind (next view world)) : Gives kind (.act effect next)
  | note {event : Log.Event} {next : Job ω α} (h : Gives kind next) :
      Gives kind (.note event next)
  | sleep {millis : Nat} {next : Job ω α} (h : Gives kind next) :
      Gives kind (.sleep millis next)

/-- What the job has come to is an answer of the kind, or a rest that gives such answers. -/
def Job.Halt.Gives (kind : Answer α → Prop) : Job.Halt ω α → Prop
  | .answered answer => kind answer
  | .asleep _ rest => rest.Gives kind

namespace Job.Gives

variable {kind kind' : Answer α → Prop} {job : Job ω α}

/-- Answers of one kind are answers of every wider kind. -/
theorem mono (h : job.Gives kind) (hkind : ∀ answer, kind answer → kind' answer) :
    job.Gives kind' := by
  induction h with
  | done h => exact .done (hkind _ h)
  | act _ ih => exact .act ih
  | note _ ih => exact .note ih
  | sleep _ ih => exact .sleep ih

/-- If every answer is of the kind, it does not matter what the callback does. -/
theorem of_forall (h : ∀ answer, kind answer) (job : Job ω α) : job.Gives kind := by
  induction job with
  | done answer => exact .done (h answer)
  | act _ _ ih => exact .act ih
  | note _ _ ih => exact .note ih
  | sleep _ _ ih => exact .sleep ih

/-- A callback that is carried on to where it halts still gives answers of the kind. -/
theorem advance (h : job.Gives kind) (s : State ω) : (job.advance s).1.Gives kind := by
  induction h generalizing s with
  | done h => exact h
  | @act effect next _ ih => exact ih s.view (effect s.view s.world) _
  | note _ ih => exact ih _
  | sleep h ih =>
    unfold Job.advance
    split
    · exact ih s
    · exact h

end Job.Gives

/-- The callbacks of the plan's nodes give such answers only as may be heard of them. -/
structure Callbacks.Conform (calls : Callbacks ω) (p : Plan) (hears : Notice → Prop) : Prop where
  body : ∀ {n node c}, p.nodes[n]? = some node → node.body? = some c →
    (calls.body c).Gives fun answer => hears (.ended n answer)
  check : ∀ {n node c}, p.nodes[n]? = some node → node.criteria?.bind (·.check) = some c →
    (calls.check c node.goal).Gives fun answer => hears (.checked n answer)

/-- If anything may be heard, all callbacks conform. -/
theorem Callbacks.Conform.of_forall (h : ∀ notice, hears notice) (calls : Callbacks ω) (p : Plan) :
    calls.Conform p hears :=
  ⟨fun _ _ => .of_forall (fun _ => h _) _, fun _ _ => .of_forall (fun _ => h _) _⟩

/-- Callbacks that conform still do if more may be heard. -/
theorem Callbacks.Conform.mono {calls : Callbacks ω} (h : calls.Conform p hears)
    (hhears : ∀ notice, hears notice → hears' notice) : calls.Conform p hears' :=
  ⟨fun hnode hbody => (h.body hnode hbody).mono fun _ => hhears _,
    fun hnode hcheck => (h.check hnode hcheck).mono fun _ => hhears _⟩

/-! ## Passes -/

/-- One pass follows from another by moves that leave the deadline alone, and every answer that is
heard on the way is one of those that may be heard. -/
inductive Follows (hears : Notice → Prop) (ask : Condition → ω → Readiness × ω)
    (concurrency : Option Nat) (q : Pass ω) : Pass ω → Prop where
  | refl : Follows hears ask concurrency q q
  | move {q' : Pass ω} {m : Move ω} (h : Follows hears ask concurrency q q')
      (hallowed : q'.allows m = true) (hstops : m.stops = false)
      (hheard : ∀ notice ∈ q'.heard m, hears notice) :
      Follows hears ask concurrency q (q'.after ask concurrency m)

namespace Follows

/-- What follows in two stretches follows. -/
theorem trans (h : Follows hears ask concurrency q q') (h' : Follows hears ask concurrency q' q'') :
    Follows hears ask concurrency q q'' := by
  induction h' with
  | refl => exact h
  | move _ hallowed hstops hheard ih => exact .move ih hallowed hstops hheard

theorem of_move (hallowed : q.allows m = true) (hstops : m.stops = false)
    (hheard : ∀ notice ∈ q.heard m, hears notice) :
    Follows hears ask concurrency q (q.after ask concurrency m) :=
  .move .refl hallowed hstops hheard

/-- The environment and the log may change between two moves. -/
theorem disturb (q : Pass ω) (world : ω) (log : Array Log.Event) :
    Follows hears ask concurrency q { q with shared := { q.shared with world, log } } :=
  of_move (m := .disturb world log) rfl rfl nofun

/-- What follows with heard answers is reached by moves in the first place. -/
theorem leads (h : Follows hears ask concurrency q q') : Leads ask concurrency q q' := by
  induction h with
  | refl => exact .refl q
  | move _ hallowed hstops _ ih => exact ih.trans (.of_move hallowed hstops)

end Follows

/-! ## Whose callbacks a pass waits for -/

/-- Every task that has paused waits for a callback of its own node. -/
def Pass.CallsOwn (p : Plan) (q : Pass ω) : Prop :=
  ∀ ⦃t n pause⦄, q.pausedAt? t = some (n, pause) →
    ∃ node, p.nodes[n]? = some node ∧ Calls node pause

/-- At first nobody waits. -/
theorem callsOwn_ofState (p : Plan) (shared : State ω) (concurrency : Option Nat) :
    (Pass.ofState shared concurrency).CallsOwn p := nofun

/-- A segment leaves its task waiting for a callback of its node, and the others as they are. -/
theorem Pass.CallsOwn.evaluates {segment : StateM (State ω) Progress} (h : q.CallsOwn p)
    (hrun : Evaluates q k segment q')
    (hsegment : ∀ pause, (segment.run q.shared).1 = .paused pause →
      ∃ node, p.nodes[k.node]? = some node ∧ Calls node pause) : q'.CallsOwn p := by
  intro t n pause ht
  rw [hrun.pausedAt?] at ht
  split at ht
  · cases hprogress : (segment.run q.shared).1 with
    | finished result =>
      rw [hprogress] at ht
      cases ht
    | paused pause' =>
      rw [hprogress] at ht
      obtain ⟨rfl, rfl⟩ := Prod.mk.inj (Option.some.inj ht)
      exact hsegment _ hprogress
  · exact h ht

/-- Every move leaves each task waiting for a callback of its own node. -/
theorem Pass.CallsOwn.step (hbase : Based p dryRun q) (h : q.CallsOwn p)
    (hq : Stepped ask q m q') : q'.CallsOwn p := by
  cases hq with
  -- nobody begins to wait without running a segment
  | quiet _ hpaused =>
    intro t n pause ht
    rw [hpaused] at ht
    exact h ht
  | began hrun _ =>
    refine h.evaluates hrun fun pause hpause => ?_
    rw [← hbase.nodes]
    exact calls_of_begin ask hpause
  | ended answer hrun _ =>
    refine h.evaluates hrun fun pause hpause => ?_
    rw [← hbase.nodes]
    -- a body that has ended leaves at most the completion check to wait for
    obtain ⟨node, hnode, hasks⟩ := asks_of_resumeBody hpause
    exact ⟨node, hnode, .inl hasks⟩
  | checked answer hrun _ =>
    exact h.evaluates hrun fun pause hpause => absurd hpause (resumeCheck_ends answer _ pause)

end Rollout.Engine
