import Rollout.Proofs.Engine.Passage
import Rollout.Proofs.Order.Elements
import Rollout.Proofs.Plan.Operations

/-!
# The deadline

When the deadline passes, nothing is begun any more and no status changes, but whatever has been
begun runs to its end.  What is not final by then is failed with the deadline as its error
(`deadline_freezes`).  This holds for every plan that the operations make and for every tracker that
has been told of its nodes.  A run whose time runs out is one that `Expires`, in whatever order its
callbacks take their turns, and so is one that is executed (`run_concludes`).
-/

namespace Rollout.Engine

open Rollout.Plan

variable {ω : Type} {p : Plan} {tracker : Tracker} {dryRun : Bool} {q q' start : Pass ω}
  {m : Move ω} {ms late : List (Move ω)} {ask : Condition → ω → Readiness × ω}
  {concurrency : Option Nat} {world : ω} {log : Array Log.Event} {notices more : List Notice}

/-- A callback breaks down with the move. -/
def Move.panics : Move ω → Bool
  | .answerBody _ .panic | .answerCheck _ .panic => true
  | _ => false

/-! ## Nothing is begun -/

/-- Once the deadline has passed, no body is started. -/
theorem Stepped.begun_of_stopped (hids : Numbered q.shared) (hstop : q.shared.stopped = true)
    (hq : Stepped ask q m q') : begun (q.tells m q') = [] := by
  cases hq with
  | quiet _ hpaused _ hheard _ =>
    rw [tells_quiet hpaused hheard]
    rfl
  | @began k _ hrun hfree =>
    -- an evaluation that begins after the stop ends at once
    obtain ⟨r, hidle⟩ := begin_idle ask hids (n := k.node) (.inr hstop)
    rw [tells_began hrun hfree, hidle]
    rfl
  | ended answer hrun hwaits =>
    rw [tells_ended hrun hwaits]
    rfl
  | checked answer hrun hwaits =>
    rw [tells_checked hrun hwaits]
    rfl

/-- After the stop no body begins, however the pass goes on. -/
theorem begun_of_stopped (hp : p.Placed) (hstart : Based p dryRun start)
    (hstop : start.shared.stopped = true) (hplay : play ask concurrency ms start = some q) :
    begun (narrate ask concurrency ms start) = [] := by
  refine play_induction (motive := fun ms _ => begun (narrate ask concurrency ms start) = []) rfl
    ?_ hplay
  intro ms q m hplay h hm
  have hbase := hstart.played hp hplay
  have hstepped : Stepped ask q m (q.after ask concurrency m) := stepped hbase.locks hm
  have hnone := hstepped.begun_of_stopped (hbase.numbered hp)
    (hstart.frozen_of_play hp hstop hplay).stopped
  unfold begun at h hnone ⊢
  rw [narrate_snoc hplay, List.filterMap_append, h, hnone]
  rfl

/-- Raising the stop flag is nothing to tell of. -/
theorem tells_stop (q : Pass ω) : q.tells .stop (q.after ask concurrency .stop) = [] :=
  tells_quiet rfl rfl

/-! ## What has been begun is ended -/

/-- Every body that has been started has ended since with a reply, or is under way. -/
def Attended (notices : List Notice) (q : Pass ω) : Prop :=
  ∀ pre n rest, notices = pre ++ .began n :: rest →
    (∃ r, Notice.ended n (.reply r) ∈ rest) ∨ ∃ t, q.bodyOf? t = some n

/-- The bodies that were under way still are, or they have just ended, and there are no others but
those that have just been started. -/
theorem Attended.append (h : Attended notices q)
    (hold : ∀ t n, q.bodyOf? t = some n →
      (∃ r, Notice.ended n (.reply r) ∈ more) ∨ ∃ u, q'.bodyOf? u = some n)
    (hnew : ∀ n, Notice.began n ∈ more → ∃ u, q'.bodyOf? u = some n) :
    Attended (notices ++ more) q' := by
  intro pre n rest hsplit
  rcases List.append_eq_append_iff.1 hsplit with ⟨pre', -, hmore⟩ | ⟨tail, hnotices, htail⟩
  · exact .inr (hnew n (hmore ▸ List.mem_append_right _ List.mem_cons_self))
  · cases tail with
    | nil =>
      have hmore : more = .began n :: rest := htail.symm
      exact .inr (hnew n (hmore ▸ List.mem_cons_self))
    | cons notice tail =>
      obtain ⟨rfl, rfl⟩ := List.cons.inj htail
      rcases h pre n tail hnotices with ⟨r, hended⟩ | ⟨t, ht⟩
      · exact .inl ⟨r, List.mem_append_left _ hended⟩
      · exact (hold t n ht).imp_left fun ⟨r, hr⟩ => ⟨r, List.mem_append_right _ hr⟩

/-- Every move without a panic leaves each body that began either ended with a reply or waited for.
-/
theorem Attended.step (h : Attended notices q) (hm : m.panics = false)
    (hq : Stepped ask q m q') : Attended (notices ++ q.tells m q') q' := by
  -- Whoever does not run keeps what it has under way.
  have hothers : ∀ {k segment q'}, Evaluates q k segment q' → ∀ {t n}, t ≠ k.id →
      q.bodyOf? t = some n → ∃ u, q'.bodyOf? u = some n := by
    intro k segment q' hrun t n ht hbody
    have hsame : q'.pausedAt? t = q.pausedAt? t := by rw [hrun.pausedAt?, if_neg ht]
    exact ⟨t, (bodyOf?_congr hsame).trans hbody⟩
  cases hq with
  | quiet _ hpaused _ hheard _ =>
    rw [tells_quiet hpaused hheard]
    exact h.append (fun t n ht => .inr ⟨t, (bodyOf?_congr (congrFun hpaused t)).trans ht⟩) nofun
  | @began k _ hrun hfree =>
    rw [tells_began hrun hfree]
    refine h.append (fun t n ht => .inr (hothers hrun ?_ ht)) fun n hn => ⟨k.id, ?_⟩
    · rintro rfl
      obtain ⟨c, hc⟩ := Pass.bodyOf?_eq_some.1 ht
      rw [hfree] at hc
      cases hc
    · -- the body that has just been started
      refine Pass.bodyOf?_eq_some.2 ?_
      rw [hrun.pausedAt?, if_pos rfl]
      rcases hprogress : ((begin ask k.node).run q.shared).1 with (c | c) | result <;>
        rw [hprogress] at hn
      · obtain rfl := Notice.began.inj (List.mem_singleton.1 hn)
        exact ⟨c, rfl⟩
      · cases hn
      · cases hn
  | @ended k c _ answer hrun hwaits =>
    rw [tells_ended hrun hwaits]
    refine h.append (fun t n ht => ?_) fun n hn => ?_
    · by_cases htk : t = k.id
      · subst htk
        obtain rfl := Option.some.inj ((Pass.bodyOf?_eq_some.2 ⟨c, hwaits⟩).symm.trans ht)
        cases answer with
        | panic => cases hm
        | reply r => exact .inl ⟨r, List.mem_singleton.2 rfl⟩
      · exact .inr (hothers hrun htk ht)
    · cases List.mem_singleton.1 hn
  | @checked k c _ answer hrun hwaits =>
    rw [tells_checked hrun hwaits]
    refine h.append (fun t n ht => .inr (hothers hrun ?_ ht)) fun n hn => ?_
    · rintro rfl
      obtain ⟨c', hc'⟩ := Pass.bodyOf?_eq_some.1 ht
      cases (Prod.mk.inj (Option.some.inj (hwaits.symm.trans hc'))).2
    · cases List.mem_singleton.1 hn

/-- Without panics each body that began has ended with a reply, or is still waited for. -/
theorem attended_of_play (hp : p.Placed) (hstart : Based p dryRun start)
    (hms : ∀ m ∈ ms, m.panics = false) (hplay : play ask concurrency ms start = some q) :
    Attended (narrate ask concurrency ms start) q := by
  induction ms using List.reverseRecOn generalizing q with
  | nil =>
    intro pre n rest hsplit
    exact absurd hsplit (by simp [narrate])
  | append_singleton ms m ih =>
    rw [play_snoc, Option.bind_eq_some_iff] at hplay
    obtain ⟨q₁, hplay₁, hlast⟩ := hplay
    obtain ⟨hm, hq⟩ := Option.ite_none_right_eq_some.1 hlast
    obtain rfl := Option.some.inj hq
    have hstepped : Stepped ask q₁ m (q₁.after ask concurrency m) :=
      stepped (hstart.played hp hplay₁).locks hm
    rw [narrate_snoc hplay₁]
    exact (ih (fun m' hm' => hms m' (List.mem_append_left _ hm')) hplay₁).step
      (hms m (List.mem_append_right _ (List.mem_singleton.2 rfl))) hstepped

/-- When a run whose time has run out is over, no body is under way. -/
theorem Expires.bodyOf? (hbase : Based p dryRun q)
    (h : Expires ask concurrency q late q') (t : TaskId) : q'.bodyOf? t = none := by
  cases h with
  | raised _ hdone =>
    refine Pass.bodyOf?_eq_none fun k c hk => ?_
    unfold Pass.task? at hk
    rw [hdone] at hk
    cases hk
  | unbegun hnone =>
    refine Pass.bodyOf?_eq_none fun k c hk => ?_
    have hlt := hbase.locks.bound hk
    rw [hnone] at hlt
    exact absurd hlt (Nat.not_lt_zero t)

/-! ## Nothing is recorded -/

/-- What happens after time has run out records nothing. -/
theorem Expires.still (hp : p.Placed) (hbase : Based p dryRun q)
    (h : Expires ask concurrency q late q') {before after : List (Move ω)} {q₁ : Pass ω}
    (hlate : late = before ++ after) (hplay : play ask concurrency before q = some q₁) :
    q₁.shared.transitions = q.shared.transitions ∧
      ∀ n, q₁.shared.tracker.standing n = q.shared.tracker.standing n := by
  cases before with
  | nil =>
    obtain rfl := Option.some.inj hplay
    exact ⟨rfl, fun _ => rfl⟩
  | cons m before =>
    cases h with
    | unbegun _ => cases hlate
    | raised _ _ =>
      obtain ⟨rfl, -⟩ := List.cons.inj hlate
      have hfrozen := (hbase.stop hp).frozen_of_play hp rfl hplay
      exact ⟨hfrozen.transitions, hfrozen.standing⟩

/-- From the moment at which time runs out no body is started, and every body that was started
before ends before the run does.  No status changes.  In the end a node that was final keeps its
status and its error, and any other one is failed with the deadline as its error. -/
theorem deadline_freezes (hmade : p.Made) (hknows : ∀ n < p.nodes.length, tracker.knows n)
    (hplay : play ask concurrency ms (.over p tracker concurrency dryRun world log) = some q)
    (hexpires : Expires ask concurrency q late q') (hcalm : ∀ m ∈ ms ++ late, m.panics = false)
    (limit : Duration) :
    begun (narrate ask concurrency late q) = [] ∧
      (∀ pre n rest, narrate ask concurrency ms (.over p tracker concurrency dryRun world log) =
          pre ++ .began n :: rest →
        ∃ r, Notice.ended n (.reply r) ∈ rest ++ narrate ask concurrency late q) ∧
      (∀ before after q₁, late = before ++ after → play ask concurrency before q = some q₁ →
        q₁.shared.transitions = q.shared.transitions ∧
          ∀ n, q₁.shared.tracker.standing n = q.shared.tracker.standing n) ∧
      ∀ n < p.nodes.length, (failUnfinished (.timeout limit) q'.shared).tracker.standing n =
        if q.shared.tracker.isFinal n then q.shared.tracker.standing n
        else some (.failed, some (Fault.timeout limit).message) := by
  have hp := hmade.placed
  have hfirst := based_over hknows concurrency dryRun world log
  have hbase := hfirst.played hp hplay
  have hbase' := hbase.played hp hexpires.play_eq
  refine ⟨?_, fun pre n rest hbegan => ?_,
    fun before after q₁ hlate hplay => hexpires.still hp hbase hlate hplay, fun n hn => ?_⟩
  · cases hexpires with
    | unbegun _ => rfl
    -- the stop itself tells of nothing, and nothing begins after it
    | @raised ms' _ hlate _ =>
      show begun (q.tells .stop _ ++
        narrate ask concurrency ms' (q.after ask concurrency .stop)) = []
      rw [tells_stop, List.nil_append]
      exact begun_of_stopped hp (hbase.stop hp) rfl hlate
  · -- All moves taken together leave no body under way.
    have hall : play ask concurrency (ms ++ late)
        (.over p tracker concurrency dryRun world log) = some q' := by
      rw [play_append, hplay]
      exact hexpires.play_eq
    have hattended := attended_of_play hp hfirst hcalm hall
    rw [narrate_append hplay, hbegan, List.append_assoc, List.cons_append] at hattended
    refine (hattended pre n _ rfl).resolve_right ?_
    rintro ⟨t, ht⟩
    rw [hexpires.bodyOf? hbase t] at ht
    cases ht
  · -- a status that was final at the stop is still final when the rest is failed
    have hstill := (hexpires.still hp hbase (List.append_nil late).symm hexpires.play_eq).2 n
    have hfinal := Tracker.isFinal_of_standing hstill
    rw [standing_failUnfinished hp hbase'.nodes hbase'.knows _ hn, hfinal, hstill]

/-- The deadline passes while the body of the action is under way: the body still ends, and what was
deployed by then stays so, but the action is failed. -/
theorem installed_is_cut_short : ∃ q q', replay installed true [.spawn, .resume 0, .spawn,
      .resume 1] = some q ∧ q.bodyOf? 1 = some 2 ∧
    Expires gate none q [.stop, .answerBody 1 (.reply (.ok ()))] q' ∧
    (failUnfinished (.timeout (.ofSeconds 1)) q'.shared).tracker.standing 0 =
      some (.deployed, none) ∧
    (failUnfinished (.timeout (.ofSeconds 1)) q'.shared).tracker.standing 2 =
      some (.failed, some (Fault.timeout (.ofSeconds 1)).message) := by
  let late : List (Move Bool) := [.stop, .answerBody 1 (.reply (.ok ()))]
  obtain ⟨q, q', hq, hbody, hlate, hdone, hbase, haction⟩ : ∃ q q', replay installed true
      [.spawn, .resume 0, .spawn, .resume 1] = some q ∧ q.bodyOf? 1 = some 2 ∧
      play gate none late q = some q' ∧ q'.tasks = [] ∧
      q.shared.tracker.standing 0 = some (.deployed, none) ∧
      q.shared.tracker.isFinal 2 = false :=
    ⟨_, _, rfl, rfl, rfl, rfl, rfl, rfl⟩
  have hmade : (planned installed).Made := made_of_plan (d := installed) rfl
  have hexpires : Expires gate none q late q' := .raised hlate hdone
  have hcalm : ∀ m ∈ ([.spawn, .resume 0, .spawn, .resume 1] ++ late : List (Move Bool)),
      m.panics = false := by simp [late, Move.panics]
  obtain ⟨-, -, -, hend⟩ := deadline_freezes hmade (knows_ofInfos hmade.placed false) hq hexpires
    hcalm (.ofSeconds 1)
  have hfinal : q.shared.tracker.isFinal 0 = true := by
    unfold Tracker.isFinal
    rw [Tracker.status_eq_standing, hbase]
    rfl
  refine ⟨q, q', hq, hbody, hexpires, ?_, ?_⟩
  · rw [hend 0 (by decide), hfinal, if_pos rfl, hbase]
  · rw [hend 2 (by decide), haction, if_neg Bool.false_ne_true]

end Rollout.Engine
