import Rollout.Proofs.Engine.Passage
import Rollout.Proofs.Order.Started
import Rollout.Proofs.Plan.Extension

/-!
# Bodies run once

Whatever the plan, no body is started twice, and none in a dry run.  A node that has a body comes to
its goal only after the body has been started and has ended, and not with a failure
(`bodies_run_once`).  It may have ended by breaking down, however: `broken_body_counts_as_done`.
-/

namespace Rollout.Engine

open Rollout.Plan

variable {ω : Type} {d : Deployment} {p p' : Plan} {dryRun : Bool} {q q' : Pass ω} {m : Move ω}
  {ms : List (Move ω)} {ask : Condition → ω → Readiness × ω} {concurrency : Option Nat}
  {n : NodeId} {node : Node} {notices more : List Notice} {k : Task}

/-! ## Claims -/

theorem begun_append (notices more : List Notice) :
    begun (notices ++ more) = begun notices ++ begun more := List.filterMap_append

/-- Whoever has started a body has claimed it. -/
structure Claims (notices : List Notice) (q : Pass ω) : Prop where
  once : (begun notices).Nodup
  claimed : ∀ n ∈ begun notices, n ∈ q.shared.started
  dry : q.shared.dryRun = true → begun notices = []

/-- A move that begins no body keeps the claims in order. -/
theorem Claims.of_none (h : Claims notices q) (hdry : q'.shared.dryRun = q.shared.dryRun)
    (hstarted : q.shared.started ⊆ q'.shared.started) (hmore : begun more = []) :
    Claims (notices ++ more) q' := by
  have hsame : begun (notices ++ more) = begun notices := by
    rw [begun_append, hmore, List.append_nil]
  refine ⟨?_, fun n hn => ?_, fun hd => ?_⟩
  · rw [hsame]
    exact h.once
  · rw [hsame] at hn
    exact hstarted (h.claimed n hn)
  · rw [hsame]
    exact h.dry (hdry.symm.trans hd)

/-- Every move keeps the claims in order: a body that begins had not been claimed before. -/
theorem Claims.step (hids : Numbered q.shared) (h : Claims notices q)
    (hq : Stepped ask q m q') : Claims (notices ++ q.tells m q') q' := by
  have hlater := hq.later hids
  have hdry := hlater.dryRun
  have hstarted := hlater.kept
  cases hq with
  | quiet hshared hpaused hresults hheard hlocks =>
    exact h.of_none hdry hstarted (by rw [tells_quiet hpaused hheard]; rfl)
  | ended answer hrun hwaits =>
    exact h.of_none hdry hstarted (by rw [tells_ended hrun hwaits]; rfl)
  | checked answer hrun hwaits =>
    exact h.of_none hdry hstarted (by rw [tells_checked hrun hwaits]; rfl)
  | @began k q' hrun hfree =>
    rw [tells_began hrun hfree]
    cases hprogress : ((begin ask k.node).run q.shared).1 with
    | finished result => exact h.of_none hdry hstarted rfl
    | paused pause =>
      cases pause with
      | check c => exact h.of_none hdry hstarted rfl
      | body c =>
        -- A body is started by whoever claims it, and not in a dry run.
        obtain ⟨hfresh, hwet, hclaimed⟩ := begin_starts hids hprogress
        rw [← hrun.shared] at hclaimed
        have hmore : begun (notices ++ startedBy k (.paused (.body c))) =
            begun notices ++ [k.node] := begun_append ..
        refine ⟨?_, fun n hn => ?_, fun hd => ?_⟩
        · rw [hmore]
          exact List.Nodup.append h.once (List.nodup_singleton _)
            (List.disjoint_singleton.2 fun hmem => hfresh (h.claimed _ hmem))
        · rw [hmore] at hn
          rcases List.mem_append.1 hn with hn | hn
          · exact hstarted (h.claimed n hn)
          · rw [List.mem_singleton.1 hn]
            exact hclaimed
        · rw [hdry, hwet] at hd
          cases hd

/-! ## Bodies that are over -/

/-- The body of a node has been started, and it has ended since, either well or by breaking
down. -/
def BodyOver (n : NodeId) (notices : List Notice) : Prop :=
  ∃ pre answer post, notices = pre ++ .ended n answer :: post ∧ .began n ∈ pre ∧
    (answer = .reply (.ok ()) ∨ answer = .panic)

/-- A body that is over stays so. -/
theorem BodyOver.append (h : BodyOver n notices) (more : List Notice) :
    BodyOver n (notices ++ more) := by
  obtain ⟨pre, answer, post, rfl, hbegan, hanswer⟩ := h
  exact ⟨pre, answer, post ++ more, by simp, hbegan, hanswer⟩

/-- A body that was begun and ends is over. -/
theorem bodyOver_of_ended (hbegan : .began n ∈ notices) {answer : Answer Unit}
    (hanswer : answer = .reply (.ok ()) ∨ answer = .panic) :
    BodyOver n (notices ++ [.ended n answer]) :=
  ⟨notices, answer, [], rfl, hbegan, hanswer⟩

/-- What is known of a node that has a body, outside a dry run. -/
structure Accounted (n : NodeId) (notices : List Notice) (q : Pass ω) : Prop where
  underway : ∀ {t c}, q.pausedAt? t = some (n, .body c) → .began n ∈ notices
  claimed : n ∈ q.shared.started → (∃ t c, q.pausedAt? t = some (n, .body c)) ∨
    BodyOver n notices ∨ q.shared.tracker.status n = .failed ∨ q.shared.stopped = true
  checked : ∀ {t c}, q.pausedAt? t = some (n, .check c) → BodyOver n notices
  reached : ∀ {status}, (n, status) ∈ q.shared.trace → status.isGoal = true → BodyOver n notices

namespace Accounted

/-- Once the body is over there is nothing left to account for. -/
theorem of_over (h : BodyOver n notices)
    (hunderway : ∀ {t c}, q'.pausedAt? t = some (n, .body c) → .began n ∈ notices) :
    Accounted n notices q' :=
  ⟨hunderway, fun _ => .inr (.inl h), fun _ => h, fun _ _ => h⟩

/-- A move that evaluates nothing keeps the account of a node. -/
theorem of_quiet (h : Accounted n notices q) (hshared : Quiet q.shared q'.shared)
    (hpaused : q'.pausedAt? = q.pausedAt?) : Accounted n notices q' where
  underway ht := h.underway (by rwa [hpaused] at ht)
  claimed hn := by
    rw [hshared.started] at hn
    rw [hpaused, hshared.tracker]
    exact (h.claimed hn).imp_right fun h => h.imp_right fun h => h.imp_right hshared.stopped
  checked ht := h.checked (by rwa [hpaused] at ht)
  reached hmem := by
    have htrace : q'.shared.trace = q.shared.trace := congrArg Array.toList hshared.transitions
    rw [htrace] at hmem
    exact h.reached hmem

/-- The evaluation of another node. -/
theorem of_others (h : Accounted n notices q) {segment : StateM (State ω) Progress}
    (hrun : Evaluates q k segment q') (hne : k.node ≠ n)
    (hself : ∀ {n' pause}, q.pausedAt? k.id = some (n', pause) → n' = k.node)
    (hwithin : Within n (fun _ => False) False q.shared q'.shared) (more : List Notice) :
    Accounted n (notices ++ more) q' := by
  have hview : ∀ {t pause}, q'.pausedAt? t = some (n, pause) ↔
      q.pausedAt? t = some (n, pause) := by
    intro t pause
    rw [hrun.pausedAt?]
    by_cases ht : t = k.id
    · subst ht
      rw [if_pos rfl]
      constructor
      · intro h
        rcases hprogress : (segment.run q.shared).1 with pause' | result
        · rw [hprogress] at h
          exact absurd (Prod.mk.inj (Option.some.inj h)).1 hne
        · rw [hprogress] at h
          cases h
      · intro h
        exact absurd (hself h).symm hne
    · rw [if_neg ht]
  -- the segment is about another node, so the status of `n` is as before
  have hstatus := hwithin.status.resolve_right id
  refine ⟨fun ht => ?_, fun hn => ?_, fun ht => (h.checked (hview.1 ht)).append more,
    fun hmem hgoal => ?_⟩
  · exact List.mem_append_left _ (h.underway (hview.1 ht))
  · rw [hstatus, hwithin.stopped]
    rcases h.claimed ((hwithin.started hn).resolve_right id) with ⟨t, c, ht⟩ | hover | hend
    · exact .inl ⟨t, c, hview.2 ht⟩
    · exact .inr (.inl (hover.append more))
    · exact .inr (.inr hend)
  · exact (h.reached ((hwithin.own_of_mem hmem).resolve_right id) hgoal).append more

/-- An evaluation of the node begins. -/
theorem began (h : Accounted n notices q) (hids : Numbered q.shared) (hown : Own n q.shared)
    (hnode : q.shared.plan.nodes[n]? = some node) {body : CallbackId}
    (hbody : node.body? = some body) (hdry : q.shared.dryRun = false) (hk : k.node = n)
    (hrun : Evaluates q k (begin ask k.node) q') (hfree : q.pausedAt? k.id = none) :
    Accounted n (notices ++ startedBy k ((begin ask k.node).run q.shared).1) q' := by
  subst hk
  -- No task has paused at the node.
  have hnobody : ∀ {t pause}, q.pausedAt? t ≠ some (k.node, pause) := by
    intro t pause ht
    rw [hrun.alone ht, hfree] at ht
    cases ht
  have hview : ∀ {t pause}, q'.pausedAt? t = some (k.node, pause) →
      t = k.id ∧ ((begin ask k.node).run q.shared).1 = .paused pause := by
    intro t pause ht
    rw [hrun.pausedAt?] at ht
    by_cases hid : t = k.id
    · rw [if_pos hid] at ht
      refine ⟨hid, ?_⟩
      cases hprogress : ((begin ask k.node).run q.shared).1 with
      | finished result =>
        rw [hprogress] at ht
        cases ht
      | paused pause' =>
        rw [hprogress] at ht
        rw [(Prod.mk.inj (Option.some.inj ht)).2]
    · rw [if_neg hid] at ht
      exact absurd ht hnobody
  have hunderway : ∀ {t c}, q'.pausedAt? t = some (k.node, .body c) →
      .began k.node ∈ notices ++ startedBy k ((begin ask k.node).run q.shared).1 := by
    intro t c ht
    rw [(hview ht).2]
    exact List.mem_append_right _ (List.mem_singleton.2 rfl)
  by_cases hclaimed : k.node ∈ q.shared.started
  · rcases h.claimed hclaimed with ⟨t, c, ht⟩ | hover | hend
    · exact absurd ht hnobody
    · exact of_over (hover.append _) hunderway
    · -- Nothing is done any more.
      obtain ⟨r, hidle⟩ := begin_idle ask hids hend
      have hsame : q'.shared = q.shared := hrun.shared.trans (congrArg Prod.snd hidle)
      refine ⟨hunderway, fun _ => ?_, fun ht => ?_, fun hmem hgoal => ?_⟩
      · rw [hsame]
        exact .inr (.inr hend)
      · have hpaused := (hview ht).2
        rw [hidle] at hpaused
        cases hpaused
      · rw [hsame] at hmem
        exact (h.reached hmem hgoal).append _
  · -- The body is claimed now, if at all.
    have hfresh := begin_unclaimed ask hids hnode hbody hown hclaimed hdry
    refine ⟨hunderway, fun hn => ?_, fun {t c} ht => ?_, fun hmem hgoal => ?_⟩
    · rw [hrun.shared] at hn
      obtain ⟨c, hpaused⟩ := hfresh.claimed hn
      refine .inl ⟨k.id, c, ?_⟩
      rw [hrun.pausedAt?, if_pos rfl, hpaused]
      rfl
    · exact absurd (hview ht).2 (hfresh.no_check c)
    · rw [hrun.shared] at hmem
      rcases hfresh.within.own_of_mem hmem with hold | hnoGoal
      · exact (h.reached hold hgoal).append _
      · have hfalse : _ = false := hnoGoal
        rw [hgoal] at hfalse
        cases hfalse

/-- The body of the node ends. -/
theorem ended (h : Accounted n notices q) (hown : Own n q.shared)
    (hnode : q.shared.plan.nodes[n]? = some node) (hid : node.id = n)
    (hknown : q.shared.tracker.knows n) (hk : k.node = n) {c : CallbackId}
    {answer : Answer Unit} (hrun : Evaluates q k (resumeBody k.node answer) q')
    (hwaits : q.pausedAt? k.id = some (k.node, .body c)) :
    Accounted n (notices ++ [.ended k.node answer]) q' := by
  subst hk
  have hbegan := h.underway hwaits
  have hunderway : .began k.node ∈ notices ++ [.ended k.node answer] :=
    List.mem_append_left _ hbegan
  match answer with
  | .panic => exact of_over (bodyOver_of_ended hbegan (.inr rfl)) fun _ => hunderway
  | .reply (.ok ()) => exact of_over (bodyOver_of_ended hbegan (.inl rfl)) fun _ => hunderway
  | .reply (.error f) =>
    rw [← hid] at hnode hknown hown hrun
    obtain ⟨hwithin, hnopause, hfailed⟩ := resumeBody_failed hnode hknown hown f
    rw [← hrun.shared] at hwithin hfailed
    rw [hid] at hwithin hfailed hrun hnopause
    -- The task has ended, and no other one has paused at the node.
    have hnobody : ∀ {t pause}, q'.pausedAt? t ≠ some (k.node, pause) := by
      intro t pause ht
      rw [hrun.pausedAt?] at ht
      by_cases htk : t = k.id
      · rw [if_pos htk] at ht
        cases hprogress : ((resumeBody k.node (.reply (.error f))).run q.shared).1 with
        | finished result =>
          rw [hprogress] at ht
          cases ht
        | paused pause' => exact hnopause pause' hprogress
      · rw [if_neg htk] at ht
        exact htk (hrun.alone ht)
    refine ⟨fun ht => absurd ht hnobody, fun _ => ?_, fun ht => absurd ht hnobody,
      fun hmem hgoal => ?_⟩
    · rw [hwithin.stopped]
      exact .inr (.inr hfailed.symm)
    · rcases hwithin.own_of_mem hmem with hold | hnoGoal
      · exact (h.reached hold hgoal).append _
      · have hfalse : _ = false := hnoGoal
        rw [hgoal] at hfalse
        cases hfalse

/-- The completion check of the node answers. -/
theorem answered (h : Accounted n notices q) (hk : k.node = n) {c : CallbackId}
    {answer : Answer Readiness} (hrun : Evaluates q k (resumeCheck k.node answer) q')
    (hwaits : q.pausedAt? k.id = some (k.node, .check c)) :
    Accounted n (notices ++ [.checked k.node answer]) q' := by
  subst hk
  refine of_over ((h.checked hwaits).append _) fun {t c'} ht => ?_
  rw [hrun.pausedAt?] at ht
  by_cases hid : t = k.id
  · rw [if_pos hid] at ht
    cases hprogress : ((resumeCheck k.node answer).run q.shared).1 with
    | finished result =>
      rw [hprogress] at ht
      cases ht
    | paused pause =>
      rw [hprogress] at ht
      have hpause : pause = .body c' := (Prod.mk.inj (Option.some.inj ht)).2
      rw [hpause] at hprogress
      -- the task would wait for a body again, but no check leads on to a body
      exact absurd hprogress (resumeCheck_starts_none answer q.shared c')
  · rw [if_neg hid] at ht
    exact List.mem_append_left _ (h.underway ht)

/-- One move. -/
theorem step (h : Accounted n notices q) (hp : p.Placed) (hbase : Based p false q)
    (hnode : p.nodes[n]? = some node) {body : CallbackId} (hbody : node.body? = some body)
    (hq : Stepped ask q m q') : Accounted n (notices ++ q.tells m q') q' := by
  have hids : Numbered q.shared := hbase.numbered hp
  have hown : Own n q.shared := hbase.own hp hnode hbody
  have hnode' : q.shared.plan.nodes[n]? = some node := by rw [hbase.nodes, hnode]
  cases hq with
  | quiet hshared hpaused hresults hheard hlocks =>
    rw [tells_quiet hpaused hheard, List.append_nil]
    exact h.of_quiet hshared hpaused
  | @began k q' hrun hfree =>
    rw [tells_began hrun hfree]
    -- an evaluation of another node leaves the account alone
    by_cases hk : k.node = n
    · exact h.began hids hown hnode' hbody hbase.dryRun hk hrun hfree
    · refine h.of_others hrun hk (fun hpaused => ?_) ?_ _
      · rw [hfree] at hpaused
        cases hpaused
      · rw [hrun.shared]
        exact within_begin hids (fun heq => absurd heq hk) hown.open
  | @ended k c q' answer hrun hwaits =>
    rw [tells_ended hrun hwaits]
    by_cases hk : k.node = n
    · exact h.ended hown hnode' (hp.id_eq hnode) (hbase.knows (lt_of_node hnode)) hk hrun hwaits
    · refine h.of_others hrun hk (fun hpaused => ?_) ?_ _
      · exact (Prod.mk.inj (Option.some.inj (hpaused.symm.trans hwaits))).1
      · rw [hrun.shared]
        exact within_resumeBody hids (fun heq => absurd heq hk) hown.open answer
  | @checked k c q' answer hrun hwaits =>
    rw [tells_checked hrun hwaits]
    by_cases hk : k.node = n
    · exact h.answered hk hrun hwaits
    · refine h.of_others hrun hk (fun hpaused => ?_) ?_ _
      · exact (Prod.mk.inj (Option.some.inj (hpaused.symm.trans hwaits))).1
      · rw [hrun.shared]
        exact within_resumeCheck hids (fun heq => absurd heq hk) hown.open answer

end Accounted

/-! ## All runs -/

section Runs

variable {world : ω} {log : Array Log.Event}

/-- A play of the first pass keeps to its base. -/
theorem based_of_play (hp : p.Placed)
    (hplay : play ask concurrency ms (.first p concurrency dryRun world log) = some q) :
    Based p dryRun q :=
  play_induction (motive := fun _ q => Based p dryRun q)
    (based_first hp concurrency dryRun world log)
    (fun _ _ _ _ h hm => h.step hp (stepped h.locks hm)) hplay

/-- The claims are in order wherever a pass has got to. -/
theorem claims_of_play (hp : p.Placed)
    (hplay : play ask concurrency ms (.first p concurrency dryRun world log) = some q) :
    Claims (narrate ask concurrency ms (.first p concurrency dryRun world log)) q := by
  refine play_induction (motive := fun ms q =>
    Claims (narrate ask concurrency ms (.first p concurrency dryRun world log)) q) ?_ ?_ hplay
  · exact ⟨List.nodup_nil, nofun, fun _ => rfl⟩
  · intro ms q m hplay h hm
    have hbase := based_of_play hp hplay
    rw [narrate_snoc hplay]
    exact h.step (hbase.numbered hp) (stepped hbase.locks hm)

/-- The account of a node is in order wherever a pass has got to. -/
theorem accounted_of_play (hp : p.Placed) (hnode : p.nodes[n]? = some node) {body : CallbackId}
    (hbody : node.body? = some body)
    (hplay : play ask concurrency ms (.first p concurrency false world log) = some q) :
    Accounted n (narrate ask concurrency ms (.first p concurrency false world log)) q := by
  refine play_induction (motive := fun ms q =>
    Accounted n (narrate ask concurrency ms (.first p concurrency false world log)) q) ?_ ?_ hplay
  · exact ⟨nofun, nofun, nofun, nofun⟩
  · intro ms q m hplay h hm
    have hbase := based_of_play hp hplay
    rw [narrate_snoc hplay]
    exact h.step hp hbase hnode hbody (stepped hbase.locks hm)

/-- Over a plan that a deployment makes, and that may have been extended since, no body is started
twice, and none in a dry run.  Outside a dry run a node that has a body is recorded at its goal only
after the body has been started and has ended, not with a failure. -/
theorem bodies_run_once (hplan : d.plan = .ok p) (hext : p.Extends p')
    (hplay : play ask concurrency ms (.first p' concurrency dryRun world log) = some q) :
    (begun (narrate ask concurrency ms (.first p' concurrency dryRun world log))).Nodup ∧
      (dryRun = true →
        begun (narrate ask concurrency ms (.first p' concurrency dryRun world log)) = []) ∧
      (dryRun = false → ∀ n node body, p'.nodes[n]? = some node → node.body? = some body →
        (n, node.goal.status) ∈ q.shared.trace →
        BodyOver n (narrate ask concurrency ms (.first p' concurrency dryRun world log))) := by
  have hp : p'.Placed := hext.placed (built_of_plan hplan).sound.placed
  have hclaims := claims_of_play hp hplay
  refine ⟨hclaims.once, fun hdry => ?_, ?_⟩
  · exact hclaims.dry ((based_of_play hp hplay).dryRun.trans hdry)
  · rintro rfl n node body hnode hbody hmem
    exact (accounted_of_play hp hnode hbody hplay).reached hmem (Goal.isGoal_status _)

end Runs

/-- An action that brings about an element with two others ahead of it. -/
def joined : Deployment :=
  let top : Element :=
    { id := "top", component := "top"
      relation := fun _ => some (.dependsOn "top" ["left", "right"]) }
  { added := [{ id := "left", component := "left" }, { id := "right", component := "right" }, top]
    actions := [⟨.create, "join", [⟨.create, top, "join"⟩], 0⟩] }

/-- The body has ended well before its node is recorded as deployed. -/
theorem joined_runs_once : ∃ ms q, play gate none ms
      (.first (planned joined) none false true #[]) = some q ∧
    (3, .deployed) ∈ q.shared.trace ∧
    (begun (narrate gate none ms (.first (planned joined) none false true #[]))).Nodup ∧
    BodyOver 3 (narrate gate none ms (.first (planned joined) none false true #[])) := by
  let ms : List (Move Bool) := [.spawn, .resume 0, .resume 1, .spawn, .resume 2,
    .answerBody 2 (.reply (.ok ()))]
  obtain ⟨q, hq, hmem⟩ : ∃ q, play gate none ms
      (.first (planned joined) none false true #[]) = some q ∧ (3, .deployed) ∈ q.shared.trace :=
    ⟨_, rfl, by decide⟩
  have hplan : joined.plan = .ok (planned joined) := rfl
  obtain ⟨honce, -, hover⟩ := bodies_run_once hplan .refl hq
  exact ⟨ms, q, hq, hmem, honce, hover rfl 3 _ _ rfl rfl hmem⟩

/-- A body that breaks down gives up its node, and the next evaluation of that node, which finds the
body claimed, records it as deployed. -/
theorem broken_body_counts_as_done : ∃ p ms q, joined.plan = .ok p ∧ p.check = .ok () ∧
    play gate none ms (.first p none false true #[]) = some q ∧ (3, .deployed) ∈ q.shared.trace ∧
    Notice.ended 3 (.reply (.ok ())) ∉ narrate gate none ms (.first p none false true #[]) := by
  let ms : List (Move Bool) := [.spawn, .resume 0, .resume 1, .spawn, .resume 2,
    .answerBody 2 .panic, .resume 3]
  have htold : narrate gate none ms (.first (planned joined) none false true #[]) =
    [.began 3, .ended 3 .panic] := rfl
  refine ⟨planned joined, ms, _, rfl, rfl, rfl, by decide, ?_⟩
  rw [htold]
  simp

end Rollout.Engine
