import Rollout.Proofs.Digraph.Acyclic
import Rollout.Proofs.Progress.Conduct

/-!
# Runs whose callbacks keep to their conduct

A `Trial` is a pass together with how often each completion check is still going to wait.  Its steps
are the moves that callbacks of a given conduct allow (`Conduct.Plays`), in any order, and before
each of them the environment may change.  `Underway` is what holds of every pass that such steps
lead to: it never gets stuck before its outcome is final (`Underway.goes_on`), and then the graph
has told which nodes fail (`Underway.decided`).
-/

namespace Rollout.Engine

open Rollout.Plan

variable {ω : Type} {d : Deployment} {p : Plan} {c : Conduct} {s : State ω} {q q' start : Pass ω}
  {n : NodeId} {t : TaskId} {k : Task} {node : Node} {ask : Condition → ω → Readiness × ω}
  {concurrency : Option Nat} {left left' : NodeId → ℕ} {m : Move ω} {world : ω}
  {log : Array Log.Event}

/-- What may happen next in a pass, if callbacks keep to their conduct and there is no deadline.  A
completion check waits as often as it has `left`.  A result that is an error aborts the run, so that
nothing comes after it: only good results are collected. -/
inductive Conduct.Plays (c : Conduct) (q : Pass ω) (left : NodeId → ℕ) :
    Move ω → (NodeId → ℕ) → Prop where
  | spawn (hqueue : q.shared.queue ≠ []) : c.Plays q left .spawn left
  | resume {t : TaskId} (ht : t ∈ q.runnable) : c.Plays q left (.resume t) left
  | ended {t : TaskId} {n : NodeId} (ht : q.bodyOf? t = some n) :
      c.Plays q left (.answerBody t (.reply (c.body n))) left
  | waits {t : TaskId} {n : NodeId} (ht : q.checkOf? t = some n) (hleft : left n ≠ 0)
      (pending : List Diagnostic) :
      c.Plays q left (.answerCheck t (.reply (.ok (.waiting pending))))
        (Function.update left n (left n - 1))
  | answered {t : TaskId} {n : NodeId} (ht : q.checkOf? t = some n) (hleft : left n = 0) :
      c.Plays q left (.answerCheck t (c.answer n)) left
  | collect (hr : q.results.head? = some (.ok ())) : c.Plays q left .collect left
  | next (hsettled : q.settled = true)
      (hopen : q.shared.tracker.summary.outcome.isFinal = false) : c.Plays q left .next left

/-- A pass, and how often the completion check of each node is still going to wait. -/
structure Trial (ω : Type) where
  pass : Pass ω
  left : NodeId → ℕ

/-- One step of a run: the environment changes in whatever way, and then comes a move. -/
inductive Trial.Step (c : Conduct) (ask : Condition → ω → Readiness × ω)
    (concurrency : Option Nat) (t : Trial ω) : Trial ω → Prop where
  | move (world : ω) (log : Array Log.Event) {m : Move ω} {left : NodeId → ℕ}
      (h : c.Plays (t.pass.after ask concurrency (.disturb world log)) t.left m left) :
      Trial.Step c ask concurrency t
        ⟨(t.pass.after ask concurrency (.disturb world log)).after ask concurrency m, left⟩

/-! ## Answers -/

theorem Conduct.Sound.body (h : c.Sound) (n : NodeId) : (Answer.reply (c.body n)).Sound :=
  fun f hf => h n f (.inl hf)

theorem Conduct.Sound.answer (h : c.Sound) (n : NodeId) : (c.answer n).Sound := by
  intro f hf
  cases hc : c.check n with
  | ok u =>
    rw [hc] at hf
    cases hf
  | error f' =>
    rw [hc] at hf
    exact h n f (.inr (hc.trans (congrArg _ (Except.error.inj hf))))

/-- What is in keeping with sound conduct is sound. -/
theorem Conduct.Bears.sound (hc : c.Sound) {notice : Notice} (h : c.Bears notice) :
    notice.Sound := by
  cases notice with
  | began n => trivial
  | ended n answer =>
    obtain rfl : answer = .reply (c.body n) := h
    exact hc.body n
  | checked n answer =>
    rcases h with ⟨pending, rfl⟩ | rfl
    · exact nofun
    · exact hc.answer n

namespace Conduct.Plays

theorem allowed (h : c.Plays q left m left') (hstop : q.shared.stopped = false) :
    q.allows m = true := by
  cases h with
  | spawn => simp [Pass.allows, hstop]
  | resume ht => simpa [Pass.allows] using ht
  | ended | waits | answered => rfl
  | collect hr => simp [Pass.allows, hr, Except.isOk, Except.toBool]
  | next hsettled => simp [Pass.allows, hsettled, hstop]

theorem stops (h : c.Plays q left m left') : m.stops = false := by
  cases h <;> rfl

theorem heard (h : c.Plays q left m left') : ∀ notice ∈ q.heard m, c.Bears notice := by
  cases h with
  | spawn | resume | collect | next => exact nofun
  | ended ht =>
    simp only [Pass.heard, ht, Option.toList_some, List.map_cons, List.map_nil, List.mem_singleton]
    rintro _ rfl
    rfl
  | waits ht hleft pending =>
    simp only [Pass.heard, ht, Option.toList_some, List.map_cons, List.map_nil, List.mem_singleton]
    rintro _ rfl
    exact .inl ⟨pending, rfl⟩
  | answered ht =>
    simp only [Pass.heard, ht, Option.toList_some, List.map_cons, List.map_nil, List.mem_singleton]
    rintro _ rfl
    exact .inr rfl

end Conduct.Plays

/-! ## Segments of a run -/

section Segments

variable (hp : p.Runnable) (hs : Consistent p s) (hnode : p.nodes[node.id]? = some node)

include hp hs hnode

/-- The first segment of a node of the plan. -/
theorem begun_begin (ask : Condition → ω → Readiness × ω) (hstop : s.stopped = false) :
    Begun ask p node s ((begin ask node.id).run s).1 ((begin ask node.id).run s).2 := by
  rcases run_begin_cases ask (hs.numbered hp.toSound) node.id with
    ⟨r, -, ⟨hlate, -⟩ | ⟨hnone, -⟩⟩ | ⟨node', hnode', -, -, hrun⟩
  · rw [hstop] at hlate
    cases hlate
  · rw [hs.nodes_eq, hnode] at hnone
    cases hnone
  · rw [hs.nodes_eq, hnode] at hnode'
    obtain rfl := Option.some.inj hnode'
    rw [hrun]
    exact begun_start ask hp hs hstop hnode

variable (hn : statusAfter s.trace node.id = node.goal.inProgress)

include hn

theorem ended_resumeBody (r : Except Failure Unit) :
    Ended p node s r ((resumeBody node.id (.reply r)).run s).1
      ((resumeBody node.id (.reply r)).run s).2 := by
  unfold resumeBody
  rw [run_resume_reply bodyEnded (by rw [hs.nodes_eq]; exact hnode)]
  exact ended_bodyEnded hp hs hnode hn r

theorem checked_resumeCheck (r : Except Failure Readiness) :
    Checked p node s r ((resumeCheck node.id (.reply r)).run s).1
      ((resumeCheck node.id (.reply r)).run s).2 := by
  unfold resumeCheck
  rw [run_resume_reply checkAnswered (by rw [hs.nodes_eq]; exact hnode)]
  exact checked_checkAnswered hp hs hnode hn r

end Segments

/-! ## Nodes with bodies -/

/-- The node has a body. -/
def HasBody (p : Plan) (n : NodeId) : Prop :=
  ∃ node, p.nodes[n]? = some node ∧ node.body?.isSome = true

theorem Past.no_body {progress : Progress} {s' : State ω} (h : Past p node s progress s')
    (c : CallbackId) : progress ≠ .paused (.body c) := by
  cases h <;> exact nofun

theorem Begun.body_of_paused {c : CallbackId} {s' : State ω}
    (h : Begun ask p node s (.paused (.body c)) s') : node.body? = some c := by
  cases h with
  | entered _ _ _ _ hentered =>
    cases hentered with
    | starts hbody => exact hbody
    | skips _ hpast => exact absurd rfl (hpast.no_body c)
    | pretends _ hpast => exact absurd rfl (hpast.no_body c)

/-- A body that is under way was so before, or the segment has started it. -/
theorem Evaluates.bodyOf?_cases {segment : StateM (State ω) Progress}
    (h : Evaluates q k segment q') (ht : q'.bodyOf? t = some n) :
    q.bodyOf? t = some n ∨ n = k.node ∧ ∃ c, (segment.run q.shared).1 = .paused (.body c) := by
  obtain ⟨c, hpaused⟩ := Pass.bodyOf?_eq_some.1 ht
  rw [h.pausedAt?] at hpaused
  by_cases htk : t = k.id
  · rw [if_pos htk] at hpaused
    cases hprogress : (segment.run q.shared).1 with
    | finished r =>
      rw [hprogress] at hpaused
      cases hpaused
    | paused pause =>
      rw [hprogress] at hpaused
      obtain ⟨rfl, rfl⟩ := Prod.mk.inj (Option.some.inj hpaused)
      exact .inr ⟨rfl, c, rfl⟩
  · rw [if_neg htk] at hpaused
    exact .inl (Pass.bodyOf?_eq_some.2 ⟨c, hpaused⟩)

theorem began_of_mem_starts {notice : Notice} (h : notice ∈ q.starts m q') :
    ∃ n, notice = .began n := by
  obtain ⟨t, -, ht⟩ := List.mem_filterMap.1 h
  split at ht
  · obtain ⟨n, -, rfl⟩ := Option.map_eq_some_iff.1 ht
    exact ⟨n, rfl⟩
  · cases ht

/-- A node that does not wait has been recorded with its status. -/
theorem mem_trace_of_status {trace : List (NodeId × NodeStatus)}
    (hn : statusAfter trace n ≠ .waiting) : (n, statusAfter trace n) ∈ trace := by
  induction trace using List.reverseRecOn with
  | nil => exact absurd rfl hn
  | append_singleton trace r ih =>
    rw [statusAfter_snoc] at hn ⊢
    by_cases hr : r.1 = n
    · rw [if_pos hr, ← hr]
      exact List.mem_append_right _ (List.mem_singleton.2 rfl)
    · rw [if_neg hr] at hn ⊢
      exact List.mem_append_left _ (ih hn)

/-! ## What a run keeps -/

/-- What holds of every pass that a run without a deadline leads to, if callbacks keep to their
conduct. -/
structure Underway (c : Conduct) (p : Plan) (ask : Condition → ω → Readiness × ω)
    (concurrency : Option Nat) (start q : Pass ω) : Prop where
  told : ∃ ms, play ask concurrency ms start = some q ∧
    ∀ notice ∈ narrate ask concurrency ms start, c.Bears notice
  intact : Intact p.attach q
  orderly : q.Orderly none False
  ids : q.ids.Nodup
  called : ∀ {t n}, q.bodyOf? t = some n → HasBody p n
  verdict : c.Verdict p.attach (statusAfter q.shared.trace)
  running : q.shared.stopped = false

theorem underway_first (h : p.Built d) (c : Conduct) (ask : Condition → ω → Readiness × ω)
    (concurrency : Option Nat) (world : ω) (log : Array Log.Event) :
    Underway c p ask concurrency (.first p concurrency false world log)
      (.first p concurrency false world log) where
  told := ⟨[], rfl, nofun⟩
  intact := intact_first h concurrency false world log
  orderly := .ofState _ _
  ids := List.nodup_nil
  called := nofun
  verdict := Conduct.verdict_waiting
  running := rfl

namespace Underway

section Steps

variable (hbuilt : p.Built d) (hsteady : Steady p.attach q)
  (h : Underway c p ask concurrency start q)

include hbuilt hsteady h

omit hsteady in
/-- The node that a task evaluates. -/
theorem node_of_task (hk : q.task? t = some k) :
    ∃ node : Node, p.nodes[node.id]? = some node ∧ k.node = node.id := by
  obtain ⟨node, hnode⟩ := node_of_lt (h.intact.tasked _ (Pass.mem_nodes hk))
  obtain hid : node.id = k.node := hbuilt.sound.id_eq hnode
  exact ⟨node, hid ▸ hnode, hid.symm⟩

/-- The node at which a task has paused. -/
theorem node_of_paused {pause : Pause} (ht : q.pausedAt? t = some (n, pause)) :
    ∃ node : Node, p.nodes[node.id]? = some node ∧ n = node.id ∧
      statusAfter q.shared.trace node.id = node.goal.inProgress ∧
      (∀ c, pause = .body c → node.body?.isSome = true) ∧
      ∀ c, pause = .check c → (node.criteria?.bind (·.check)).isSome = true := by
  obtain ⟨k, hk, rfl, hphase⟩ := Pass.pausedAt?_eq_some.1 ht
  obtain ⟨⟨node, hnode, hn⟩, hcheck⟩ := hsteady.paused hk hphase
  obtain hid : node.id = k.node := (runnable_attach hbuilt).id_eq hnode
  refine ⟨node, hid ▸ hnode, hid.symm, hid ▸ hn, ?_, ?_⟩
  · rintro b rfl
    obtain ⟨node', hnode', hbody⟩ := h.called (Pass.bodyOf?_eq_some.2 ⟨b, ht⟩)
    obtain rfl := Option.some.inj (hnode.symm.trans hnode')
    exact hbody
  · intro b hb
    obtain ⟨node', b', hnode', hb'⟩ := hcheck b hb
    obtain rfl := Option.some.inj (hnode.symm.trans hnode')
    rw [hb']
    rfl

theorem called_step (hq : Stepped ask q m q') (ht : q'.bodyOf? t = some n) : HasBody p n := by
  cases hq with
  | quiet _ hpaused => exact h.called ((bodyOf?_congr (congrFun hpaused t)).symm.trans ht)
  | @began k _ hrun _ =>
    rcases hrun.bodyOf?_cases ht with hbefore | ⟨rfl, c, hprogress⟩
    · exact h.called hbefore
    · obtain ⟨node, hnode, hid⟩ := h.node_of_task hbuilt hrun.task
      rw [hid] at hprogress ⊢
      have hbegun := begun_begin (runnable_attach hbuilt) hsteady.consistent hnode ask h.running
      rw [hprogress] at hbegun
      exact ⟨node, hnode, by rw [hbegun.body_of_paused]; rfl⟩
  | ended answer hrun _ =>
    rcases hrun.bodyOf?_cases ht with hbefore | ⟨-, c, hprogress⟩
    · exact h.called hbefore
    · exact absurd hprogress (resumeBody_starts_none answer q.shared c)
  | checked answer hrun _ =>
    rcases hrun.bodyOf?_cases ht with hbefore | ⟨-, c, hprogress⟩
    · exact h.called hbefore
    · exact absurd hprogress (resumeCheck_starts_none answer q.shared c)

theorem verdict_step (hown : d.OwnEdges) (hgoals : p.SharesGoals)
    (hheard : ∀ notice ∈ q.heard m, c.Bears notice) (hq : Stepped ask q m q') :
    c.Verdict p.attach (statusAfter q'.shared.trace) := by
  have hp := runnable_attach hbuilt
  have hs := hsteady.consistent
  cases hq with
  | quiet hshared =>
    unfold State.trace
    rw [hshared.transitions]
    exact h.verdict
  | @began k _ hrun _ =>
    obtain ⟨node, hnode, hid⟩ := h.node_of_task hbuilt hrun.task
    rw [hrun.shared, hid]
    exact (begun_begin hp hs hnode ask h.running).verdict hbuilt hown hgoals hs h.verdict
      h.intact.mirrors hnode
  | @ended k b _ answer hrun hwaits =>
    have hbody : q.bodyOf? k.id = some k.node := Pass.bodyOf?_eq_some.2 ⟨b, hwaits⟩
    obtain rfl : answer = .reply (c.body k.node) :=
      hheard (.ended k.node answer) (by simp [Pass.heard, hbody])
    obtain ⟨node, hnode, hid, hn, hhas, -⟩ := h.node_of_paused hbuilt hsteady hwaits
    rw [hrun.shared, hid]
    exact (ended_resumeBody hp hs hnode hn (c.body node.id)).verdict hbuilt hown hgoals hs h.verdict
      hnode hn (hhas b rfl)
  | @checked k b _ answer hrun hwaits =>
    have hasked : q.checkOf? k.id = some k.node := Pass.checkOf?_eq_some.2 ⟨b, hwaits⟩
    have hbears : c.Bears (.checked k.node answer) :=
      hheard (.checked k.node answer) (by simp [Pass.heard, hasked])
    obtain ⟨node, hnode, hid, hn, -, hhas⟩ := h.node_of_paused hbuilt hsteady hwaits
    rw [hrun.shared, hid]
    rw [hid] at hbears
    -- Either way the answer is a reply.
    rcases hbears with ⟨pending, rfl⟩ | rfl
    · exact (checked_resumeCheck hp hs hnode hn _).verdict hbuilt hown hgoals hs h.verdict hnode hn
        (hhas b rfl) (.inl ⟨pending, rfl⟩)
    · exact (checked_resumeCheck hp hs hnode hn _).verdict hbuilt hown hgoals hs h.verdict hnode hn
        (hhas b rfl) (.inr rfl)

/-- Nothing but the deadline stops a run. -/
theorem running_step (hstops : m.stops = false) (hq : Stepped ask q m q') :
    q'.shared.stopped = false := by
  have hids : Numbered q.shared := hsteady.consistent.numbered (runnable_attach hbuilt).toSound
  exact (hq.stopped hids hstops).trans h.running

/-- Every move keeps this that is in keeping with the conduct of the callbacks. -/
theorem after_of_steady (hown : d.OwnEdges) (hgoals : p.SharesGoals) (hallowed : q.allows m = true)
    (hsound : ∀ notice ∈ q.heard m, notice.Sound) (hheard : ∀ notice ∈ q.heard m, c.Bears notice)
    (hstops : m.stops = false) :
    Underway c p ask concurrency start (q.after ask concurrency m) := by
  have hq : Stepped ask q m (q.after ask concurrency m) := stepped hsteady.locks hallowed
  obtain ⟨ms, hplay, hbears⟩ := h.told
  refine ⟨⟨ms ++ [m], ?_, fun notice hnotice => ?_⟩,
    h.intact.after hbuilt hown hsteady hsound hallowed, h.orderly.after hsteady.locks m,
    Pass.nodup_after ask concurrency hsteady.locks h.ids m, h.called_step hbuilt hsteady hq,
    h.verdict_step hbuilt hsteady hown hgoals hheard hq, h.running_step hbuilt hsteady hstops hq⟩
  · rw [play_snoc, hplay, Option.bind_some, if_pos hallowed]
  · rw [narrate_snoc hplay] at hnotice
    rcases List.mem_append.1 hnotice with hnotice | hnotice
    · exact hbears notice hnotice
    · rcases List.mem_append.1 hnotice with hnotice | hnotice
      · exact hheard notice hnotice
      · obtain ⟨n, rfl⟩ := began_of_mem_starts hnotice
        trivial

end Steps

/-! ## Runs over the plan of a deployment -/

section Runs

variable (hplan : d.plan = .ok p)
  (h : Underway c p ask concurrency (.first p concurrency false world log) q)

include h

theorem reachable : Reachable ask concurrency (.first p concurrency false world log) q :=
  have ⟨_, hplay, _⟩ := h.told
  reachable_of_play .start hplay

include hplan

theorem steady : Steady p.attach q := (h.reachable.steady_of_plan hplan).2

theorem disturb (hown : d.OwnEdges) (hgoals : p.SharesGoals) (world' : ω)
    (log' : Array Log.Event) : Underway c p ask concurrency (.first p concurrency false world log)
      (q.after ask concurrency (.disturb world' log')) :=
  h.after_of_steady (built_of_plan hplan) (h.steady hplan) hown hgoals rfl nofun nofun rfl

theorem after (hown : d.OwnEdges) (hgoals : p.SharesGoals) (hc : c.Sound)
    (hplays : c.Plays q left m left') :
    Underway c p ask concurrency (.first p concurrency false world log)
      (q.after ask concurrency m) :=
  h.after_of_steady (built_of_plan hplan) (h.steady hplan) hown hgoals (hplays.allowed h.running)
    (fun notice hnotice => (hplays.heard notice hnotice).sound hc) hplays.heard hplays.stops

omit hplan in
/-- A run does not get stuck before its outcome is final. -/
theorem goes_on (left : NodeId → ℕ) :
    q.settled = true ∧ q.shared.tracker.summary.outcome.isFinal = true ∨
      ∃ m left', c.Plays q left m left' := by
  by_cases hqueue : q.shared.queue = []
  swap
  · exact .inr ⟨_, _, .spawn hqueue⟩
  cases hresults : q.results with
  | cons r rest =>
    -- Nobody has met with a defect.
    obtain rfl := h.intact.fine r (by rw [hresults]; exact List.mem_cons_self)
    exact .inr ⟨_, _, .collect (by rw [hresults]; rfl)⟩
  | nil =>
    by_cases htasks : q.tasks = []
    · have hsettled : q.settled = true := by simp [Pass.settled, htasks, hqueue, hresults]
      cases hopen : q.shared.tracker.summary.outcome.isFinal with
      | true => exact .inl ⟨hsettled, rfl⟩
      | false => exact .inr ⟨_, _, .next hsettled hopen⟩
    · rcases h.orderly.stirs htasks with ⟨t, ht⟩ | ⟨t, n, b | b, ht⟩
      · exact .inr ⟨_, _, .resume ht⟩
      · exact .inr ⟨_, _, .ended (Pass.bodyOf?_eq_some.2 ⟨b, ht⟩)⟩
      · have hasked := Pass.checkOf?_eq_some.2 ⟨b, ht⟩
        by_cases hleft : left n = 0
        · exact .inr ⟨_, _, .answered hasked hleft⟩
        · exact .inr ⟨_, _, .waits hasked hleft []⟩

/-- As long as the outcome is open, a pass that has settled leaves a ripe node for the next one to
begin with. -/
theorem exists_ripe_leaf (hcheck : p.check = .ok ()) (hown : d.OwnEdges) (hplain : d.Unconditional)
    (hgoals : p.SharesGoals) (hsettled : q.settled = true)
    (hopen : q.shared.tracker.summary.outcome.isFinal = false) :
    ∃ n ∈ q.shared.plan.leaves, p.Ripe (statusAfter q.shared.trace) n := by
  have hbuilt := built_of_plan hplan
  have hs := (h.steady hplan).consistent
  obtain ⟨rank, hrank⟩ := exists_rank_of_check hbuilt.sound.coherent hcheck
  -- From a node that is not final, edges to such nodes lead down to one that has none.
  have hfrom : ∀ r n, rank n = r → n < p.nodes.length →
      (statusAfter q.shared.trace n).isFinal = false →
      ∃ n ∈ q.shared.plan.leaves, p.Ripe (statusAfter q.shared.trace) n := by
    intro r
    induction r using Nat.strong_induction_on with
    | _ r ih =>
      rintro n rfl hn hnot
      have htends :=
        (h.reachable.attentive hplan).tends_of_settled hsettled h.running hn hnot
      rcases htends.resolve_right (hbuilt.not_masked hown hplain hgoals) with
        hdone | ⟨b, k, hk, hb⟩
      · have hlive := hs.isLive_of_not_final hn hnot
        refine ⟨n, Digraph.mem_leaves.2 ⟨hlive, fun b => ?_⟩, hn, hnot,
          fun b ⟨k, hk⟩ => hdone b k hk⟩
        rw [Option.eq_none_iff_forall_ne_some]
        intro k hk
        obtain ⟨hk', -, hblive⟩ := hs.edge?_iff.1 hk
        exact (hs.isLive_iff.1 hblive).2 (hdone b k hk')
      · exact ih (rank b) (hrank hk) b rfl (hbuilt.sound.target_lt hk) hb
  have hunfinished : ¬∀ n < p.nodes.length, (q.shared.tracker.status n).isFinal = true := by
    intro hall
    rw [hs.tallied.outcome_isFinal_iff.2 hall] at hopen
    cases hopen
  push Not at hunfinished
  obtain ⟨n, hn, hnot⟩ := hunfinished
  rw [hs.status_eq hn] at hnot
  exact hfrom (rank n) n rfl hn (Bool.eq_false_iff.2 hnot)

/-- A node whose body fails does not come to its goal. -/
theorem not_atGoal_of_body {body : CallbackId} (hnode : p.nodes[n]? = some node)
    (hbody : node.body? = some body) {f : Failure} (hf : c.body n = .error f) :
    ¬p.AtGoal (statusAfter q.shared.trace) n := by
  intro hgoal
  obtain ⟨ms, hplay, hbears⟩ := h.told
  have haccounted := accounted_of_play (built_of_plan hplan).sound.placed hnode hbody hplay
  have hactive : statusAfter q.shared.trace n ≠ .waiting := by
    intro hwaiting
    have hfinal := hgoal.isFinal
    rw [hwaiting] at hfinal
    cases hfinal
  -- The body has ended by then, with the answer that is in keeping with its conduct.
  obtain ⟨pre, answer, post, htold, -, hanswer⟩ :=
    haccounted.reached (mem_trace_of_status hactive) hgoal.isGoal
  have hended : answer = .reply (c.body n) := hbears (.ended n answer) (by rw [htold]; simp)
  rw [hf] at hended
  rw [hended] at hanswer
  rcases hanswer with hanswer | hanswer
  · cases hanswer
  · cases hanswer

/-- When the outcome is final, those nodes have failed that can reach a node that fails, and all
others are at their goals. -/
theorem decided (hfinal : q.shared.tracker.summary.outcome.isFinal = true)
    (hnode : p.nodes[n]? = some node) :
    (q.shared.tracker.status n = .failed ↔ c.Doomed p n) ∧
      (¬c.Doomed p n → q.shared.tracker.status n = node.goal.status) := by
  have hs := (h.steady hplan).consistent
  have hclosed : p.Closed (statusAfter q.shared.trace) := h.verdict.closed
  have hend : ∀ m < p.nodes.length, statusAfter q.shared.trace m = .failed ∨
      p.AtGoal (statusAfter q.shared.trace) m := by
    intro m hm
    have hm' := hs.tallied.outcome_isFinal_iff.1 hfinal m hm
    rw [hs.status_eq hm] at hm'
    exact hs.lawful.failed_or_atGoal hm'
  have hblamed : statusAfter q.shared.trace n = .failed → c.Doomed p n := h.verdict.blamed n
  -- What is at its goal reaches only what is at its goal, and that has not failed.
  have hdoomed : c.Doomed p n → ¬p.AtGoal (statusAfter q.shared.trace) n := by
    rintro ⟨m, hreach, mnode, hm, hfails⟩ hgoal
    have hgoal' := hclosed.reaches hgoal hreach
    rcases hfails with ⟨hbody, f, hf⟩ | ⟨hcheck, f, hf⟩
    · obtain ⟨body, hbody⟩ := Option.isSome_iff_exists.1 hbody
      exact h.not_atGoal_of_body hplan hm hbody hf hgoal'
    · rw [(h.verdict.cleared m hgoal').check mnode hm hcheck] at hf
      cases hf
  rw [hs.status_eq (lt_of_node hnode)]
  refine ⟨⟨hblamed, fun hd => (hend n (lt_of_node hnode)).resolve_right (hdoomed hd)⟩,
    fun hnot => ?_⟩
  obtain ⟨node', hnode', hgoal⟩ :=
    (hend n (lt_of_node hnode)).resolve_left fun hfailed => hnot (hblamed hfailed)
  rw [hgoal, Option.some.inj (hnode.symm.trans hnode')]

end Runs

end Underway

end Rollout.Engine
