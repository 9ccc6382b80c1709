import Rollout.Proofs.Progress.Resting

/-!
# No node is stranded

A pass attends to every node that is not final: the node is queued, or has a task, or is at rest
and `Attended`.  Every move keeps this, unless a defect has turned up or the deadline has passed.
So when a pass has settled, the nodes that are not final are those with which the next pass
begins, and those that depend on such nodes (`no_node_is_stranded`).  `Masked` nodes are exempt,
and `masked_node_is_stranded` shows that they have to be.
-/

namespace Rollout.Engine

open Rollout.Plan

variable {ω : Type} {d : Deployment} {p : Plan} {s s' : State ω} {q q' : Pass ω} {n : NodeId}

/-! ## One node -/

/-- A node that is attended stays so, or is queued. -/
theorem attended_moved (hp : p.Sound) (h : Consistent p s) {m : NodeId} (hmoved : Moved p m s s')
    (hsignalled : Signalled m s s') (hn : n < p.nodes.length)
    (hfinal : (statusAfter s'.trace n).isFinal = false)
    (hattended : p.Attended (statusAfter s.trace) n) :
    n ∈ s'.queue ∨ p.Attended (statusAfter s'.trace) n := by
  rcases hattended with hdone | ⟨b, k, hk, hb⟩
  · -- whatever is at its goal stays there
    refine .inr (.inl fun b k hk => ?_)
    exact (hdone b k hk).congr (hmoved.final (hdone b k hk).isFinal)
  · cases hb' : (statusAfter s'.trace b).isFinal with
    | false => exact .inr (.inr ⟨b, k, hk, hb'⟩)
    | true =>
      -- The last one it depended on has become final, and has signalled it.
      have hn' : (statusAfter s.trace n).isFinal = false := by
        cases hold : (statusAfter s.trace n).isFinal with
        | false => rfl
        | true =>
          rw [hmoved.final hold, hold] at hfinal
          cases hfinal
      have hlive : s.plan.graph.edge? n b = some k :=
        h.edge?_iff.2 ⟨hk, h.isLive_of_not_final hn hn', h.isLive_of_not_final (hp.target_lt hk) hb⟩
      by_cases hbm : b = m
      · subst hbm
        exact .inl (hsignalled hb hb' hlive)
      · exact .inl (hmoved.woken hbm hb hb' hlive)

/-- A node whose evaluation has ended without a fault. -/
theorem attended_of_rested (h : p.Built d) (hs : Consistent p.attach s)
    (hrested : InProgress p.attach (statusAfter s.trace) n ∧ HasCheck p.attach n ∨
      p.attach.Withheld (statusAfter s.trace) n) :
    p.Attended (statusAfter s.trace) n ∨ p.Masked (statusAfter s.trace) n := by
  have hstatus : p.Decided (statusAfter s.trace) := fun _ => hs.lawful.failed_or_atGoal
  rcases hrested with ⟨hprogress, node, c, hnode, hc⟩ | hwithheld
  · have hn : p.nodes[n]? = some node := hnode
    have hmet := hs.lawful.met_of_started (runnable_attach h).toSound hprogress.started
    cases hel : node.element? with
    | none =>
      rw [h.check_of_work hn hel] at hc
      cases hc
    | some el => exact h.attended_of_met hstatus hn hel ⟨hmet.hard, hmet.soft⟩
  · exact h.attended_of_withheld hstatus hwithheld

/-! ## All nodes -/

/-- The pass is going to look at the node. -/
def Pass.Pending (q : Pass ω) (n : NodeId) : Prop :=
  n ∈ q.shared.queue ∨ ∃ t k, q.task? t = some k ∧ k.node = n

/-- The node is looked after, if it has to be. -/
def Pass.Tends (p : Plan) (q : Pass ω) (n : NodeId) : Prop :=
  q.Pending n ∨ p.Attended (statusAfter q.shared.trace) n ∨ p.Masked (statusAfter q.shared.trace) n

/-- The pass looks after every node that is not final, as long as no defect has turned up and the
deadline has not passed. -/
def Attentive (p : Plan) (q : Pass ω) : Prop :=
  q.shared.stopped = true ∨ (∃ f, .error f ∈ q.results) ∨
    ∀ n, n < p.nodes.length → (statusAfter q.shared.trace n).isFinal = false → q.Tends p n

/-- A node stays pending while lines are rearranged. -/
theorem Pass.Pending.rearranged (h : q.Pending n) (hq : Rearranged q q') : q'.Pending n := by
  rcases h with hqueue | ⟨t, k, hk, hnode⟩
  · rw [← hq.shared] at hqueue
    exact .inl hqueue
  · obtain ⟨i, hi, hsame⟩ := hq.kept hk
    exact .inr ⟨t, i, hi, hsame.trans hnode⟩

/-- A pass stays attentive while lines are rearranged. -/
theorem Attentive.rearranged (h : Attentive p q) (hq : Rearranged q q') : Attentive p q' := by
  rcases h with hstop | ⟨f, hf⟩ | htends
  · exact .inl (by rw [hq.shared, hstop])
  · exact .inr (.inl ⟨f, by rw [hq.results]; exact hf⟩)
  · refine .inr (.inr fun n hn hfinal => ?_)
    rw [hq.shared] at hfinal
    unfold Pass.Tends
    rw [hq.shared]
    exact (htends n hn hfinal).imp_left (·.rearranged hq)

/-! ## One segment -/

section Segment

variable {k : Task} {segment : StateM (State ω) Progress}

/-- What becomes of the task that runs a segment. -/
theorem runSegment_ended (hk : q.task? k.id = some k) (segment : StateM (State ω) Progress) :
    ((∃ pause, (segment.run q.shared).1 = .paused pause) ∧
        (q.runSegment k segment).results = q.results ∧
        ∃ i, (q.runSegment k segment).task? k.id = some i ∧ i.node = k.node) ∨
      ∃ result, (segment.run q.shared).1 = .finished result ∧
        (q.runSegment k segment).results = q.results ++ [result] := by
  unfold Pass.runSegment
  cases segment.run q.shared with
  | mk progress shared =>
    cases progress with
    | paused pause =>
      refine .inl ⟨⟨pause, rfl⟩, rfl, ?_⟩
      have htask : ({ q with shared } : Pass ω).task? k.id = some k := hk
      simp only [Pass.task?_setPhase, if_true, htask]
      exact ⟨_, rfl, rfl⟩
    | finished result => exact .inr ⟨result, rfl, Pass.finish_results ..⟩

/-- The other tasks stay. -/
theorem runSegment_others {u : TaskId} {j : Task} (hu : u ≠ k.id) (hj : q.task? u = some j)
    (segment : StateM (State ω) Progress) :
    ∃ i, (q.runSegment k segment).task? u = some i ∧ i.node = j.node := by
  unfold Pass.runSegment
  cases segment.run q.shared with
  | mk progress shared =>
    have htask : ({ q with shared } : Pass ω).task? u = some j := hj
    cases progress with
    | paused pause =>
      simp only [Pass.task?_setPhase, if_neg hu, htask]
      exact ⟨_, rfl, rfl⟩
    | finished result => exact Pass.task?_finish hu htask

/-- A segment takes no result away. -/
theorem mem_results_runSegment (hk : q.task? k.id = some k) {r : Except Fault Unit}
    (hr : r ∈ q.results) : r ∈ (q.runSegment k segment).results := by
  rcases runSegment_ended hk segment with ⟨-, hresults, -⟩ | ⟨result, -, hresults⟩
  · rw [hresults]
    exact hr
  · rw [hresults]
    exact List.mem_append_left _ hr

section Evaluated

variable (hbuilt : p.Built d) (hk : q.Holder k)
  (hadvance : Advance p.attach k.node q.shared (segment.run q.shared).1
    (segment.run q.shared).2)

include hbuilt hk hadvance

/-- The node that has been evaluated, unless there is a defect to report. -/
theorem tends_evaluated (hstop : q.shared.stopped = false) :
    (∃ f, .error f ∈ (q.runSegment k segment).results) ∨
      (k.node < p.nodes.length →
        (statusAfter (segment.run q.shared).2.trace k.node).isFinal = false →
        (q.runSegment k segment).Tends p k.node) := by
  rcases runSegment_ended hk.task segment with ⟨-, -, i, hi, hnode⟩ | ⟨result, hended, hresults⟩
  · -- the task has paused, so it is still there
    exact .inr fun _ _ => .inl (.inr ⟨_, i, hi, hnode⟩)
  · cases result with
    | error f => exact .inl ⟨f, by rw [hresults]; simp⟩
    | ok u =>
      refine .inr fun hn hfinal => .inr ?_
      have hrested := (hadvance.rested hended hstop hn).resolve_left (by simp [hfinal])
      rw [Pass.runSegment_shared]
      exact attended_of_rested hbuilt hadvance.moved.consistent hrested

/-- Any other node. -/
theorem tends_others (h : Steady p.attach q) (hnk : n ≠ k.node) (hn : n < p.nodes.length)
    (hfinal : (statusAfter (segment.run q.shared).2.trace n).isFinal = false)
    (htends : (statusAfter q.shared.trace n).isFinal = false → q.Tends p n) :
    (q.runSegment k segment).Tends p n := by
  have hmoved := hadvance.moved
  -- a node that is open now was open before
  have hbefore : (statusAfter q.shared.trace n).isFinal = false := by
    cases hold : (statusAfter q.shared.trace n).isFinal with
    | false => rfl
    | true =>
      rw [hmoved.final hold, hold] at hfinal
      cases hfinal
  unfold Pass.Tends Pass.Pending
  rw [Pass.runSegment_shared]
  rcases htends hbefore with (hqueue | ⟨u, j, hj, hnode⟩) | hattended | hmask
  · exact .inl (.inl (hmoved.queue hqueue))
  · -- its task is another one, since the node is
    have hu : u ≠ k.id := by
      rintro rfl
      exact hnk (by rw [← hnode, Option.some.inj (hj.symm.trans hk.task)])
    obtain ⟨i, hi, hsame⟩ := runSegment_others hu hj segment
    exact .inl (.inr ⟨u, i, hi, hsame.trans hnode⟩)
  · have hstep := attended_moved (runnable_attach hbuilt).toSound h.consistent hmoved
      hadvance.signalled hn hfinal hattended
    exact hstep.elim (fun hqueue => .inl (.inl hqueue)) fun hattended => .inr (.inl hattended)
  · exact .inr (.inr (hmask.mono hbuilt.sound fun m _ hm => hmoved.final hm))

/-- A pass stays attentive when a segment is run: the node at work is done with, waits, or is left
to somebody. -/
theorem Attentive.ran (h : Steady p.attach q) (hq : Attentive p q) :
    Attentive p (q.runSegment k segment) := by
  unfold Attentive
  rw [Pass.runSegment_shared, hadvance.moved.stopped]
  rcases hq with hstop | ⟨f, hf⟩ | htends
  · exact .inl hstop
  · exact .inr (.inl ⟨f, mem_results_runSegment hk.task hf⟩)
  · cases hstop : q.shared.stopped with
    | true => exact .inl rfl
    | false =>
      have hself := tends_evaluated hbuilt hk hadvance hstop
      refine .inr (hself.imp_right fun hself n hn hfinal => ?_)
      by_cases hnk : n = k.node
      · exact hnk ▸ hself (hnk ▸ hn) (hnk ▸ hfinal)
      · exact tends_others hbuilt hk hadvance h hnk hn hfinal (htends n hn)

end Evaluated

end Segment

/-! ## All runs -/

/-- A pass stays attentive whatever a task does. -/
theorem Attentive.taskMoved (hbuilt : p.Built d) (h : Steady p.attach q)
    (hq : TaskMoved p.attach q q') (hattentive : Attentive p q) : Attentive p q' := by
  cases hq with
  | lined hq => exact hattentive.rearranged hq
  | ran hq hk hadvance =>
    rw [← hq.shared] at hadvance
    exact (hattentive.rearranged hq).ran hbuilt hk hadvance (h.rearranged hq)

/-- A pass stays attentive when queued nodes become tasks. -/
theorem Attentive.spawn (h : Steady p.attach q) (hattentive : Attentive p q) :
    Attentive p q.spawn := by
  obtain ⟨hq, htasks⟩ := rearranged_spawn h.locks
  rcases hattentive with hstop | ⟨f, hf⟩ | htends
  · exact .inl (by rw [hq.shared]; exact hstop)
  · exact .inr (.inl ⟨f, by rw [hq.results]; exact hf⟩)
  · refine .inr (.inr fun n hn hfinal => ?_)
    rw [hq.shared] at hfinal
    unfold Pass.Tends
    rw [hq.shared]
    refine (htends n hn hfinal).imp_left fun hpending => ?_
    rcases hpending with hqueue | ⟨t, k, hk, hnode⟩
    · exact .inr (htasks n hqueue)
    · obtain ⟨i, hi, hsame⟩ := hq.kept hk
      exact .inr ⟨t, i, hi, hsame.trans hnode⟩

/-- A result that is no defect is looked at and dropped. -/
theorem Attentive.collect (hattentive : Attentive p q)
    (hallowed : (q.shared.stopped || q.results.head?.all fun r => r.isOk) = true) :
    Attentive p { q with results := q.results.tail } := by
  rcases hattentive with hstop | ⟨f, hf⟩ | htends
  · exact .inl hstop
  · cases hstop : q.shared.stopped with
    | true => exact .inl hstop
    | false =>
      cases hresults : q.results with
      | nil =>
        rw [hresults] at hf
        cases hf
      | cons r rest =>
        rw [hstop, hresults] at hallowed
        rw [hresults] at hf
        refine .inr (.inl ⟨f, ?_⟩)
        rcases List.mem_cons.1 hf with rfl | hf
        · -- a result with an error may not be collected while the pass goes on
          cases hallowed
        · exact hf
  · exact .inr (.inr htends)

/-- When a pass has settled, it has nothing to look at any more. -/
theorem not_pending_of_settled (h : q.settled = true) : ¬q.Pending n := by
  unfold Pass.settled at h
  simp only [Bool.and_eq_true, List.isEmpty_iff] at h
  obtain ⟨⟨htasks, hqueue⟩, -⟩ := h
  rintro (hmem | ⟨t, k, hk, -⟩)
  · rw [hqueue] at hmem
    cases hmem
  · unfold Pass.task? at hk
    rw [htasks] at hk
    cases hk

/-- When nothing is pending any more, every open node is attended to or masked. -/
theorem Attentive.tends_of_settled (hattentive : Attentive p q) (h : q.settled = true)
    (hstop : q.shared.stopped = false) (hn : n < p.nodes.length)
    (hfinal : (statusAfter q.shared.trace n).isFinal = false) :
    p.Attended (statusAfter q.shared.trace) n ∨ p.Masked (statusAfter q.shared.trace) n := by
  rcases hattentive with hstop' | ⟨f, hf⟩ | htends
  · rw [hstop] at hstop'
    cases hstop'
  · unfold Pass.settled at h
    simp only [Bool.and_eq_true, List.all_eq_true] at h
    cases h.2 _ hf
  · exact (htends n hn hfinal).resolve_left (not_pending_of_settled h)

/-- The next pass begins with the leaves. -/
theorem Attentive.next (hattentive : Attentive p q) (h : q.settled = true)
    (hstop : q.shared.stopped = false) (concurrency : Option Nat) :
    Attentive p (.ofState { q.shared with queue := q.shared.plan.leaves } concurrency) :=
  .inr (.inr fun _ hn hfinal => .inr (hattentive.tends_of_settled h hstop hn hfinal))

/-- Every move keeps a pass attentive. -/
theorem Attentive.after (hbuilt : p.Built d) (h : Steady p.attach q) (hattentive : Attentive p q)
    {ask : Condition → ω → Readiness × ω} {concurrency : Option Nat} {m : Move ω}
    (hm : q.allows m = true) : Attentive p (q.after ask concurrency m) := by
  have hp := runnable_attach hbuilt
  cases m with
  | spawn => exact hattentive.spawn h
  | resume t => exact hattentive.taskMoved hbuilt h (taskMoved_resume ask hp h t)
  | answerBody t answer => exact hattentive.taskMoved hbuilt h (taskMoved_answerBody hp h t answer)
  | answerCheck t answer =>
    exact hattentive.taskMoved hbuilt h (taskMoved_answerCheck hp h t answer)
  | collect => exact hattentive.collect hm
  | disturb world log => exact hattentive
  | stop => exact .inl rfl
  -- a new pass is begun only once the old one has settled
  | next =>
    have hallowed : (q.settled && !q.shared.stopped) = true := hm
    rw [Bool.and_eq_true, Bool.not_eq_true'] at hallowed
    exact hattentive.next hallowed.1 hallowed.2 concurrency

/-- At first every node waits: one that has dependencies has one that is not final. -/
theorem attentive_first (p : Plan) (concurrency : Option Nat) (dryRun : Bool) (world : ω)
    (log : Array Log.Event) : Attentive p (.first p concurrency dryRun world log) := by
  refine .inr (.inr fun n hn hfinal => .inr (.inl ?_))
  by_cases hleaf : ∀ b k, p.graph.edge? n b ≠ some k
  · exact .inl fun b k hk => absurd hk (hleaf b k)
  · push Not at hleaf
    obtain ⟨b, k, hk⟩ := hleaf
    exact .inr ⟨b, k, hk, rfl⟩

section Runs

variable {ask : Condition → ω → Readiness × ω} {concurrency : Option Nat} {dryRun : Bool}
  {world : ω} {log : Array Log.Event}

/-- Every reachable pass is attentive. -/
theorem Reachable.attentive (hplan : d.plan = .ok p)
    (h : Reachable ask concurrency (.first p concurrency dryRun world log) q) :
    Attentive p q := by
  have hbuilt := built_of_plan hplan
  induction h with
  | start => exact attentive_first p concurrency dryRun world log
  | move m hreach hm ih => exact ih.after hbuilt (hreach.steady (runnable_attach hbuilt)) hm

/-- When a pass has settled before the deadline, a node that is not final and from which nothing
is hidden is a leaf of the live graph, with which the next pass begins, or it has a live
dependency that is not final. -/
theorem no_node_is_stranded (hplan : d.plan = .ok p)
    (hreach : Reachable ask concurrency (.first p concurrency dryRun world log) q)
    (hsettled : q.settled = true) (hstop : q.shared.stopped = false) (hn : n < p.nodes.length)
    (hfinal : (q.shared.tracker.status n).isFinal = false)
    (hmask : ¬p.Masked q.shared.tracker.status n) :
    n ∈ q.shared.plan.leaves ∨ ∃ b k, q.shared.plan.graph.edge? n b = some k ∧
      (q.shared.tracker.status b).isFinal = false := by
  obtain ⟨hsound, hsteady⟩ := hreach.steady_of_plan hplan
  have hconsistent := hsteady.consistent
  rw [hconsistent.status_eq hn] at hfinal
  have hlive := hconsistent.isLive_of_not_final hn hfinal
  have hmask' : ¬p.Masked (statusAfter q.shared.trace) n := fun hmasked =>
    hmask (hmasked.mono (built_of_plan hplan).sound fun m hm _ => hconsistent.status_eq hm)
  have hattended :=
    ((hreach.attentive hplan).tends_of_settled hsettled hstop hn hfinal).resolve_right hmask'
  rcases hattended with hdone | ⟨b, k, hk, hb⟩
  · refine .inl (Digraph.mem_leaves.2 ⟨hlive, fun b => ?_⟩)
    cases hk : q.shared.plan.graph.edge? n b with
    | none => rfl
    | some k =>
      -- The target of a live edge is live, and so it is not at its goal.
      obtain ⟨hk', -, hblive⟩ := hconsistent.edge?_iff.1 hk
      exact absurd (hdone b k hk') (hconsistent.isLive_iff.1 hblive).2
  · have hb' := hsound.target_lt hk
    have hblive := hconsistent.isLive_of_not_final hb' hb
    refine .inr ⟨b, k, hconsistent.edge?_iff.2 ⟨hk, hlive, hblive⟩, ?_⟩
    rw [hconsistent.status_eq hb', hb]

/-- A node from which a failure is hidden is no leaf: what has failed stays in the live graph.  So
such a node is left behind as soon as everything it depends on is final. -/
theorem not_leaf_of_masked (hplan : d.plan = .ok p)
    (hreach : Reachable ask concurrency (.first p concurrency dryRun world log) q)
    (hn : n < p.nodes.length) (hfinal : (q.shared.tracker.status n).isFinal = false)
    (hmask : p.Masked q.shared.tracker.status n) : n ∉ q.shared.plan.leaves := by
  obtain ⟨hsound, hsteady⟩ := hreach.steady_of_plan hplan
  have hconsistent := hsteady.consistent
  obtain ⟨b, k, hk, hfailed⟩ := hmask.exists_failed
  have hb := hsound.target_lt hk
  rw [hconsistent.status_eq hn] at hfinal
  rw [hconsistent.status_eq hb] at hfailed
  -- a node that has failed is not at its goal, so it stays in the live graph
  have hblive : q.shared.plan.isLive b = true := by
    refine hconsistent.isLive_iff.2 ⟨hb, ?_⟩
    intro hgoal
    have hisGoal := hgoal.isGoal
    rw [hfailed] at hisGoal
    cases hisGoal
  intro hleaf
  have hnone := (Digraph.mem_leaves.1 hleaf).2 b
  rw [hconsistent.edge?_iff.2 ⟨hk, hconsistent.isLive_of_not_final hn hfinal, hblive⟩] at hnone
  cases hnone

end Runs

/-- An element that depends on another one, which takes its time. -/
def slow : Deployment where
  added := [
    { id := "base", component := "base", check := some 0 },
    { id := "top", component := "top", relation := fun _ => some (.edge "top" "base") }]

/-- After the first pass the second element waits for the first. -/
theorem slow_is_not_stranded : ∃ q, replay slow true [.spawn, .resume 0,
      .answerCheck 0 (.reply (.ok (.waitingFor "later"))), .collect] = some q ∧
    q.settled = true ∧ q.shared.tracker.status 1 = .waiting ∧
    (1 ∈ q.shared.plan.leaves ∨ ∃ b k, q.shared.plan.graph.edge? 1 b = some k ∧
      (q.shared.tracker.status b).isFinal = false) := by
  obtain ⟨q, hq, hsettled, hstop, hwaiting⟩ : ∃ q, replay slow true [.spawn, .resume 0,
      .answerCheck 0 (.reply (.ok (.waitingFor "later"))), .collect] = some q ∧
      q.settled = true ∧ q.shared.stopped = false ∧ q.shared.tracker.status 1 = .waiting :=
    ⟨_, rfl, rfl, rfl, rfl⟩
  have hplan : slow.plan = .ok (planned slow) := rfl
  have hmask : ¬(planned slow).Masked q.shared.tracker.status 1 := by
    rintro (⟨pre, f, post, -, -, -, hsplit, -⟩ | ⟨node, -, -, -, -, -, hnode, hg, -⟩)
    · have hnone : (planned slow).followersOf 1 = [] := rfl
      rw [hnone] at hsplit
      exact absurd hsplit (by simp)
    · rw [← Option.some.inj hnode] at hg
      cases hg
  exact ⟨q, hq, hsettled, hwaiting, no_node_is_stranded hplan (reachable_of_replay hq) hsettled
    hstop (by decide) (by rw [hwaiting]; rfl) hmask⟩

/-- An action that brings about an element that waits for a condition, and one that depends on
an element that fails. -/
def hidden : Deployment :=
  let waits : Element :=
    { id := "f1", component := "f1", relation := fun _ => some (.condition ⟨"gate", 0⟩) }
  let depends : Element :=
    { id := "f2", component := "f2", relation := fun _ => some (.dependsOn "f2" ["x"]) }
  let fails : Element := { id := "x", component := "x", check := some 0 }
  { added := [waits, depends, fails]
    actions := [⟨.create, "both", [⟨.create, waits, "both"⟩, ⟨.create, depends, "both"⟩], 0⟩] }

/-- The failure is hidden behind the condition: the action waits, although the one dependency it
has left has failed, and no pass begins with it. -/
theorem masked_node_is_stranded : ∃ p q, hidden.plan = .ok p ∧ p.check = .ok () ∧
    Reachable gate none (.first p none false false #[]) q ∧ q.settled = true ∧
    q.shared.stopped = false ∧ q.shared.tracker.status 3 = .waiting ∧
    q.shared.plan.graph.outgoing 3 = [(2, .soft)] ∧ q.shared.tracker.status 2 = .failed ∧
    q.shared.plan.leaves = [2] := by
  obtain ⟨q, hq, hsettled, hstop, hwaiting, hout, hfailed, hleaves⟩ : ∃ q,
      replay hidden false [.spawn, .resume 0,
        .answerCheck 0 (.reply (.error (.text "broken" none))), .collect, .spawn, .resume 1,
        .collect] = some q ∧
      q.settled = true ∧ q.shared.stopped = false ∧ q.shared.tracker.status 3 = .waiting ∧
      q.shared.plan.graph.outgoing 3 = [(2, .soft)] ∧ q.shared.tracker.status 2 = .failed ∧
      q.shared.plan.leaves = [2] :=
    ⟨_, rfl, rfl, rfl, rfl, rfl, rfl, rfl⟩
  exact ⟨planned hidden, q, rfl, rfl, reachable_of_replay hq, hsettled, hstop, hwaiting, hout,
    hfailed, hleaves⟩

end Rollout.Engine
