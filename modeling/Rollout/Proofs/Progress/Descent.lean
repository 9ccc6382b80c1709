import Rollout.Proofs.Progress.Verdict

/-!
# Nodes never go back

A node has a few changes ahead of it: from waiting it may come to reflect work, then to be worked on
itself, and then it is final.  No segment of an evaluation takes a node back (`Falls`), and a
segment takes its own node forward, or pauses, or finds that the node was not ripe
(`Begun.descends`).
-/

namespace Rollout

/-- How many changes a node in this status may have ahead of it. -/
def NodeStatus.ahead : NodeStatus → ℕ
  | initial | waiting => 3
  | proxyDeploying | proxyDestroying => 2
  | deploying | destroying => 1
  | deployed | destroyed | failed => 0

namespace NodeStatus

variable {s : NodeStatus}

/-- Nothing is ahead of a final status. -/
theorem ahead_eq_zero : s.ahead = 0 ↔ s.isFinal = true := by cases s <;> decide

theorem ahead_pos (h : s.isFinal = false) : 0 < s.ahead := by cases s <;> first | decide | cases h

theorem two_le_ahead (h : s.isWaiting = true) : 2 ≤ s.ahead := by
  cases s <;> first | decide | cases h

theorem ahead_inProgress (g : Goal) : g.inProgress.ahead = 1 := by cases g <;> rfl

end NodeStatus

namespace Plan

/-- A node that has not moved is as ripe as it was. -/
theorem Ripe.of_same {p : Plan} {status status' : NodeId → NodeStatus} {n : NodeId}
    (h : p.Ripe status n) (hsame : (status' n).ahead = (status n).ahead)
    (hfinal : ∀ m, (status m).isFinal = true → status' m = status m) : p.Ripe status' n where
  lt := h.lt
  not_final := by
    cases hn : (status' n).isFinal with
    | false => rfl
    | true =>
      rw [NodeStatus.ahead_eq_zero.2 hn] at hsame
      exact (NodeStatus.ahead_eq_zero.1 hsame.symm).symm.trans h.not_final
  needs b hb := (h.needs b hb).congr (hfinal b (h.needs b hb).isFinal)

end Plan

namespace Engine

open Rollout.Plan

variable {ω : Type} {d : Deployment} {p : Plan} {s s' s'' : State ω} {n : NodeId} {node : Node}
  {progress : Progress} {status status' : NodeStatus} {ask : Condition → ω → Readiness × ω}

/-- A status that is reflected has at most two turns ahead, and none if the leader is done. -/
theorem ahead_reflected (h : reflected? status = some status') :
    status'.ahead ≤ 2 ∧ (status.isFinal = true → status'.ahead = 0) := by
  cases status <;> cases h <;> decide

/-- No node has gone back, and those that were final have stayed where they were. -/
structure Falls (s s' : State ω) : Prop where
  le : ∀ m, (statusAfter s'.trace m).ahead ≤ (statusAfter s.trace m).ahead
  final : ∀ m, (statusAfter s.trace m).isFinal = true →
    statusAfter s'.trace m = statusAfter s.trace m

namespace Falls

theorem of_trace (h : s'.trace = s.trace) : Falls s s' :=
  ⟨fun _ => by rw [h], fun _ _ => by rw [h]⟩

/-- Statuses fall step by step. -/
theorem trans (h : Falls s s') (h' : Falls s' s'') : Falls s s'' where
  le m := Nat.le_trans (h'.le m) (h.le m)
  final m hm := by
    have hsame := h.final m hm
    exact (h'.final m (hsame ▸ hm)).trans hsame

end Falls

/-- A turn takes no node back if the node at work goes forward, and either comes to its end or is
ahead of all the nodes it leads. -/
theorem Turn.falls (h : Turn p n status s s')
    (hown : status.ahead ≤ (statusAfter s.trace n).ahead)
    (hfollowers : status.isFinal = true ∨
      ∀ f ∈ p.followersOf n, (statusAfter s.trace f).isWaiting = true) : Falls s s' where
  le m := by
    by_cases hm : m = n
    · subst hm
      rw [h.own]
      exact hown
    · rcases h.others hm with hsame | ⟨hf, -, hreflected⟩
      · rw [hsame]
      · obtain ⟨htwo, hzero⟩ := ahead_reflected hreflected
        rcases hfollowers with hfinal | hwaiting
        · rw [hzero hfinal]
          exact Nat.zero_le _
        · exact Nat.le_trans htwo (NodeStatus.two_le_ahead (hwaiting m hf))
  final _ hm := h.final hm

/-- The node at work has gone forward, or nobody is queued and the evaluation goes on later. -/
structure Descends (n : NodeId) (s : State ω) (progress : Progress) (s' : State ω) : Prop
    extends Falls s s' where
  gain : (statusAfter s'.trace n).ahead < (statusAfter s.trace n).ahead ∨
    s'.queue = s.queue ∧ ∃ pause, progress = .paused pause

namespace Descends

/-- What comes before a segment and takes no node back may be counted as part of it. -/
theorem after (h : Falls s s') (hqueue : s'.queue = s.queue) (h' : Descends n s' progress s'') :
    Descends n s progress s'' where
  toFalls := h.trans h'.toFalls
  gain := h'.gain.imp (fun hlt => Nat.lt_of_lt_of_le hlt (h.le n))
    fun hsame => ⟨hsame.1.trans hqueue, hsame.2⟩

/-- The node at work has become final. -/
theorem of_turn (h : Turn p n status s s') (hfinal : status.isFinal = true)
    (hnot : (statusAfter s.trace n).isFinal = false) (htrace : s''.trace = s'.trace) :
    Descends n s progress s'' := by
  have hzero : status.ahead = 0 := NodeStatus.ahead_eq_zero.2 hfinal
  have hfalls := h.falls (by rw [hzero]; exact Nat.zero_le _) (.inl hfinal)
  refine ⟨hfalls.trans (.of_trace htrace), .inl ?_⟩
  rw [htrace, h.own, hzero]
  exact NodeStatus.ahead_pos hnot

end Descends

/-! ## Segments -/

/-- A failure before the stop gains a turn. -/
theorem Failed.descends (hstop : s.stopped = false)
    (hnot : (statusAfter s.trace node.id).isFinal = false) (h : Failed p node s s') :
    Descends node.id s progress s' := by
  cases h with
  | late hlate =>
    rw [hstop] at hlate
    cases hlate
  | recorded _ hturn => exact .of_turn hturn rfl hnot rfl

section InProgress

theorem not_final_of_inProgress (hn : statusAfter s.trace node.id = node.goal.inProgress) :
    (statusAfter s.trace node.id).isFinal = false := by
  rw [hn]
  exact Goal.isFinal_inProgress _

variable (hstop : s.stopped = false) (hn : statusAfter s.trace node.id = node.goal.inProgress)

include hstop hn

/-- What follows on a body gains a turn, or waits for the check. -/
theorem Past.descends (h : Past p node s progress s') : Descends node.id s progress s' := by
  cases h with
  | late hlate =>
    rw [hstop] at hlate
    cases hlate
  | asks => exact ⟨.of_trace rfl, .inr ⟨rfl, _, rfl⟩⟩
  | done _ _ hturn =>
    exact .of_turn hturn (Goal.isFinal_status _) (not_final_of_inProgress hn) rfl

/-- The start of a body gains a turn, or waits for a callback. -/
theorem Entered.descends (h : Entered p node s progress s') : Descends node.id s progress s' := by
  cases h with
  | starts => exact ⟨.of_trace rfl, .inr ⟨rfl, _, rfl⟩⟩
  | skips _ hpast => exact hpast.descends hstop hn
  | @pretends _ _ log _ hpast =>
    let claimed : State ω := { s with started := node.id :: s.started, log }
    have hfalls : Falls s claimed := .of_trace rfl
    have hrest : Descends node.id claimed progress s' := hpast.descends hstop hn
    exact .after hfalls rfl hrest

/-- The segment after a body gains a turn, or waits for the check. -/
theorem Ended.descends {r : Except Failure Unit} (h : Ended p node s r progress s') :
    Descends node.id s progress s' := by
  cases h with
  | ok hpast => exact hpast.descends hstop hn
  | @error f fault log s' _ hfailed =>
    have hnot := not_final_of_inProgress hn
    have hfalls : Falls s { s with log } := .of_trace rfl
    have hrest : Descends node.id { s with log } (failing fault) s' := hfailed.descends hstop hnot
    exact .after hfalls rfl hrest

/-- A completion check that does not wait brings its node to an end. -/
theorem Checked.descends {r : Except Failure Readiness} (h : Checked p node s r progress s')
    (hr : ∀ pending, r ≠ .ok (.waiting pending)) : Descends node.id s progress s' := by
  have hnot := not_final_of_inProgress hn
  cases h with
  | waits => exact absurd rfl (hr _)
  | late hlate =>
    rw [hstop] at hlate
    cases hlate
  | done _ hturn => exact .of_turn hturn (Goal.isFinal_status _) hnot rfl
  | error hfailed => exact hfailed.descends hstop hnot

end InProgress

/-- The evaluation of a node ends when its completion check has answered. -/
theorem Checked.not_paused {r : Except Failure Readiness} (h : Checked p node s r progress s')
    (pause : Pause) : progress ≠ .paused pause := by
  cases h <;> exact nofun

theorem Checked.trace_of_waiting {pending : List Diagnostic}
    (h : Checked p node s (.ok (.waiting pending)) progress s') : s'.trace = s.trace := by
  cases h
  rfl

/-- An evaluation that begins takes its node forward, or pauses, or the node was not ripe. -/
theorem Begun.descends (h : p.Built d) (hplain : d.Unconditional)
    (hclosed : p.Closed (statusAfter s.trace))
    (hmirrors : p.attach.Mirrors (statusAfter s.trace)) (hstop : s.stopped = false)
    (hbegun : Begun ask p.attach node s progress s') :
    Descends node.id s progress s' ∨
      s'.trace = s.trace ∧ s'.queue = s.queue ∧ ¬p.Ripe (statusAfter s.trace) node.id := by
  cases hbegun with
  | idle hfinal =>
    refine .inr ⟨rfl, rfl, fun hripe => ?_⟩
    have hnot := hripe.not_final
    rw [hfinal] at hnot
    cases hnot
  | withheld _ hwithheld =>
    exact .inr ⟨rfl, rfl, fun hripe => hripe.not_withheld h hplain hclosed hwithheld⟩
  | @failed world fault _ hnot _ hfailed =>
    have hfalls : Falls s { s with world } := .of_trace rfl
    have hrest : Descends node.id { s with world } (failing fault) s' := hfailed.descends hstop hnot
    exact .inl (.after hfalls rfl hrest)
  | @entered world s₁ _ _ hnot _ hturn _ hentered =>
    have hprogress := node.goal.isFinal_inProgress
    have hworld : Falls s { s with world } := .of_trace rfl
    -- The node is in progress, and those it leads reflect that.
    have hfalls : Falls { s with world } s₁ := by
      refine hturn.falls ?_ (.inr fun f hf => ?_)
      · rw [NodeStatus.ahead_inProgress]
        exact NodeStatus.ahead_pos hnot
      · exact hmirrors f node.id ((runnable_attach h).mem_followersOf.1 hf) hnot
    have hrest := hentered.descends (hturn.stopped.trans hstop) hturn.own
    exact .inl (.after (hworld.trans hfalls) (hturn.unqueued hprogress) hrest)

end Engine

end Rollout
