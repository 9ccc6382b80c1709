import Rollout.Proofs.Order.Started

/-!
# The order of a series

Two actions that follow each other in a series run in the order in which they are listed if the
second is not to be destroyed (`series_in_order`).  If both are to be destroyed then the direction
rule turns the dependency round, and they run in the opposite order; and nothing is said about
the order of one to be deployed and a later one to be destroyed.
-/

namespace Rollout

namespace Plan

variable {d : Deployment} {p : Plan}

/-- The nodes of two actions that follow each other in a series. -/
theorem Built.neighbours (h : p.Built d) {groups groups' : List (List Action)}
    {l r : List Action} {a b : Action}
    (hseries : d.series = groups ++ (l ++ a :: b :: r) :: groups') :
    ∃ u v, p.works[d.actions.length + groups.flatten.length + l.length]? = some u ∧
      p.works[d.actions.length + groups.flatten.length + l.length + 1]? = some v ∧
      p.InOrder u v := by
  obtain ⟨pre, new, post, hworks, hpre, hlength, hchain⟩ := h.series _ _ _ hseries
  rw [List.length_append, List.length_cons, List.length_cons] at hlength
  have hu : l.length < new.length := by omega
  have hv : l.length + 1 < new.length := by omega
  have hwork : ∀ {i} (hi : i < new.length), p.works[pre.length + i]? = some new[i] := by
    intro i hi
    rw [hworks, List.append_assoc, List.getElem?_append_right (Nat.le_add_right ..),
      Nat.add_sub_cancel_left, List.getElem?_append_left hi, List.getElem?_eq_getElem hi]
  rw [← hpre]
  exact ⟨_, _, hwork hu, hwork hv, List.isChain_iff_getElem.1 hchain l.length hv⟩

/-- The work of a plan is that of the actions. -/
theorem Built.part_at (h : p.Built d) {i : ℕ} {u : Node} (hu : p.works[i]? = some u) :
    ∃ a, d.allActions[i]? = some a ∧ u.goal = a.kind.goal ∧ u.role = .work (workOf a) := by
  have hpart : (d.allActions.map partOf)[i]? = some (u.goal, u.role) := by
    rw [← h.parts, List.getElem?_map, hu]
    rfl
  rw [List.getElem?_map, Option.map_eq_some_iff] at hpart
  obtain ⟨a, ha, heq⟩ := hpart
  obtain ⟨hgoal, hrole⟩ := Prod.mk.inj heq
  exact ⟨a, ha, hgoal.symm, hrole.symm⟩

/-- Where an action of a series is among all actions. -/
theorem getElem?_allActions {groups groups' : List (List Action)} {l r : List Action} {a : Action}
    (hseries : d.series = groups ++ (l ++ a :: r) :: groups') :
    d.allActions[d.actions.length + groups.flatten.length + l.length]? = some a := by
  have hall : d.allActions =
      (d.actions ++ groups.flatten ++ l) ++ a :: (r ++ groups'.flatten) := by
    unfold Deployment.allActions
    rw [hseries]
    simp
  have hlength : d.actions.length + groups.flatten.length + l.length =
      (d.actions ++ groups.flatten ++ l).length := by
    rw [List.length_append, List.length_append]
  rw [hall, hlength, List.getElem?_append_right (Nat.le_refl _), Nat.sub_self]
  rfl

end Plan

namespace Engine

open Rollout.Plan

variable {ω : Type} {d : Deployment} {p : Plan} {ask : Condition → ω → Readiness × ω}
  {concurrency : Option Nat} {dryRun : Bool} {world : ω} {log : Array Log.Event} {q : Pass ω}

/-- Of two actions that follow each other in a series, the second is started only once the first
is at its goal, if the second is to be deployed.  If the first is to be destroyed then so is the
second, and it is the first that is started only once the second is at its goal. -/
theorem series_in_order (hplan : d.plan = .ok p)
    (hreach : Reachable ask concurrency (.first p concurrency dryRun world log) q)
    {groups groups' : List (List Action)} {l r : List Action} {a b : Action}
    (hseries : d.series = groups ++ (l ++ a :: b :: r) :: groups') :
    ∃ u v : Node, p.works[d.actions.length + groups.flatten.length + l.length]? = some u ∧
      p.works[d.actions.length + groups.flatten.length + l.length + 1]? = some v ∧
      u.goal = a.kind.goal ∧ u.role = .work (workOf a) ∧
      v.goal = b.kind.goal ∧ v.role = .work (workOf b) ∧
      (b.kind.goal = .deployed →
        ∀ status, q.Begins v.id status → status u.id = .deployed) ∧
      (a.kind.goal = .destroyed → b.kind.goal = .destroyed ∧
        ∀ status, q.Begins u.id status → status v.id = .destroyed) := by
  obtain ⟨hsound, hsteady⟩ := hreach.steady_of_plan hplan
  have hbuilt := built_of_plan hplan
  obtain ⟨u, v, hu, hv, hdeploy, hdestroy⟩ := hbuilt.neighbours hseries
  -- The nodes are those of the two actions.
  have hseries' : d.series = groups ++ ((l ++ [a]) ++ b :: r) :: groups' := by
    rw [hseries, List.append_assoc]
    rfl
  have hb := getElem?_allActions hseries'
  rw [List.length_append, List.length_singleton, ← Nat.add_assoc] at hb
  obtain ⟨a', ha', hgu, hru⟩ := hbuilt.part_at hu
  obtain ⟨b', hb', hgv, hrv⟩ := hbuilt.part_at hv
  obtain rfl : a = a' := Option.some.inj ((getElem?_allActions hseries).symm.trans ha')
  obtain rfl : b = b' := Option.some.inj (hb.symm.trans hb')
  have hstatus : ∀ {w : Node} {status}, w ∈ p.works → p.attach.AtGoal status w.id →
      status w.id = w.goal.status := by
    rintro w status hw ⟨node, hnode, hs⟩
    obtain rfl : w = node :=
      Option.some.inj ((hbuilt.sound.node_of_mem_works hw).1.symm.trans hnode)
    exact hs
  refine ⟨u, v, hu, hv, hgu, hru, hgv, hrv, fun hg status hbegins => ?_, fun hg => ?_⟩
  · -- the later action has an edge to the earlier one
    obtain ⟨hgoal, hedge⟩ := hdeploy (hgv.trans hg)
    have hu' := hstatus (List.mem_of_getElem? hu)
      ((hsteady.met_of_begins hsound hbegins).hard u.id hedge)
    rw [hu', hgoal]
    rfl
  · -- the edge has been turned round
    obtain ⟨hgoal, hedge⟩ := hdestroy (hgu.trans hg)
    refine ⟨hgv.symm.trans hgoal, fun status hbegins => ?_⟩
    have hv' := hstatus (List.mem_of_getElem? hv)
      ((hsteady.met_of_begins hsound hbegins).hard v.id hedge)
    rw [hv', hgoal]
    rfl

/-- Two actions of one kind in a series. -/
def twoOf (goal : Goal) (kind : ChangeKind) : Deployment where
  goal
  series := [[⟨kind, "one", [], 0⟩, ⟨kind, "two", [], 1⟩]]

/-- The second of two actions is under way, and the first is done. -/
theorem series_twoOf_in_order : ∃ q,
    replay (twoOf .deployed .modify) true [.spawn, .resume 0, .answerBody 0 (.reply (.ok ())),
      .collect, .spawn, .resume 1] = some q ∧ q.InBody 1 ∧
    q.shared.tracker.status 0 = .deployed := by
  obtain ⟨q, hq, htask⟩ : ∃ q, replay (twoOf .deployed .modify) true [.spawn, .resume 0,
      .answerBody 0 (.reply (.ok ())), .collect, .spawn, .resume 1] = some q ∧
        q.task? 1 = some ⟨1, 1, .paused (.body 1)⟩ :=
    ⟨_, rfl, rfl⟩
  have hplan : (twoOf .deployed .modify).plan = .ok (planned (twoOf .deployed .modify)) := rfl
  have hseries : (twoOf .deployed .modify).series = [] ++ ([] ++
      (⟨.modify, "one", [], 0⟩ : Action) :: ⟨.modify, "two", [], 1⟩ :: []) :: [] := rfl
  obtain ⟨u, v, hu, hv, -, -, -, -, horder, -⟩ :=
    series_in_order hplan (reachable_of_replay hq) hseries
  have hbody : q.InBody 1 := ⟨1, _, 1, htask, rfl, rfl⟩
  have hone := horder rfl q.shared.tracker.status
  rw [← Option.some.inj hu, ← Option.some.inj hv] at hone
  exact ⟨q, hq, hbody, hone (.inr ⟨hbody, rfl⟩)⟩

/-- Two actions that are to be destroyed run in the opposite order: the body of the second is under
way while the first still waits. -/
theorem deletes_run_backwards : ∃ p q, (twoOf .destroyed .delete).plan = .ok p ∧
    p.check = .ok () ∧ Reachable gate none (.first p none false true #[]) q ∧
    q.InBody 1 ∧ q.shared.tracker.status 0 = .waiting := by
  obtain ⟨q, hq, htask, hwaiting⟩ : ∃ q,
      replay (twoOf .destroyed .delete) true [.spawn, .resume 0] = some q ∧
        q.task? 0 = some ⟨0, 1, .paused (.body 1)⟩ ∧ q.shared.tracker.status 0 = .waiting :=
    ⟨_, rfl, rfl, rfl⟩
  exact ⟨planned (twoOf .destroyed .delete), q, rfl, rfl, reachable_of_replay hq,
    ⟨0, _, 1, htask, rfl, rfl⟩, hwaiting⟩

end Engine

end Rollout
