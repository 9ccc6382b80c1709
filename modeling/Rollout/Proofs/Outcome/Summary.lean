import Rollout.Proofs.Engine.Schedule
import Rollout.Proofs.Order.Elements
import Rollout.Proofs.Plan.Operations

/-!
# What the result of a run means

The tracker keeps its histograms one transition at a time, a run ends when they say so, and there is
a path of its own for the deadline.  `Sincere` is what holds of the tracker throughout.  A run that
has a result has brought every node to an end, and the result tells where the nodes have got to
(`results_are_faithful`).
-/

namespace Rollout

/-- A final status that is no failure is a goal. -/
theorem NodeStatus.isGoal_of_final {s : NodeStatus} (hfinal : s.isFinal = true)
    (hs : s ≠ .failed) : s.isGoal = true := by
  cases s <;> simp_all [NodeStatus.isFinal, NodeStatus.reported, ReportedStatus.isFinal,
    NodeStatus.isGoal]

namespace Engine

open Rollout.Plan

variable {ω : Type} {p : Plan} {t : Tracker} {n : NodeId} {node : Node}
  {ask : Condition → ω → Readiness × ω} {concurrency : Option Nat} {timeout : Option Duration}
  {dryRun : Bool} {world : ω} {log : Array Log.Event} {c : Summary} {s : State ω}

/-! ## The tracker of a run -/

/-- The tracker of a run that began with a fresh one. -/
structure Sincere (p : Plan) (t : Tracker) : Prop where
  rostered : t.Rostered p.infos
  goal : t.goal = p.goal
  aimed : ∀ n, Aimed p.nodes n (t.status n)

/-- To set a status changes the status of that node at most. -/
theorem status_set_cases (t : Tracker) (n : NodeId) (status : NodeStatus) (error : Option Fault)
    (description : Option String) (m : NodeId) :
    (t.set n status error description).2.status m = t.status m ∨
      m = n ∧ (t.set n status error description).2.status m = status := by
  by_cases hknown : t.knows n
  · rw [Tracker.status_set hknown]
    by_cases hm : m = n
    · exact .inr ⟨hm, if_pos hm⟩
    · exact .inl (if_neg hm)
  · rw [set_of_unknown hknown]
    exact .inl rfl

/-- A status that is no other node's goal keeps the tracker sincere. -/
theorem Sincere.set (h : Sincere p t) {status : NodeStatus} (hstatus : Aimed p.nodes n status)
    (error : Option Fault) (description : Option String) :
    Sincere p (t.set n status error description).2 where
  rostered := h.rostered.set n status error description
  goal := (Tracker.goal_set ..).trans h.goal
  aimed m := by
    rcases status_set_cases t n status error description m with hsame | ⟨rfl, hnew⟩
    · rw [hsame]
      exact h.aimed m
    · rw [hnew]
      exact hstatus

/-- No change within a pass makes the tracker insincere. -/
theorem kept_sincere (p : Plan) : Kept (Aimed p.nodes) (Sincere p) where
  told t n text h := {
    rostered := h.rostered.addOutput n text
    goal := (Tracker.goal_addOutput ..).trans h.goal
    aimed := fun m => by
      rw [Tracker.status_addOutput]
      exact h.aimed m }
  recorded _ _ _ error description hstatus h := h.set hstatus error description

/-- The tracker of a plan is sincere. -/
theorem sincere_ofInfos (hp : p.Placed) (dryRun : Bool) :
    Sincere p (.ofInfos p.goal dryRun p.infos) where
  rostered := .ofInfos p.goal dryRun (ids_infos hp.id_eq)
  goal := Tracker.goal_ofInfos ..
  aimed n := by
    -- Nothing is at a goal yet: whoever is known waits.
    intro hgoal
    unfold Tracker.status at hgoal
    cases he : (Tracker.ofInfos p.goal dryRun p.infos).lookup? n with
    | none =>
      rw [he] at hgoal
      cases hgoal
    | some e =>
      have hmem : n ∈ (Tracker.ofInfos p.goal dryRun p.infos).nodes.map (·.1) :=
        isSome_lookup_iff_mem_keys.1 (Option.isSome_iff_exists.2 ⟨e, he⟩)
      rw [(Tracker.Rostered.ofInfos p.goal dryRun (ids_infos hp.id_eq)).ids, List.mem_range,
        infos, List.length_map] at hmem
      obtain ⟨node, hnode⟩ := node_of_lt hmem
      have hinfo : node.info ∈ p.infos := List.mem_map_of_mem (List.mem_of_getElem? hnode)
      obtain ⟨e', he', hwaits⟩ := Tracker.lookup?_ofInfos p.goal dryRun hinfo
      have hid : node.info.id = n := hp.id_eq hnode
      rw [hid, he] at he'
      obtain rfl := Option.some.inj he'
      rw [he, Option.map_some, Option.getD_some, hwaits] at hgoal
      cases hgoal

/-- To fail whatever is not final keeps the tracker sincere. -/
theorem Sincere.failOpen (h : Sincere p t) (fault : Fault) (ns : List NodeId) :
    Sincere p (ns.foldl (Tracker.failOpen fault) t) :=
  List.foldlRecOn (motive := Sincere p) ns _ h fun t h n _ => by
    have haimed : Aimed p.nodes n .failed := nofun
    unfold Tracker.failOpen
    split
    · exact h
    · exact h.set haimed (some fault) none

/-! ## Results -/

/-- Every node has come to an end, and the result tells where: the histograms are those of the
statuses of all nodes and of the primitive elements, a single failure makes the result a failure,
and without one every node is at its own goal and the result is the goal of the plan. -/
structure Faithful (p : Plan) (t : Tracker) (c : Summary) : Prop where
  final : ∀ n < p.nodes.length, (t.status n).isFinal = true
  nodes : c.nodes = .ofList (p.nodes.map fun node => (t.status node.id).reported)
  primitives : c.primitives =
    .ofList ((p.nodes.filter (·.isPrimitive)).map fun node => (t.status node.id).reported)
  failed_iff : c.outcome = .failed ↔ ∃ n < p.nodes.length, t.status n = .failed
  reached : c.outcome ≠ .failed → c.outcome = p.goal.reported ∧
    ∀ n node, p.nodes[n]? = some node → t.status n = node.goal.status

/-- The summary of a sincere tracker is faithful once all is final. -/
theorem Sincere.faithful (hp : p.Placed) (h : Sincere p t)
    (hfinal : ∀ n < p.nodes.length, (t.status n).isFinal = true) : Faithful p t t.summary := by
  obtain ⟨hcounts, hprimitives⟩ := h.rostered.counts_eq
  have hnodes : t.counts = .ofList (p.nodes.map fun node => (t.status node.id).reported) := by
    rw [hcounts, infos, List.map_map]
    rfl
  have hends : ∀ r ∈ p.nodes.map (fun node => (t.status node.id).reported), r.isFinal = true := by
    intro r hr
    obtain ⟨node, hnode, rfl⟩ := List.mem_map.1 hr
    obtain ⟨n, hn⟩ := List.mem_iff_getElem?.1 hnode
    rw [NodeStatus.isFinal_reported, hp.id_eq hn]
    exact hfinal n (lt_of_node hn)
  have hfailed : ReportedStatus.failed ∈ p.nodes.map (fun node => (t.status node.id).reported) ↔
      ∃ n < p.nodes.length, t.status n = .failed := by
    simp only [List.mem_map, NodeStatus.reported_eq_failed]
    constructor
    · rintro ⟨node, hnode, hstatus⟩
      obtain ⟨n, hn⟩ := List.mem_iff_getElem?.1 hnode
      exact ⟨n, lt_of_node hn, hp.id_eq hn ▸ hstatus⟩
    · rintro ⟨n, hn, hstatus⟩
      obtain ⟨node, hnode⟩ := node_of_lt hn
      exact ⟨node, List.mem_of_getElem? hnode, (hp.id_eq hnode).symm ▸ hstatus⟩
  -- the aggregate result is a failure if one of the final statuses is, and the goal otherwise
  have houtcome : t.summary.outcome =
      if ∃ n < p.nodes.length, t.status n = .failed then .failed else p.goal.reported := by
    unfold Tracker.summary
    rw [hnodes, StatusCounts.outcome_ofList _ hends, h.goal]
    simp only [hfailed]
  refine ⟨hfinal, hnodes, ?_, ?_, fun hnot => ?_⟩
  · show t.primitiveCounts = _
    rw [hprimitives, infos, List.filter_map, List.map_map]
    rfl
  · rw [houtcome]
    split
    next hex => simp [hex]
    next hex => simp [hex, Goal.reported_ne_failed]
  · rw [houtcome] at hnot ⊢
    split at hnot
    next => exact absurd rfl hnot
    next hnone =>
      refine ⟨if_neg hnone, fun n node hnode => ?_⟩
      have hn := lt_of_node hnode
      obtain ⟨node', hnode', hstatus⟩ := h.aimed n
        (NodeStatus.isGoal_of_final (hfinal n hn) fun heq => hnone ⟨n, hn, heq⟩)
      rw [hstatus, Option.some.inj (hnode.symm.trans hnode')]

/-- A run that has a result ends because a pass has settled or because time has run out; either way
the result is faithful. -/
theorem Concludes.faithful (hp : p.Placed)
    (h : Concludes ask concurrency timeout (.first p concurrency dryRun world log)
      (.completed c) s) : Faithful p s.tracker c := by
  have hfirst : Based p dryRun (.first p concurrency dryRun world log) :=
    based_first hp concurrency dryRun world log
  have hkept : ∀ {ms q}, play ask concurrency ms (.first p concurrency dryRun world log) = some q →
      Based p dryRun q ∧ Sincere p q.shared.tracker := fun hplay =>
    ⟨hfirst.played hp hplay,
      hfirst.kept_of_play hp (kept_sincere p) (sincere_ofInfos hp dryRun) hplay⟩
  cases h with
  | settled hcloses hfinal =>
    cases hcloses with
    | settled hleads _ hs =>
      obtain ⟨ms, hplay, -⟩ := hleads
      obtain ⟨-, hsincere⟩ := hkept hplay
      obtain ⟨_, _, _, rfl⟩ := hs
      refine hsincere.faithful hp ?_
      have hall := hsincere.rostered.outcome_isFinal_iff.1 hfinal
      rwa [infos, List.length_map] at hall
  -- time has run out: what was left open has been failed, so all is final
  | @expired s limit hcloses _ =>
    cases hcloses with
    | @expired q q' late _ hleads hexpires hs =>
      obtain ⟨ms, hplay, -⟩ := hleads
      have hlate : play ask concurrency (ms ++ late) (.first p concurrency dryRun world log) =
          some q' := by
        rw [play_append, hplay]
        exact hexpires.play_eq
      obtain ⟨hbase, hsincere⟩ := hkept hlate
      obtain ⟨world', log', queue, rfl⟩ := hs
      let left : State ω := { q'.shared with world := world', log := log', queue }
      have hend : Sincere p (failUnfinished (.timeout limit) left).tracker := by
        rw [tracker_failUnfinished]
        exact hsincere.failOpen _ _
      exact hend.faithful hp fun n hn =>
        isFinal_failUnfinished (s := left) hp hbase.nodes hbase.knows (.timeout limit) hn

/-- A run that completes reports a faithful summary. -/
theorem faithful_of_execute (hp : p.Placed) {calls : Callbacks ω} {options : Options}
    {limits : Limits} (h : (execute calls options limits p world log).outcome = .completed c) :
    Faithful p (execute calls options limits p world log).state.tracker c := by
  unfold execute at h ⊢
  rcases run_concludes hp (knows_ofInfos hp options.dryRun) calls options limits world log with
    ⟨f, hrun⟩ | hconcludes
  · rw [hrun] at h
    cases h
  · rw [h] at hconcludes
    exact hconcludes.faithful hp

/-- A run that has a result, with whatever callbacks, in whatever order these take their turns,
after however many passes and with whatever deadline, has brought every node to an end, and the
result tells where the nodes are.  So does a run on the one schedule that is executed. -/
theorem results_are_faithful (hmade : p.Made) :
    (∀ (ask : Condition → ω → Readiness × ω) concurrency timeout dryRun world log c s,
      Concludes ask concurrency timeout (.first p concurrency dryRun world log) (.completed c) s →
      Faithful p s.tracker c) ∧
    ∀ (calls : Callbacks ω) options limits world log c,
      (execute calls options limits p world log).outcome = .completed c →
      Faithful p (execute calls options limits p world log).state.tracker c :=
  ⟨fun _ _ _ _ _ _ _ _ h => h.faithful hmade.placed,
    fun _ _ _ _ _ _ h => faithful_of_execute hmade.placed h⟩

/-- An element, what it depends on and the action that brings it about are all deployed, and the
result says so. -/
theorem installed_result : ∃ q, replay installed true [.spawn, .resume 0, .spawn, .resume 1,
      .answerBody 1 (.reply (.ok ())), .spawn, .resume 2] = some q ∧
    Concludes gate none none (.first (planned installed) none false true #[])
      (.completed q.shared.tracker.summary) q.shared ∧
    q.shared.tracker.summary.outcome = .deployed ∧
    q.shared.tracker.summary.nodes = .ofList [.deployed, .deployed, .deployed] ∧
    ∀ n node, (planned installed).nodes[n]? = some node →
      q.shared.tracker.status n = node.goal.status := by
  let ms : List (Move Bool) := [.spawn, .resume 0, .spawn, .resume 1,
    .answerBody 1 (.reply (.ok ())), .spawn, .resume 2]
  obtain ⟨q, hq, hsettled, hdeployed, hnodes⟩ : ∃ q, replay installed true ms = some q ∧
      q.settled = true ∧ q.shared.tracker.summary.outcome = .deployed ∧
      q.shared.tracker.summary.nodes = .ofList [.deployed, .deployed, .deployed] :=
    ⟨_, rfl, rfl, rfl, rfl⟩
  have hgoes : ∀ m ∈ ms, m.stops = false := by simp [ms, Move.stops]
  have hconcludes : Concludes gate none none (.first (planned installed) none false true #[])
      (.completed q.shared.tracker.summary) q.shared :=
    .settled (.settled ⟨ms, hq, hgoes⟩ hsettled (.refl _)) (by rw [hdeployed]; rfl)
  have hmade : (planned installed).Made := made_of_plan (d := installed) rfl
  have hfaithful := (results_are_faithful hmade).1 _ _ _ _ _ _ _ _ hconcludes
  have hreached := hfaithful.reached (by rw [hdeployed]; exact nofun)
  exact ⟨q, hq, hconcludes, hdeployed, hnodes, hreached.2⟩

end Engine

end Rollout
