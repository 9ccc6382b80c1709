import Rollout.Proofs.Engine.Interleaving
import Rollout.Proofs.Plan.Operations

/-!
# The counts of a tracker

The tracker keeps its histograms one transition at a time, and taking one from an empty count would
go unnoticed.  After whatever calls, with whatever nodes and statuses, the histograms are those of
where the nodes stand (`counts_are_histograms`), so no count that a transition takes one from is
ever empty, and the aggregate result says what the statuses of the nodes say.
-/

namespace Rollout

namespace Tracker

variable {t : Tracker} {infos : List NodeInfo}

/-! ## Calls -/

/-- A call that may change a tracker. -/
inductive Call where
  | set (n : NodeId) (s : NodeStatus) (error : Option Fault) (description : Option String)
  | output (n : NodeId) (text : String)

/-- The tracker after a call. -/
def apply (t : Tracker) : Call → Tracker
  | .set n s error description => (t.set n s error description).2
  | .output n text => t.addOutput n text

theorem Registers.apply (h : Registers infos t) (hids : (infos.map (·.id)).Nodup) (call : Call) :
    Registers infos (t.apply call) := by
  cases call with
  | set n s error description => exact h.set hids n s error description
  | output n text => exact h.addOutput hids n text

theorem Registers.applied (h : Registers infos t) (hids : (infos.map (·.id)).Nodup)
    (calls : List Call) : Registers infos (calls.foldl Tracker.apply t) :=
  List.foldlRecOn (motive := Registers infos) calls _ h fun _ h call _ => h.apply hids call

/-- What is refused changes nothing. -/
theorem set_of_refused {n : NodeId} {s : NodeStatus} {error : Option Fault}
    {description : Option String} (h : (t.set n s error description).1 = false) :
    (t.set n s error description).2 = t := by
  unfold set at h ⊢
  split at h
  · rfl
  · split at h
    next hsame => simp only [hsame, and_self, if_true]
    next => cases h

/-- What is refused: a transition of a node that the tracker was not told of, and one without an
error to the status that the node has. -/
theorem refused_iff (t : Tracker) (n : NodeId) (s : NodeStatus) (error : Option Fault)
    (description : Option String) :
    (t.set n s error description).1 = false ↔ ¬t.knows n ∨ t.status n = s ∧ error = none := by
  by_cases hknown : t.knows n
  · simp [set_fst hknown, hknown]
  · have hnone : t.lookup? n = none := by
      cases he : t.lookup? n with
      | none => rfl
      | some e => exact absurd ⟨e, he⟩ hknown
    simp [set, hnone, hknown]

/-! ## What the counts say -/

/-- The counts of the tracker are those of where these nodes stand. -/
structure Truthful (infos : List NodeInfo) (t : Tracker) : Prop where
  knows_iff : ∀ n, t.knows n ↔ ∃ i ∈ infos, i.id = n
  nodes : ∀ r, t.summary.nodes.get r = infos.countP fun i => (t.status i.id).reported = r
  primitives : ∀ r, t.summary.primitives.get r =
    infos.countP fun i => i.primitive ∧ (t.status i.id).reported = r
  total : t.summary.nodes.total = infos.length
  totalPrimitives : t.summary.primitives.total = infos.countP (·.primitive)
  /-- The count that the next transition of a node takes one from is not empty. -/
  backed : ∀ n e, t.lookup? n = some e → 0 < t.counts.get e.status.reported ∧
    (e.primitive = true → 0 < t.primitiveCounts.get e.status.reported)
  isFinal_iff : t.summary.outcome.isFinal = true ↔ ∀ i ∈ infos, (t.status i.id).isFinal = true
  failed_iff : t.summary.outcome = .failed ↔
    (∀ i ∈ infos, (t.status i.id).isFinal = true) ∧ ∃ i ∈ infos, t.status i.id = .failed

namespace Registers

theorem knows_iff (h : Registers infos t) (n : NodeId) : t.knows n ↔ ∃ i ∈ infos, i.id = n := by
  rw [← List.mem_map, ← h.ids, ← isSome_lookup_iff_mem_keys, Option.isSome_iff_exists]
  rfl

/-- An entry counts in the histogram of all nodes, and in that of primitive elements if its element
is one. -/
theorem backed (h : Registers infos t) (hids : (infos.map (·.id)).Nodup) {n : NodeId}
    {e : Tracked} (he : t.lookup? n = some e) : 0 < t.counts.get e.status.reported ∧
      (e.primitive = true → 0 < t.primitiveCounts.get e.status.reported) := by
  have hrow : (n, e) ∈ t.nodes := (h.lookup?_eq_some_iff hids).1 he
  rw [h.counts, h.primitives, StatusCounts.get_ofList, StatusCounts.get_ofList,
    List.count_pos_iff, List.count_pos_iff]
  exact ⟨List.mem_map_of_mem (f := fun row : NodeId × Tracked => row.2.status.reported) hrow,
    fun hprimitive => List.mem_map_of_mem (f := fun row : NodeId × Tracked => row.2.status.reported)
      (List.mem_filter.2 ⟨hrow, hprimitive⟩)⟩

theorem truthful (h : Registers infos t) (hids : (infos.map (·.id)).Nodup) :
    Truthful infos t := by
  obtain ⟨hcounts, hprimitives⟩ := h.counts_eq hids
  have hfinal : (∀ r ∈ infos.map (fun i => (t.status i.id).reported), r.isFinal = true) ↔
      ∀ i ∈ infos, (t.status i.id).isFinal = true := by
    simp only [List.forall_mem_map, NodeStatus.isFinal_reported]
  refine ⟨h.knows_iff, fun r => ?_, fun r => ?_, ?_, ?_, fun n e => h.backed hids, ?_, ?_⟩
  · show t.counts.get r = _
    rw [hcounts, StatusCounts.get_ofList, List.count, List.countP_map]
    rfl
  · show t.primitiveCounts.get r = _
    rw [hprimitives, StatusCounts.get_ofList, List.count, List.countP_map, List.countP_filter]
    refine List.countP_congr fun i _ => ?_
    simp [and_comm]
  · show t.counts.total = _
    rw [hcounts, StatusCounts.total_ofList, List.length_map]
  · show t.primitiveCounts.total = _
    rw [hprimitives, StatusCounts.total_ofList, List.length_map, List.countP_eq_length_filter]
  · show (t.counts.outcome t.goal).isFinal = true ↔ _
    rw [hcounts, StatusCounts.isFinal_outcome_ofList, hfinal]
  · show t.counts.outcome t.goal = .failed ↔ _
    rw [hcounts, StatusCounts.outcome_ofList_eq_failed, hfinal]
    simp only [List.mem_map, NodeStatus.reported_eq_failed]

end Registers

/-- After whatever calls the counts are those of where the nodes stand, if no two nodes have the
same number, as the nodes of a plan never do.  A transition that is refused leaves the status and
the error of every node as they are. -/
theorem counts_are_histograms :
    (∀ (goal : Goal) (dryRun : Bool) (infos : List NodeInfo), (infos.map (·.id)).Nodup →
      ∀ calls : List Call, Truthful infos (calls.foldl apply (ofInfos goal dryRun infos))) ∧
    (∀ (t : Tracker) (n : NodeId) (s : NodeStatus) (error : Option Fault)
      (description : Option String),
      ((t.set n s error description).1 = false ↔ ¬t.knows n ∨ t.status n = s ∧ error = none) ∧
      ((t.set n s error description).1 = false →
        ∀ m, (t.set n s error description).2.standing m = t.standing m)) ∧
    ∀ p : Plan, p.Made → (p.infos.map (·.id)).Nodup := by
  refine ⟨fun goal dryRun infos hids calls => ?_, fun t n s error description => ?_, fun p hp => ?_⟩
  · exact ((Registers.ofInfos goal dryRun hids).applied hids calls).truthful hids
  · exact ⟨refused_iff t n s error description, fun hrefused m => by rw [set_of_refused hrefused]⟩
  · rw [Engine.ids_infos hp.placed.id_eq]
    exact List.nodup_range

/-- An element that an action acts for fails twice, each time with an error; a composite one is
deployed, and a node that the tracker was not told of fails. -/
theorem counts_of_failed_element :
    let infos : List NodeInfo :=
      [⟨7, "E:a", .deployed, true⟩, ⟨3, "E:group", .deployed, false⟩, ⟨4, "W:0", .deployed, false⟩]
    let calls : List Call :=
      [.set 7 .proxyDeploying none (some "create"), .set 5 .failed none none,
        .set 7 .failed (some .dependencyFailed) none, .set 3 .deployed none none,
        .output 7 "out of space", .set 7 .failed (some (.nodeFailed "no such image")) none]
    let t := calls.foldl apply (ofInfos .deployed false infos)
    let p := ((Plan.empty .deployed {}).addElement { id := "a", component := "a" } .deployed).1
    (infos.map (·.id)).Nodup ∧ Truthful infos t ∧
      t.summary = ⟨.deploying, { waiting := 1, deployed := 1, failed := 1 }, { failed := 1 }⟩ ∧
      (t.apply (.set 4 .destroyed none none)).summary =
        ⟨.failed, { deployed := 1, failed := 1, destroyed := 1 }, { failed := 1 }⟩ ∧
      (t.set 4 .waiting none (some "queued")).1 = false ∧
      (∀ m, (t.set 4 .waiting none (some "queued")).2.standing m = t.standing m) ∧
      p.Made ∧ (p.infos.map (·.id)).Nodup := by
  intro infos calls t p
  have hids : (infos.map (·.id)).Nodup := by decide
  have hrefused : (t.set 4 .waiting none (some "queued")).1 = false := by decide
  have hmade : p.Made := (Plan.Made.empty .deployed {}).addElement _ .deployed
  exact ⟨hids, counts_are_histograms.1 .deployed false infos hids calls, by decide, by decide,
    hrefused, (counts_are_histograms.2.1 t 4 .waiting none (some "queued")).2 hrefused,
    hmade, counts_are_histograms.2.2 p hmade⟩

end Tracker

end Rollout
