import Mathlib.Data.List.Induction
import Mathlib.Tactic.Common
import Rollout.Status.Tracker
import Rollout.Proofs.Table

/-!
# What a tracker knows

The effect of every operation of the tracker on two views of it: which nodes it has an entry for,
and the status of each.  The histogram stays in step with the entries (`Tallied`), so the aggregate
result is final as soon as every node is.
-/

namespace Rollout

theorem NodeStatus.not_final_of_active {s : NodeStatus}
    (h : (s.isWaiting || s.isInProgress) = true) : s.isFinal = false := by
  revert h
  cases s <;> decide

/-- A proxy is no final status, and it does not read as one. -/
theorem NodeStatus.isFinal_reported (s : NodeStatus) : s.reported.isFinal = s.isFinal := by
  cases s <;> rfl

theorem NodeStatus.reported_eq_failed {s : NodeStatus} : s.reported = .failed ↔ s = .failed := by
  cases s <;> simp [NodeStatus.reported]

theorem Goal.reported_ne_failed (g : Goal) : g.reported ≠ .failed := by
  cases g <;> exact nofun

namespace StatusCounts

theorem ext_get {c c' : StatusCounts} (h : ∀ s, c.get s = c'.get s) : c = c' := by
  cases c
  cases c'
  congr
  exacts [h .initial, h .waiting, h .deploying, h .destroying, h .deployed, h .failed, h .destroyed]

/-- To count one more is to count a longer list. -/
theorem increment_ofList (l : List ReportedStatus) (s : ReportedStatus) :
    (ofList l).increment s = ofList (l ++ [s]) := by
  refine ext_get fun r => ?_
  unfold increment
  rw [get_modify, get_ofList, get_ofList, List.count_append, List.count_singleton]
  simp only [beq_iff_eq, eq_comm (a := r)]
  split <;> rfl

/-- The total of the counts is the number of the nodes counted. -/
theorem total_ofList (l : List ReportedStatus) : (ofList l).total = l.length := by
  induction l with
  | nil => rfl
  | cons s l ih =>
    rw [List.length_cons, ← ih]
    cases s <;> simp [total, ReportedStatus.all, get, ofList] <;> omega

/-- The counts know how many nodes have finished. -/
theorem finished_ofList (l : List ReportedStatus) :
    (ofList l).finished = l.countP ReportedStatus.isFinal := by
  induction l with
  | nil => rfl
  | cons s l ih =>
    rw [List.countP_cons, ← ih]
    cases s <;> simp [finished, ofList, ReportedStatus.isFinal] <;> omega

/-- The aggregate result is final once all nodes are. -/
theorem isFinal_outcome_ofList (goal : Goal) (l : List ReportedStatus) :
    ((ofList l).outcome goal).isFinal = true ↔ ∀ s ∈ l, s.isFinal = true := by
  unfold outcome
  rw [total_ofList, finished_ofList, ← List.countP_eq_length]
  have hle : l.countP ReportedStatus.isFinal ≤ l.length := List.countP_le_length
  by_cases hlt : l.countP ReportedStatus.isFinal < l.length
  · rw [if_pos hlt]
    have hprogress : goal.inProgress.reported.isFinal = false := by cases goal <;> rfl
    simp [hprogress, Nat.ne_of_lt hlt]
  · rw [if_neg hlt]
    have hend : (if 0 < (ofList l).failed then ReportedStatus.failed
        else goal.reported).isFinal = true := by
      split
      · rfl
      · cases goal <;> rfl
    simp only [hend, true_iff]
    omega

/-- Once all nodes are final, a single failure decides. -/
theorem outcome_ofList (goal : Goal) {l : List ReportedStatus}
    (h : ∀ s ∈ l, s.isFinal = true) :
    (ofList l).outcome goal = if .failed ∈ l then .failed else goal.reported := by
  have hfailed : 0 < (ofList l).failed ↔ .failed ∈ l := List.count_pos_iff
  unfold outcome
  rw [total_ofList, finished_ofList, List.countP_eq_length.2 h, if_neg (Nat.lt_irrefl _)]
  simp only [hfailed]

/-- The aggregate result is a failure once all nodes are final and one of them has failed. -/
theorem outcome_ofList_eq_failed (goal : Goal) (l : List ReportedStatus) :
    (ofList l).outcome goal = .failed ↔ (∀ s ∈ l, s.isFinal = true) ∧ .failed ∈ l := by
  constructor
  · intro hfailed
    have hfinal := (isFinal_outcome_ofList goal l).1 (by rw [hfailed]; rfl)
    rw [outcome_ofList goal hfinal] at hfailed
    refine ⟨hfinal, ?_⟩
    by_contra hnone
    rw [if_neg hnone] at hfailed
    exact goal.reported_ne_failed hfailed
  · rintro ⟨hfinal, hmem⟩
    rw [outcome_ofList goal hfinal, if_pos hmem]

end StatusCounts

namespace Tracker

variable {t t' : Tracker} {n m : NodeId}

/-- The tracker has been told of a node. -/
def knows (t : Tracker) (n : NodeId) : Prop := ∃ e, t.lookup? n = some e

theorem status_of_entry {e : Tracked} (h : t.lookup? n = some e) : t.status n = e.status := by
  unfold status
  rw [h]
  rfl

/-- A row that is put takes the place of the one with its key, and the others stand. -/
theorem lookup_put (rows : List (NodeId × Tracked)) (n m : NodeId) (e : Tracked) :
    (put rows n e).lookup m = if m = n then some e else rows.lookup m := by
  have hrow : (fun row : NodeId × Tracked => if row.1 == n then (n, e) else row) =
      fun row => if row.1 == n then (row.1, e) else row := by
    funext row
    by_cases h : row.1 = n <;> simp [h]
  unfold put
  by_cases hsome : (rows.lookup n).isSome
  · rw [if_pos hsome, hrow, lookup_map_row rows n m fun _ => e]
    by_cases h : m = n
    · subst h
      obtain ⟨old, hold⟩ := Option.isSome_iff_exists.1 hsome
      simp [hold]
    · simp [h]
  · rw [if_neg hsome, List.lookup_append]
    have hnone : rows.lookup n = none := by
      rwa [Option.isSome_iff_ne_none, not_not] at hsome
    by_cases h : m = n
    · subst h
      simp [hnone]
    · have hb : (m == n) = false := by simpa using h
      simp [h, List.lookup_cons, hb]

/-! ## Transitions -/

/-- A transition of a known node changes something unless the node has the status already and is
given no error. -/
theorem set_fst (h : t.knows n) (s : NodeStatus) (error : Option Fault)
    (description : Option String) :
    (t.set n s error description).1 = !decide (t.status n = s ∧ error = none) := by
  obtain ⟨e, he⟩ := h
  unfold set
  rw [he, status_of_entry he]
  by_cases hsame : e.status = s ∧ error = none
  · simp [hsame]
  · simp only [hsame, if_false]
    rfl

/-- A known node has the status it was given last, and the message of its error if there was one;
others have what they had. -/
theorem lookup?_set (h : t.knows n) (s : NodeStatus) (error : Option Fault)
    (description : Option String) (m : NodeId) :
    ∃ e, (t.set n s error description).2.lookup? m = (if m = n then some e else t.lookup? m) ∧
      e.status = s ∧ ∀ f, error = some f → e.error = some f.message := by
  obtain ⟨e, he⟩ := h
  unfold set
  rw [he]
  by_cases hsame : e.status = s ∧ error = none
  · refine ⟨e, ?_, hsame.1, fun f hf => absurd (hsame.2.symm.trans hf) nofun⟩
    simp only [hsame, and_self, if_true]
    by_cases hm : m = n
    · rw [if_pos hm, hm, he]
    · rw [if_neg hm]
  · refine ⟨Tracked.after e s error description, ?_, rfl, fun f hf => by rw [hf]; rfl⟩
    simp only [hsame, if_false]
    exact lookup_put t.nodes n m _

theorem knows_set (h : t.knows n) (s : NodeStatus) (error : Option Fault)
    (description : Option String) (hm : t.knows m) : (t.set n s error description).2.knows m := by
  obtain ⟨e, he, -⟩ := lookup?_set h s error description m
  unfold knows
  rw [he]
  by_cases hmn : m = n
  · exact ⟨e, if_pos hmn⟩
  · rw [if_neg hmn]
    exact hm

/-- A transition gives a known node its new status and leaves all others alone. -/
theorem status_set (h : t.knows n) (s : NodeStatus) (error : Option Fault)
    (description : Option String) (m : NodeId) :
    (t.set n s error description).2.status m = if m = n then s else t.status m := by
  obtain ⟨e, he, hs, -⟩ := lookup?_set h s error description m
  unfold status
  rw [he]
  by_cases hmn : m = n
  · simp [hmn, hs]
  · simp [hmn]

/-- A diagnostic changes nothing but the diagnostics of the entry. -/
theorem lookup?_addOutput {β : Type} {f : Tracked → β}
    (hf : ∀ e output, f { e with output } = f e) (t : Tracker) (n : NodeId) (text : String)
    (m : NodeId) : ((t.addOutput n text).lookup? m).map f = (t.lookup? m).map f := by
  unfold addOutput
  cases he : t.lookup? n with
  | none => rfl
  | some e =>
    show ((put t.nodes n { e with output := e.output ++ [text] }).lookup m).map f = _
    rw [lookup_put]
    by_cases hm : m = n
    · simp [hm, he, hf]
    · simp [hm, lookup?]

theorem status_addOutput (t : Tracker) (n : NodeId) (text : String) (m : NodeId) :
    (t.addOutput n text).status m = t.status m := by
  unfold status
  rw [lookup?_addOutput fun _ _ => rfl]

theorem knows_addOutput (t : Tracker) (n : NodeId) (text : String) (m : NodeId) :
    (t.addOutput n text).knows m ↔ t.knows m := by
  unfold knows
  have h := congrArg Option.isSome
    (lookup?_addOutput (f := Tracked.status) (fun _ _ => rfl) t n text m)
  rw [Option.isSome_map, Option.isSome_map] at h
  rw [← Option.isSome_iff_exists, ← Option.isSome_iff_exists, h]

/-- Where a node stands, and the error it has been given; nothing if the tracker was not told of
the node. -/
def standing (t : Tracker) (n : NodeId) : Option (NodeStatus × Option String) :=
  (t.lookup? n).map fun e => (e.status, e.error)

theorem status_eq_standing (t : Tracker) (n : NodeId) :
    t.status n = ((t.standing n).map (·.1)).getD .initial := by
  unfold status standing
  rw [Option.map_map]
  rfl

theorem status_of_standing (h : t'.standing n = t.standing n) : t'.status n = t.status n := by
  rw [status_eq_standing, status_eq_standing, h]

theorem standing_addOutput (t : Tracker) (n : NodeId) (text : String) (m : NodeId) :
    (t.addOutput n text).standing m = t.standing m :=
  lookup?_addOutput (fun _ _ => rfl) t n text m

/-- A node that is given an error has that error from now on. -/
theorem standing_set (h : t.knows n) (s : NodeStatus) (fault : Fault)
    (description : Option String) (m : NodeId) :
    (t.set n s (some fault) description).2.standing m =
      if m = n then some (s, some fault.message) else t.standing m := by
  obtain ⟨e, he, hs, herror⟩ := lookup?_set h s (some fault) description m
  unfold standing
  rw [he]
  by_cases hmn : m = n
  · simp [hmn, hs, herror fault rfl]
  · simp [hmn]

/-! ## Failing what is not final -/

/-- Fail a node that is not final. -/
def failOpen (fault : Fault) (t : Tracker) (n : NodeId) : Tracker :=
  if t.isFinal n then t else (t.set n .failed (some fault) none).2

theorem knows_failOpen (fault : Fault) (hm : t.knows m) (h : t.knows n) :
    (t.failOpen fault n).knows m := by
  unfold failOpen
  split
  · exact hm
  · exact knows_set h .failed (some fault) none hm

theorem isFinal_of_standing (h : t'.standing n = t.standing n) : t'.isFinal n = t.isFinal n := by
  unfold isFinal
  rw [status_of_standing h]

/-- A node that is not final is failed with the fault, and every other stands. -/
theorem standing_failOpen (fault : Fault) (h : t.knows n) (m : NodeId) :
    (t.failOpen fault n).standing m =
      if m = n ∧ t.isFinal n = false then some (.failed, some fault.message)
      else t.standing m := by
  unfold failOpen
  cases hfinal : t.isFinal n with
  | true => simp
  | false => simp [standing_set h]

/-- What is final stays as it is when nodes are failed. -/
theorem standing_foldl_failOpen_of_final (fault : Fault) {ns : List NodeId}
    (hknows : ∀ m ∈ ns, t.knows m) (hfinal : t.isFinal n = true) :
    (ns.foldl (failOpen fault) t).standing n = t.standing n := by
  induction ns generalizing t with
  | nil => rfl
  | cons m ns ih =>
    have hm := hknows m List.mem_cons_self
    have hsame : (t.failOpen fault m).standing n = t.standing n := by
      rw [standing_failOpen fault hm, if_neg]
      rintro ⟨rfl, hopen⟩
      rw [hfinal] at hopen
      cases hopen
    have hknows' : ∀ m' ∈ ns, (failOpen fault t m).knows m' := fun m' hm' =>
      knows_failOpen fault (hknows m' (List.mem_cons_of_mem m hm')) hm
    have hrest := ih hknows' ((isFinal_of_standing hsame).trans hfinal)
    exact hrest.trans hsame

/-- What is not final is failed. -/
theorem standing_foldl_failOpen (fault : Fault) {ns : List NodeId}
    (hknows : ∀ m ∈ ns, t.knows m) (hn : n ∈ ns) (hopen : t.isFinal n = false) :
    (ns.foldl (failOpen fault) t).standing n = some (.failed, some fault.message) := by
  induction ns generalizing t with
  | nil => cases hn
  | cons m ns ih =>
    have hm := hknows m List.mem_cons_self
    have hknows' : ∀ m' ∈ ns, (t.failOpen fault m).knows m' := fun m' hm' =>
      knows_failOpen fault (hknows m' (List.mem_cons_of_mem m hm')) hm
    have hstanding := standing_failOpen fault hm n
    by_cases hnm : n = m
    · -- the node itself, which is final from here on
      subst hnm
      rw [if_pos ⟨rfl, hopen⟩] at hstanding
      have hfinal : (t.failOpen fault n).isFinal n = true := by
        unfold isFinal
        rw [status_eq_standing, hstanding]
        rfl
      exact (standing_foldl_failOpen_of_final fault hknows' hfinal).trans hstanding
    · rw [if_neg fun h => hnm h.1] at hstanding
      exact ih hknows' ((List.mem_cons.1 hn).resolve_left hnm)
        ((isFinal_of_standing hstanding).trans hopen)

/-! ## The goal -/

theorem goal_set (t : Tracker) (n : NodeId) (s : NodeStatus) (error : Option Fault)
    (description : Option String) : (t.set n s error description).2.goal = t.goal := by
  unfold set
  split
  · rfl
  · split <;> rfl

theorem goal_addOutput (t : Tracker) (n : NodeId) (text : String) :
    (t.addOutput n text).goal = t.goal := by
  unfold addOutput
  split <;> rfl

theorem goal_ofInfos (goal : Goal) (dryRun : Bool) (infos : List NodeInfo) :
    (ofInfos goal dryRun infos).goal = goal :=
  List.foldlRecOn (motive := fun t : Tracker => t.goal = goal) infos _ rfl fun _ h _ _ => h

/-! ## A fresh tracker -/

/-- A node that was told of waits. -/
theorem lookup?_foldl_add (infos : List NodeInfo) (t : Tracker) (n : NodeId)
    (h : (∃ i ∈ infos, i.id = n) ∨ ∃ e, t.lookup? n = some e ∧ e.status = .waiting) :
    ∃ e, (infos.foldl add t).lookup? n = some e ∧ e.status = .waiting := by
  induction infos generalizing t with
  | nil => simpa using h
  | cons i infos ih =>
    rw [List.foldl_cons]
    apply ih
    have hadd : (t.add i).lookup? n =
        if n = i.id then some ⟨i.label, i.primitive, .waiting, none, none, []⟩
        else t.lookup? n := lookup_put t.nodes i.id n _
    rw [hadd]
    rcases h with ⟨j, hj, hid⟩ | ⟨e, he, hs⟩
    · rcases List.mem_cons.1 hj with rfl | hj
      · exact .inr ⟨_, if_pos hid.symm, rfl⟩
      · exact .inl ⟨j, hj, hid⟩
    · right
      by_cases hn : n = i.id
      · exact ⟨_, if_pos hn, rfl⟩
      · exact ⟨e, by rw [if_neg hn, he], hs⟩

/-- A tracker begins with every node waiting. -/
theorem lookup?_ofInfos (goal : Goal) (dryRun : Bool) {infos : List NodeInfo} {i : NodeInfo}
    (h : i ∈ infos) :
    ∃ e, (ofInfos goal dryRun infos).lookup? i.id = some e ∧ e.status = .waiting :=
  lookup?_foldl_add infos _ i.id (.inl ⟨i, h, rfl⟩)

/-! ## The histogram -/

/-- The tracker has an entry for each number below `bound`, and its histogram is that of the
entries. -/
structure Tallied (bound : Nat) (t : Tracker) : Prop where
  ids : t.nodes.map (·.1) = List.range bound
  counts : t.counts = .ofList (t.nodes.map (·.2.status.reported))

/-- Where the entry of a known node stands among the others. -/
theorem exists_split_put {rows : List (NodeId × Tracked)} (hrows : (rows.map (·.1)).Nodup)
    {e : Tracked} (he : rows.lookup n = some e) :
    ∃ pre post, rows = pre ++ (n, e) :: post ∧ ∀ e', put rows n e' = pre ++ (n, e') :: post := by
  obtain ⟨pre, post, rfl⟩ := List.append_of_mem ((lookup_eq_some_iff_mem hrows).1 he)
  refine ⟨pre, post, rfl, fun e' => ?_⟩
  rw [List.map_append, List.map_cons, List.nodup_middle, ← List.map_append,
    List.nodup_cons] at hrows
  -- No other row has the number of the node.
  have hkeep : ∀ rows' ⊆ pre ++ post,
      (rows'.map fun row => if row.1 == n then (n, e') else row) = rows' := by
    intro rows' hsub
    refine (List.map_congr_left fun row hrow => ?_).trans (List.map_id' rows')
    have hmem : row.1 ∈ (pre ++ post).map (·.1) := List.mem_map_of_mem (hsub hrow)
    have hne : row.1 ≠ n := fun heq => hrows.1 (heq ▸ hmem)
    rw [if_neg (by simpa using hne)]
  unfold put
  rw [he, if_pos (Option.isSome_some ..), List.map_append, List.map_cons,
    hkeep _ (List.subset_append_left ..), hkeep _ (List.subset_append_right ..)]
  simp

/-- One entry has left the count of its old status and joined that of its new one. -/
theorem moved_ofList (pre post : List ReportedStatus) (old new : NodeStatus) :
    moved (.ofList (pre ++ old.reported :: post)) old new =
      .ofList (pre ++ new.reported :: post) := by
  refine StatusCounts.ext_get fun r => ?_
  unfold moved StatusCounts.increment StatusCounts.decrement
  rw [StatusCounts.get_modify, StatusCounts.get_modify, StatusCounts.get_ofList,
    StatusCounts.get_ofList]
  simp only [List.count_append, List.count_cons, beq_iff_eq, eq_comm (a := r)]
  split <;> split <;> omega

/-- What a transition does to the tracker: nothing, or it replaces one entry and moves it in the
histograms. -/
theorem set_cases (hrows : (t.nodes.map (·.1)).Nodup) (n : NodeId) (s : NodeStatus)
    (error : Option Fault) (description : Option String) :
    (t.set n s error description).2 = t ∨ ∃ pre e post, t.nodes = pre ++ (n, e) :: post ∧
      (t.set n s error description).2 =
        { t with
          nodes := pre ++ (n, Tracked.after e s error description) :: post
          counts := moved t.counts e.status s
          primitiveCounts :=
            if e.primitive then moved t.primitiveCounts e.status s else t.primitiveCounts } := by
  unfold set
  cases he : t.lookup? n with
  | none => exact .inl rfl
  | some e =>
    by_cases hsame : e.status = s ∧ error = none
    · exact .inl (by simp only [hsame, and_self, if_true])
    · obtain ⟨pre, post, hsplit, hput⟩ := exists_split_put hrows he
      refine .inr ⟨pre, e, post, hsplit, ?_⟩
      simp only [hsame, if_false, hput]

/-- A diagnostic replaces one entry, if there is one. -/
theorem addOutput_cases (hrows : (t.nodes.map (·.1)).Nodup) (n : NodeId) (text : String) :
    t.addOutput n text = t ∨ ∃ pre e post, t.nodes = pre ++ (n, e) :: post ∧
      t.addOutput n text =
        { t with nodes := pre ++ (n, { e with output := e.output ++ [text] }) :: post } := by
  unfold addOutput
  cases he : t.lookup? n with
  | none => exact .inl rfl
  | some e =>
    obtain ⟨pre, post, hsplit, hput⟩ := exists_split_put hrows he
    exact .inr ⟨pre, e, post, hsplit, by simp only [hput]⟩

/-- A node that the tracker has not been told of comes at the end. -/
theorem nodes_add {i : NodeInfo} (h : i.id ∉ t.nodes.map (·.1)) :
    (t.add i).nodes = t.nodes ++ [(i.id, ⟨i.label, i.primitive, .waiting, none, none, []⟩)] := by
  rw [← isSome_lookup_iff_mem_keys] at h
  unfold add put
  rw [if_neg h]

/-- No call changes which nodes have an entry, nor which of them are primitive elements. -/
theorem rows_set (hrows : (t.nodes.map (·.1)).Nodup) (n : NodeId) (s : NodeStatus)
    (error : Option Fault) (description : Option String) :
    (t.set n s error description).2.nodes.map (fun row => (row.1, row.2.primitive)) =
      t.nodes.map fun row => (row.1, row.2.primitive) := by
  rcases set_cases hrows n s error description with hsame | ⟨pre, e, post, hnodes, hset⟩
  · rw [hsame]
  · rw [hset, hnodes, List.map_append, List.map_append, List.map_cons, List.map_cons]
    rfl

theorem rows_addOutput (hrows : (t.nodes.map (·.1)).Nodup) (n : NodeId) (text : String) :
    (t.addOutput n text).nodes.map (fun row => (row.1, row.2.primitive)) =
      t.nodes.map fun row => (row.1, row.2.primitive) := by
  rcases addOutput_cases hrows n text with hsame | ⟨pre, e, post, hnodes, hset⟩
  · rw [hsame]
  · rw [hset, hnodes, List.map_append, List.map_append, List.map_cons, List.map_cons]

theorem ids_of_rows
    (h : t'.nodes.map (fun row => (row.1, row.2.primitive)) =
      t.nodes.map fun row => (row.1, row.2.primitive)) :
    t'.nodes.map (·.1) = t.nodes.map (·.1) := by
  have hids := congrArg (List.map Prod.fst) h
  rw [List.map_map, List.map_map] at hids
  exact hids

/-- A histogram of the entries stays one. -/
theorem counts_set (hrows : (t.nodes.map (·.1)).Nodup)
    (h : t.counts = .ofList (t.nodes.map (·.2.status.reported))) (n : NodeId) (s : NodeStatus)
    (error : Option Fault) (description : Option String) :
    (t.set n s error description).2.counts =
      .ofList ((t.set n s error description).2.nodes.map (·.2.status.reported)) := by
  rcases set_cases hrows n s error description with hsame | ⟨pre, e, post, hnodes, hset⟩
  · rw [hsame, h]
  · rw [hnodes, List.map_append, List.map_cons] at h
    rw [hset, h, moved_ofList, List.map_append, List.map_cons]
    rfl

theorem counts_addOutput (hrows : (t.nodes.map (·.1)).Nodup)
    (h : t.counts = .ofList (t.nodes.map (·.2.status.reported))) (n : NodeId) (text : String) :
    (t.addOutput n text).counts =
      .ofList ((t.addOutput n text).nodes.map (·.2.status.reported)) := by
  rcases addOutput_cases hrows n text with hsame | ⟨pre, e, post, hnodes, hset⟩
  · rw [hsame, h]
  · rw [hnodes, List.map_append, List.map_cons] at h
    rw [hset, h, List.map_append, List.map_cons]

/-- A node that comes last waits. -/
theorem counts_add {i : NodeInfo} (hi : i.id ∉ t.nodes.map (·.1))
    (h : t.counts = .ofList (t.nodes.map (·.2.status.reported))) :
    (t.add i).counts = .ofList ((t.add i).nodes.map (·.2.status.reported)) := by
  rw [nodes_add hi, List.map_append]
  exact (congrArg (·.increment .waiting) h).trans (StatusCounts.increment_ofList _ _)

namespace Tallied

variable {bound : Nat}

theorem nodup (h : Tallied bound t) : (t.nodes.map (·.1)).Nodup := h.ids ▸ List.nodup_range

theorem set (h : Tallied bound t) (n : NodeId) (s : NodeStatus) (error : Option Fault)
    (description : Option String) : Tallied bound (t.set n s error description).2 :=
  ⟨(ids_of_rows (rows_set h.nodup n s error description)).trans h.ids,
    counts_set h.nodup h.counts n s error description⟩

theorem addOutput (h : Tallied bound t) (n : NodeId) (text : String) :
    Tallied bound (t.addOutput n text) :=
  ⟨(ids_of_rows (rows_addOutput h.nodup n text)).trans h.ids,
    counts_addOutput h.nodup h.counts n text⟩

theorem lookup?_eq_some_iff (h : Tallied bound t) {e : Tracked} :
    t.lookup? n = some e ↔ (n, e) ∈ t.nodes := lookup_eq_some_iff_mem h.nodup

/-- The aggregate result is final once every node is. -/
theorem outcome_isFinal_iff (h : Tallied bound t) :
    t.summary.outcome.isFinal = true ↔ ∀ n < bound, (t.status n).isFinal = true := by
  have hrow : ∀ {n e}, (n, e) ∈ t.nodes → n < bound ∧ t.status n = e.status := by
    intro n e hmem
    refine ⟨?_, status_of_entry (h.lookup?_eq_some_iff.2 hmem)⟩
    rw [← List.mem_range, ← h.ids]
    exact List.mem_map_of_mem hmem
  unfold summary
  rw [h.counts, StatusCounts.isFinal_outcome_ofList]
  constructor
  · intro hall n hn
    rw [← List.mem_range, ← h.ids] at hn
    obtain ⟨⟨n, e⟩, hmem, rfl⟩ := List.mem_map.1 hn
    rw [(hrow hmem).2, ← NodeStatus.isFinal_reported]
    exact hall _ (List.mem_map_of_mem hmem)
  · intro hall s hs
    obtain ⟨⟨n, e⟩, hmem, rfl⟩ := List.mem_map.1 hs
    obtain ⟨hn, hstatus⟩ := hrow hmem
    rw [NodeStatus.isFinal_reported, ← hstatus]
    exact hall n hn

end Tallied

/-! ## Both histograms -/

/-- The entries are those of these nodes, in order, and both histograms are in step with the
entries. -/
structure Registers (infos : List NodeInfo) (t : Tracker) : Prop where
  rows : t.nodes.map (fun row => (row.1, row.2.primitive)) =
    infos.map fun i => (i.id, i.primitive)
  counts : t.counts = .ofList (t.nodes.map (·.2.status.reported))
  primitives : t.primitiveCounts =
    .ofList ((t.nodes.filter (·.2.primitive)).map (·.2.status.reported))

namespace Registers

variable {infos : List NodeInfo}

theorem ids (h : Registers infos t) : t.nodes.map (·.1) = infos.map (·.id) := by
  have hids := congrArg (List.map Prod.fst) h.rows
  rw [List.map_map, List.map_map] at hids
  exact hids

theorem nodup (h : Registers infos t) (hids : (infos.map (·.id)).Nodup) :
    (t.nodes.map (·.1)).Nodup := h.ids ▸ hids

theorem set (h : Registers infos t) (hids : (infos.map (·.id)).Nodup) (n : NodeId)
    (s : NodeStatus) (error : Option Fault) (description : Option String) :
    Registers infos (t.set n s error description).2 := by
  refine ⟨(rows_set (h.nodup hids) n s error description).trans h.rows,
    counts_set (h.nodup hids) h.counts n s error description, ?_⟩
  rcases set_cases (h.nodup hids) n s error description with
    hsame | ⟨pre, e, post, hnodes, hset⟩
  · rw [hsame, h.primitives]
  · have hprimitives := h.primitives
    rw [hnodes, List.filter_append, List.filter_cons, List.map_append] at hprimitives
    rw [hset]
    show _ = StatusCounts.ofList (((pre ++ _ :: post).filter (·.2.primitive)).map _)
    rw [List.filter_append, List.filter_cons, List.map_append]
    -- The entry counts only if its element is primitive.
    cases hprimitive : e.primitive with
    | false =>
      have hstill : (Tracked.after e s error description).primitive = false := hprimitive
      simpa [hprimitive, hstill] using hprimitives
    | true =>
      have hstill : (Tracked.after e s error description).primitive = true := hprimitive
      rw [hprimitive, if_pos rfl, List.map_cons] at hprimitives
      rw [hstill, if_pos rfl, if_pos rfl, List.map_cons, hprimitives, moved_ofList]
      rfl

theorem addOutput (h : Registers infos t) (hids : (infos.map (·.id)).Nodup) (n : NodeId)
    (text : String) : Registers infos (t.addOutput n text) := by
  refine ⟨(rows_addOutput (h.nodup hids) n text).trans h.rows,
    counts_addOutput (h.nodup hids) h.counts n text, ?_⟩
  rcases addOutput_cases (h.nodup hids) n text with hsame | ⟨pre, e, post, hnodes, hsame⟩
  · rw [hsame, h.primitives]
  · have hprimitives := h.primitives
    rw [hnodes] at hprimitives
    rw [hsame]
    show t.primitiveCounts = _
    rw [hprimitives]
    simp only [List.filter_append, List.filter_cons, List.map_append]
    cases e.primitive <;> rfl

theorem add {i : NodeInfo} (h : Registers infos t) (hi : i.id ∉ infos.map (·.id)) :
    Registers (infos ++ [i]) (t.add i) := by
  rw [← h.ids] at hi
  refine ⟨?_, counts_add hi h.counts, ?_⟩
  · rw [nodes_add hi, List.map_append, List.map_append, h.rows]
    rfl
  · rw [nodes_add hi, List.filter_append, List.map_append]
    show (if i.primitive then t.primitiveCounts.increment .waiting else t.primitiveCounts) = _
    rw [h.primitives]
    cases hprimitive : i.primitive with
    | false => simp
    | true =>
      rw [if_pos rfl, StatusCounts.increment_ofList]
      simp [NodeStatus.reported]

/-- A fresh tracker of nodes no two of which have the same number. -/
theorem ofInfos (goal : Goal) (dryRun : Bool) (hids : (infos.map (·.id)).Nodup) :
    Registers infos (ofInfos goal dryRun infos) := by
  induction infos using List.reverseRecOn with
  | nil => exact ⟨rfl, rfl, rfl⟩
  | append_singleton infos i ih =>
    rw [List.map_append] at hids
    obtain ⟨hrest, -, hdisjoint⟩ := List.nodup_append.1 hids
    unfold Tracker.ofInfos
    rw [List.foldl_append]
    exact (ih hrest).add fun hmem => hdisjoint _ hmem _ (List.mem_singleton_self _) rfl

theorem lookup?_eq_some_iff (h : Registers infos t) (hids : (infos.map (·.id)).Nodup)
    {e : Tracked} : t.lookup? n = some e ↔ (n, e) ∈ t.nodes :=
  lookup_eq_some_iff_mem (h.nodup hids)

/-- The histograms count where the nodes stand. -/
theorem counts_eq (h : Registers infos t) (hids : (infos.map (·.id)).Nodup) :
    t.counts = .ofList (infos.map fun i => (t.status i.id).reported) ∧
      t.primitiveCounts =
        .ofList ((infos.filter (·.primitive)).map fun i => (t.status i.id).reported) := by
  have hrow : ∀ row ∈ t.nodes, row.2.status.reported = (t.status row.1).reported := fun row hmem =>
    congrArg _ (status_of_entry ((h.lookup?_eq_some_iff hids).2 hmem)).symm
  constructor
  · have hall := congrArg (List.map fun x : NodeId × Bool => (t.status x.1).reported) h.rows
    rw [List.map_map, List.map_map] at hall
    rw [h.counts, List.map_congr_left hrow]
    exact congrArg _ hall
  · have hsome := congrArg (fun xs => (xs.filter (·.2)).map
      fun x : NodeId × Bool => (t.status x.1).reported) h.rows
    simp only [List.filter_map, List.map_map] at hsome
    rw [h.primitives, List.map_congr_left fun row hmem => hrow row (List.mem_filter.1 hmem).1]
    exact congrArg _ hsome

end Registers

/-- The entries are those of the nodes that the tracker was told of, in order, and the histogram of
primitive elements is in step with them as well. -/
structure Rostered (infos : List NodeInfo) (t : Tracker) : Prop
    extends Tallied infos.length t where
  rows : t.nodes.map (fun row => (row.1, row.2.primitive)) =
    infos.map fun i => (i.id, i.primitive)
  primitives : t.primitiveCounts =
    .ofList ((t.nodes.filter (·.2.primitive)).map (·.2.status.reported))

namespace Rostered

variable {infos : List NodeInfo}

theorem registers (h : Rostered infos t) : Registers infos t := ⟨h.rows, h.counts, h.primitives⟩

theorem of_registers (h : Registers infos t) (hids : t.nodes.map (·.1) = List.range infos.length) :
    Rostered infos t := ⟨⟨hids, h.counts⟩, h.rows, h.primitives⟩

theorem nodup_ids (h : Rostered infos t) : (infos.map (·.id)).Nodup := h.registers.ids ▸ h.nodup

theorem set (h : Rostered infos t) (n : NodeId) (s : NodeStatus) (error : Option Fault)
    (description : Option String) : Rostered infos (t.set n s error description).2 :=
  of_registers (h.registers.set h.nodup_ids n s error description)
    (h.toTallied.set n s error description).ids

theorem addOutput (h : Rostered infos t) (n : NodeId) (text : String) :
    Rostered infos (t.addOutput n text) :=
  of_registers (h.registers.addOutput h.nodup_ids n text) (h.toTallied.addOutput n text).ids

/-- A fresh tracker of nodes that are numbered in order. -/
theorem ofInfos (goal : Goal) (dryRun : Bool) (h : infos.map (·.id) = List.range infos.length) :
    Rostered infos (ofInfos goal dryRun infos) := by
  have hregisters := Registers.ofInfos goal dryRun (h ▸ List.nodup_range)
  exact of_registers hregisters (hregisters.ids.trans h)

/-- The histograms count where the nodes stand. -/
theorem counts_eq (h : Rostered infos t) :
    t.counts = .ofList (infos.map fun i => (t.status i.id).reported) ∧
      t.primitiveCounts =
        .ofList ((infos.filter (·.primitive)).map fun i => (t.status i.id).reported) :=
  h.registers.counts_eq h.nodup_ids

end Rostered

/-! ## Reaching goals -/

theorem hasReached_eq_ok_true {goal : Goal} {label : String} :
    t.hasReached n goal label = .ok true ↔ t.status n = goal.status := by
  unfold hasReached
  by_cases h : t.status n = goal.status
  · simp [h]
  · by_cases hf : t.status n = .failed
    · simp [hf]
    · by_cases hw : ((t.status n).isWaiting || (t.status n).isInProgress) = true <;>
        simp [h, hf, hw]

/-- A node that is not said to fail, and not at its goal, is not final. -/
theorem not_final_of_hasReached {goal : Goal} {label : String}
    (h : t.hasReached n goal label = .ok false) : (t.status n).isFinal = false := by
  unfold hasReached at h
  by_cases hg : t.status n = goal.status
  · simp [hg] at h
  · by_cases hf : t.status n = .failed
    · rw [if_neg hg, if_pos hf] at h
      cases h
    · by_cases hw : ((t.status n).isWaiting || (t.status n).isInProgress) = true
      · exact NodeStatus.not_final_of_active hw
      · simp [hg, hf, hw] at h

end Tracker

end Rollout
