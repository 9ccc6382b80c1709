import Mathlib.Algebra.GroupWithZero.Nat
import Rollout.Proofs.Engine.Interleaving

/-!
# The list of tasks

A move changes the phase of a task, ends a task or adds new ones.  This file says what that does to
the list of tasks as a whole: to the numbers and the nodes of the tasks, to how many there have
been, and to sums over what they are about.
-/

namespace Rollout.Engine

variable {ω : Type}

namespace Pass

variable {q : Pass ω} {k : Task} {t : TaskId} {n : NodeId}

/-! ## Numbers and nodes -/

/-- The number and the node of every task. -/
def labels (q : Pass ω) : List (TaskId × NodeId) := q.tasks.map fun k => (k.id, k.node)

/-- The numbers of the tasks. -/
def ids (q : Pass ω) : List TaskId := q.tasks.map (·.id)

/-- The nodes that tasks are about, one for each task. -/
def nodes (q : Pass ω) : List NodeId := q.tasks.map (·.node)

theorem ids_eq (q : Pass ω) : q.ids = q.labels.map (·.1) := by
  unfold ids labels
  rw [List.map_map]
  rfl

theorem nodes_eq (q : Pass ω) : q.nodes = q.labels.map (·.2) := by
  unfold nodes labels
  rw [List.map_map]
  rfl

theorem mem_nodes (h : q.task? t = some k) : k.node ∈ q.nodes :=
  List.mem_map_of_mem (List.mem_of_find?_eq_some h)

/-- A change of phase changes no label. -/
theorem labels_setPhase (q : Pass ω) (t : TaskId) (s : Phase) :
    (q.setPhase t s).labels = q.labels := by
  unfold labels setPhase
  rw [List.map_map]
  refine List.map_congr_left fun k _ => ?_
  show ((if k.id == t then { k with phase := s } else k).id,
    (if k.id == t then { k with phase := s } else k).node) = (k.id, k.node)
  split <;> rfl

theorem labels_releaseLock (q : Pass ω) (n : NodeId) : (q.releaseLock n).labels = q.labels := by
  unfold releaseLock
  split
  · exact labels_setPhase _ _ _
  · rfl

theorem labels_releasePermit (q : Pass ω) : q.releasePermit.labels = q.labels := by
  unfold releasePermit
  split
  · rfl
  · split
    · exact labels_setPhase _ _ _
    · rfl

/-- To finish a task takes its label away. -/
theorem labels_finish (q : Pass ω) (k : Task) (result : Except Fault Unit) :
    (q.finish k result).labels.Sublist q.labels := by
  unfold finish
  rw [labels_releasePermit, labels_releaseLock]
  exact List.filter_sublist.map _

/-- A segment adds no label. -/
theorem labels_runSegment (q : Pass ω) (k : Task) (segment : StateM (State ω) Progress) :
    (q.runSegment k segment).labels.Sublist q.labels := by
  unfold runSegment
  rcases segment.run q.shared with ⟨pause | result, shared⟩
  · rw [labels_setPhase]
    exact List.Sublist.refl _
  · exact labels_finish _ k result

/-- To resume a task adds no label. -/
theorem labels_resume (ask : Condition → ω → Readiness × ω) (q : Pass ω) (t : TaskId) :
    (q.resume ask t).labels.Sublist q.labels := by
  have hresumed := resumed ask q t
  generalize q.resume ask t = q' at hresumed
  cases hresumed with
  | idle => exact List.Sublist.refl _
  | linedForPermit =>
    rw [labels_setPhase]
    exact List.Sublist.refl _
  | linedForLock =>
    rw [labels_setPhase]
    exact List.Sublist.refl _
  | ran => exact labels_runSegment _ _ _

theorem labels_answerBody (q : Pass ω) (t : TaskId) (answer : Answer Unit) :
    (q.answerBody t answer).labels.Sublist q.labels := by
  unfold answerBody
  split
  · split
    · exact labels_runSegment _ _ _
    · exact List.Sublist.refl _
  · exact List.Sublist.refl _

theorem labels_answerCheck (q : Pass ω) (t : TaskId) (answer : Answer Readiness) :
    (q.answerCheck t answer).labels.Sublist q.labels := by
  unfold answerCheck
  split
  · split
    · exact labels_runSegment _ _ _
    · exact List.Sublist.refl _
  · exact List.Sublist.refl _

/-- No move but `spawn` makes tasks. -/
theorem labels_after (ask : Condition → ω → Readiness × ω) (concurrency : Option Nat) (q : Pass ω)
    {m : Move ω} (hm : m ≠ .spawn) : (q.after ask concurrency m).labels.Sublist q.labels := by
  cases m with
  | spawn => exact absurd rfl hm
  | resume t => exact labels_resume ask q t
  | answerBody t answer => exact labels_answerBody q t answer
  | answerCheck t answer => exact labels_answerCheck q t answer
  | collect => exact List.Sublist.refl _
  | disturb world log => exact List.Sublist.refl _
  | stop => exact List.Sublist.refl _
  | next => exact List.nil_sublist _

/-- New tasks have new numbers. -/
theorem mem_labels_of_spawn (h : (t, n) ∈ q.spawn.labels) : (t, n) ∈ q.labels ∨ q.spawned ≤ t := by
  have hfold : ∀ (ns : List NodeId) (q : Pass ω), (t, n) ∈ (ns.foldl spawnOne q).labels →
      (t, n) ∈ q.labels ∨ q.spawned ≤ t := by
    intro ns
    induction ns with
    | nil => exact fun q h => .inl h
    | cons m ns ih =>
      intro q h
      -- each new task gets the number of tasks that there were before
      have hone : (q.spawnOne m).labels = q.labels ++ [(q.spawned, m)] := List.map_append
      rcases ih (q.spawnOne m) h with hmem | hle
      · rw [hone] at hmem
        refine (List.mem_append.1 hmem).imp_right fun hnew => ?_
        exact Nat.le_of_eq (Prod.mk.inj (List.mem_singleton.1 hnew)).1.symm
      · exact .inr (Nat.le_of_succ_le hle)
  exact hfold _ q.unqueued h

/-- A task is about one node. -/
theorem eq_of_mem_labels (hids : q.ids.Nodup) {n' : NodeId} (h : (t, n) ∈ q.labels)
    (h' : (t, n') ∈ q.labels) : n = n' := by
  rw [ids_eq] at hids
  exact (Prod.mk.inj (List.inj_on_of_nodup_map hids h h' rfl)).2

/-- Each node in the queue becomes one task. -/
theorem nodes_spawn (q : Pass ω) : q.spawn.nodes = q.nodes ++ q.shared.queue := by
  have hfold : ∀ (ns : List NodeId) (q : Pass ω), (ns.foldl spawnOne q).nodes = q.nodes ++ ns := by
    intro ns
    induction ns with
    | nil => exact fun q => (List.append_nil _).symm
    | cons n ns ih =>
      intro q
      have hone : (q.spawnOne n).nodes = q.nodes ++ [n] := List.map_append
      rw [List.foldl_cons, ih, hone, List.append_assoc]
      rfl
  exact hfold _ _

/-- Only nodes that have been queued get tasks. -/
theorem nodes_after (ask : Condition → ω → Readiness × ω) (concurrency : Option Nat) (q : Pass ω)
    (m : Move ω) : (q.after ask concurrency m).nodes ⊆ q.nodes ++ q.shared.queue := by
  by_cases hm : m = .spawn
  · subst hm
    exact fun _ hn => nodes_spawn q ▸ hn
  · refine List.Subset.trans ?_ (List.subset_append_left _ _)
    rw [nodes_eq, nodes_eq]
    exact ((labels_after ask concurrency q hm).map _).subset

/-! ## How many tasks there have been -/

theorem spawned_releaseLock (q : Pass ω) (n : NodeId) :
    (q.releaseLock n).spawned = q.spawned := by
  unfold releaseLock
  split <;> rfl

theorem spawned_releasePermit (q : Pass ω) : q.releasePermit.spawned = q.spawned := by
  unfold releasePermit
  split
  · rfl
  · split <;> rfl

/-- A segment gives out no numbers. -/
theorem spawned_runSegment (q : Pass ω) (k : Task) (segment : StateM (State ω) Progress) :
    (q.runSegment k segment).spawned = q.spawned := by
  unfold runSegment
  rcases segment.run q.shared with ⟨pause | result, shared⟩
  · rfl
  · show (finish { q with shared } k result).spawned = q.spawned
    unfold finish
    rw [spawned_releasePermit, spawned_releaseLock]

/-- No other move within a pass makes tasks. -/
theorem spawned_after (ask : Condition → ω → Readiness × ω) (concurrency : Option Nat) (q : Pass ω)
    {m : Move ω} (hspawn : m ≠ .spawn) (hnext : m ≠ .next) :
    (q.after ask concurrency m).spawned = q.spawned := by
  cases m with
  | spawn => exact absurd rfl hspawn
  | next => exact absurd rfl hnext
  | resume t =>
    have hresumed := resumed ask q t
    show (q.resume ask t).spawned = q.spawned
    generalize q.resume ask t = q' at hresumed
    cases hresumed with
    | ran => exact spawned_runSegment _ _ _
    | idle | linedForPermit | linedForLock => rfl
  | answerBody t answer =>
    show (q.answerBody t answer).spawned = q.spawned
    unfold answerBody
    split
    · split
      · exact spawned_runSegment _ _ _
      · rfl
    · rfl
  | answerCheck t answer =>
    show (q.answerCheck t answer).spawned = q.spawned
    unfold answerCheck
    split
    · split
      · exact spawned_runSegment _ _ _
      · rfl
    · rfl
  | collect | disturb | stop => rfl

/-- As many numbers are given out as there are nodes in the queue. -/
theorem spawned_spawn (q : Pass ω) : q.spawn.spawned = q.spawned + q.shared.queue.length := by
  have hfold : ∀ (ns : List NodeId) (q : Pass ω),
      (ns.foldl spawnOne q).spawned = q.spawned + ns.length := by
    intro ns
    induction ns with
    | nil => exact fun _ => rfl
    | cons n ns ih =>
      intro q
      have hone : (q.spawnOne n).spawned = q.spawned + 1 := rfl
      rw [List.foldl_cons, ih, hone, List.length_cons]
      omega
  exact hfold _ q.unqueued

/-! ## Numbers are given once -/

/-- The numbers of tasks have been given out. -/
theorem Locks.lt_of_mem_ids (h : q.Locks) (ht : t ∈ q.ids) : t < q.spawned := by
  obtain ⟨k, hk, rfl⟩ := List.mem_map.1 ht
  have hfound : (q.task? k.id).isSome = true :=
    List.find?_isSome.2 ⟨k, hk, beq_self_eq_true _⟩
  obtain ⟨j, hj⟩ := Option.isSome_iff_exists.1 hfound
  exact h.bound hj

/-- New numbers are given out once. -/
theorem nodup_foldl_spawnOne (h : q.Locks) (hids : q.ids.Nodup) (ns : List NodeId) :
    (ns.foldl spawnOne q).ids.Nodup := by
  induction ns generalizing q with
  | nil => exact hids
  | cons n ns ih =>
    refine ih (rearranged_spawnOne h n).locks ?_
    have hone : (q.spawnOne n).ids = q.ids ++ [q.spawned] := List.map_append
    rw [hone]
    exact List.Nodup.append hids (List.nodup_singleton _)
      (List.disjoint_singleton.2 fun hmem => Nat.lt_irrefl _ (h.lt_of_mem_ids hmem))

/-- No move makes two tasks share a number. -/
theorem nodup_after (ask : Condition → ω → Readiness × ω) (concurrency : Option Nat)
    (h : q.Locks) (hids : q.ids.Nodup) (m : Move ω) : (q.after ask concurrency m).ids.Nodup := by
  by_cases hm : m = .spawn
  · subst hm
    have hunqueued : q.unqueued.Locks := h.of_same rfl rfl rfl rfl rfl
    exact nodup_foldl_spawnOne hunqueued hids q.shared.queue
  · rw [ids_eq] at hids ⊢
    exact hids.sublist ((labels_after ask concurrency q hm).map _)

/-! ## Loads and weights -/

/-- What the tasks come to, if each counts for what its node and its phase do. -/
def load (w : NodeId → Phase → ℕ) (q : Pass ω) : ℕ := (q.tasks.map fun k => w k.node k.phase).sum

/-- What the tasks weigh, if each weighs what its phase does. -/
def weight (w : Phase → ℕ) (q : Pass ω) : ℕ := (q.tasks.map fun k => w k.phase).sum

/-- Where a task stands among the others. -/
theorem exists_split_tasks (hids : q.ids.Nodup) (hk : q.task? t = some k) :
    ∃ pre post, q.tasks = pre ++ k :: post ∧ ∀ j ∈ pre ++ post, j.id ≠ t := by
  obtain rfl := id_of_task? hk
  obtain ⟨pre, post, hsplit⟩ := List.append_of_mem (List.mem_of_find?_eq_some hk)
  refine ⟨pre, post, hsplit, fun j hj heq => ?_⟩
  unfold ids at hids
  rw [hsplit, List.map_append, List.map_cons, List.nodup_middle, ← List.map_append,
    List.nodup_cons] at hids
  exact hids.1 (heq ▸ List.mem_map_of_mem hj)

section Load

variable {w : NodeId → Phase → ℕ}

/-- A change of phase exchanges what the task weighs. -/
theorem load_setPhase (hids : q.ids.Nodup) (hk : q.task? t = some k) (s : Phase) :
    (q.setPhase t s).load w + w k.node k.phase = q.load w + w k.node s := by
  obtain ⟨pre, post, hsplit, hothers⟩ := exists_split_tasks hids hk
  obtain rfl := id_of_task? hk
  -- numbers are given out once, so that all other tasks stay as they are
  have hkeep : ∀ js ⊆ pre ++ post,
      (js.map fun j => if j.id == k.id then { j with phase := s } else j) = js := by
    intro js hjs
    refine (List.map_congr_left fun j hj => ?_).trans (List.map_id' js)
    rw [if_neg (by simpa using hothers j (hjs hj))]
  have htasks : (q.setPhase k.id s).tasks = pre ++ { k with phase := s } :: post := by
    unfold setPhase
    simp only [hsplit, List.map_append, List.map_cons, hkeep _ (List.subset_append_left ..),
      hkeep _ (List.subset_append_right ..), beq_self_eq_true, if_true]
  unfold load
  rw [htasks, hsplit]
  simp only [List.map_append, List.map_cons, List.sum_append, List.sum_cons]
  omega

/-- A task that is dropped takes along what it weighs. -/
theorem load_dropTask (hids : q.ids.Nodup) (hk : q.task? k.id = some k)
    (result : Except Fault Unit) :
    (q.dropTask k result).load w + w k.node k.phase = q.load w := by
  obtain ⟨pre, post, hsplit, hothers⟩ := exists_split_tasks hids hk
  have hkeep : ∀ js ⊆ pre ++ post, js.filter (·.id != k.id) = js := by
    intro js hjs
    refine List.filter_eq_self.2 fun j hj => ?_
    simpa using hothers j (hjs hj)
  have htasks : (q.dropTask k result).tasks = pre ++ post := by
    unfold dropTask
    simp only [hsplit, List.filter_append, List.filter_cons, hkeep _ (List.subset_append_left ..),
      hkeep _ (List.subset_append_right ..), bne_self_eq_false, Bool.false_eq_true, if_false]
  unfold load
  rw [htasks, hsplit]
  simp only [List.map_append, List.map_cons, List.sum_append, List.sum_cons]
  omega

/-- New tasks add what they weigh on arrival. -/
theorem load_spawn (q : Pass ω) :
    q.spawn.load w = q.load w + (q.shared.queue.map (w · .arriving)).sum := by
  have hfold : ∀ (ns : List NodeId) (q : Pass ω),
      (ns.foldl spawnOne q).load w = q.load w + (ns.map (w · .arriving)).sum := by
    intro ns
    induction ns with
    | nil => exact fun q => rfl
    | cons n ns ih =>
      intro q
      have hone : (q.spawnOne n).load w = q.load w + w n .arriving := by
        unfold load spawnOne
        simp
      rw [List.foldl_cons, ih, hone, List.map_cons, List.sum_cons]
      omega
  exact hfold _ q.unqueued

/-- Passing a lock on changes nothing where it counts for nothing. -/
theorem load_releaseLock (hlock : ∀ n, w n .locked = w n .awaitingLock) (h : q.Locks)
    (hids : q.ids.Nodup) (n : NodeId) : (q.releaseLock n).load w = q.load w := by
  unfold releaseLock
  cases hline : q.lockLine.find? (·.1 == n) with
  | none => rfl
  | some next =>
    obtain ⟨k, hk, -, hphase⟩ := h.lockLine (List.mem_of_find?_eq_some hline)
    let q₁ : Pass ω := { q with lockLine := q.lockLine.eraseP (·.1 == n) }
    have hset := load_setPhase (w := w) (q := q₁) hids hk .locked
    rw [hphase, hlock] at hset
    exact Nat.add_right_cancel hset

/-- Passing a permit on changes nothing where it counts for nothing. -/
theorem load_releasePermit (hpermit : ∀ n, w n .permitted = w n .awaitingPermit) (h : q.Locks)
    (hids : q.ids.Nodup) : q.releasePermit.load w = q.load w := by
  unfold releasePermit
  cases q.free with
  | none => rfl
  | some free =>
    cases hline : q.permitLine with
    | nil => rfl
    | cons next line =>
      obtain ⟨k, hk, hphase⟩ := h.permitLine (t := next) (by rw [hline]; exact List.mem_cons_self)
      let q₁ : Pass ω := { q with permitLine := line }
      have hset := load_setPhase (w := w) (q := q₁) hids hk .permitted
      rw [hphase, hpermit] at hset
      exact Nat.add_right_cancel hset

/-- What a task counts for after a segment of its evaluation. -/
def loadAfter (w : NodeId → Phase → ℕ) (n : NodeId) : Progress → ℕ
  | .paused pause => w n (.paused pause)
  | .finished _ => 0

/-- A segment exchanges what its task weighs for what it weighs afterwards, if nothing is gained or
lost by being granted a lock or a permit. -/
theorem load_runSegment (hlock : ∀ n, w n .locked = w n .awaitingLock)
    (hpermit : ∀ n, w n .permitted = w n .awaitingPermit) (h : q.Locks) (hids : q.ids.Nodup)
    (hk : q.Holder k) (segment : StateM (State ω) Progress) :
    (q.runSegment k segment).load w + w k.node k.phase =
      q.load w + loadAfter w k.node (segment.run q.shared).1 := by
  unfold runSegment
  rcases segment.run q.shared with ⟨pause | result, shared⟩
  · exact load_setPhase (q := { q with shared }) hids hk.task (.paused pause)
  · -- a task that finishes is dropped, and then its lock and its permit go to tasks in line, which
    -- weigh the same after that
    let q₁ : Pass ω := { q with shared }
    have hlocks : q₁.Locks := h.of_same rfl rfl rfl rfl rfl
    obtain ⟨hdrop, hfree⟩ := hlocks.dropTask ⟨hk.task, hk.held, hk.alone, hk.out_of_line⟩ result
    have hids' : (q₁.dropTask k result).ids.Nodup := hids.sublist (List.filter_sublist.map _)
    have hreleased : ((q₁.dropTask k result).releaseLock k.node).ids.Nodup := by
      rw [ids_eq, labels_releaseLock, ← ids_eq]
      exact hids'
    have hheld : k.node ∈ (q₁.dropTask k result).held := hk.held
    show (q₁.finish k result).load w + w k.node k.phase = q.load w
    have hfinish : (q₁.finish k result).load w = (q₁.dropTask k result).load w :=
      (load_releasePermit hpermit (hdrop.releaseLock hheld hfree) hreleased).trans
        (load_releaseLock hlock hdrop hids' k.node)
    rw [hfinish]
    exact load_dropTask (q := q₁) hids hk.task result

end Load

section Weight

variable {w : Phase → ℕ}

theorem weight_setPhase (hids : q.ids.Nodup) (hk : q.task? t = some k) (s : Phase) :
    (q.setPhase t s).weight w + w k.phase = q.weight w + w s :=
  load_setPhase (w := fun _ => w) hids hk s

theorem weight_dropTask (hids : q.ids.Nodup) (hk : q.task? k.id = some k)
    (result : Except Fault Unit) : (q.dropTask k result).weight w + w k.phase = q.weight w :=
  load_dropTask (w := fun _ => w) hids hk result

theorem weight_spawn (q : Pass ω) :
    q.spawn.weight w = q.weight w + q.shared.queue.length * w .arriving := by
  have hload := load_spawn (w := fun _ => w) q
  rw [List.map_const', List.sum_replicate_nat] at hload
  exact hload

end Weight

end Pass

end Rollout.Engine
