import Rollout.Engine.Run
import Rollout.Proofs.Engine.Narrative

/-!
# What every run keeps

The facts of this file hold of the runs of every plan whose nodes stand at their own places, with
any tracker that has been told of them.  `Based` is what holds of all passes.  What is known of the
tracker only has to be kept by the two things that are ever done to it (`Based.kept_of_play`), and
once the deadline has passed nothing is recorded any more (`Based.frozen_of_play`).
-/

namespace Rollout.Engine

open Rollout.Plan

variable {ω : Type} {p : Plan} {dryRun : Bool} {q q' start : Pass ω} {m : Move ω}
  {ms : List (Move ω)} {ask : Condition → ω → Readiness × ω} {concurrency : Option Nat}
  {n : NodeId} {node : Node} {s s' s'' : State ω} {may : NodeId → NodeStatus → Prop}
  {claims : NodeId → Prop}

/-! ## What holds of every pass -/

/-- The first pass over a plan with a tracker that may have a past. -/
def Pass.over (p : Plan) (tracker : Tracker) (concurrency : Option Nat) (dryRun : Bool) (world : ω)
    (log : Array Log.Event) : Pass ω :=
  .ofState { plan := p.attach, tracker, dryRun, world, log, queue := p.leaves } concurrency

/-- The nodes are those of the plan, and the tracker knows them. -/
structure Based (p : Plan) (dryRun : Bool) (q : Pass ω) : Prop where
  locks : q.Locks
  nodes : q.shared.plan.nodes = p.nodes
  elementNodes : q.shared.plan.elementNodes = p.elementNodes
  dryRun : q.shared.dryRun = dryRun
  knows : ∀ {n}, n < p.nodes.length → q.shared.tracker.knows n

/-- Nodes have the numbers that they have in the plan. -/
theorem Based.numbered (h : Based p dryRun q) (hp : p.Placed) : Numbered q.shared := by
  intro n node hnode
  rw [h.nodes] at hnode
  exact hp.id_eq hnode

/-- A node that has a body is that of no element. -/
theorem Based.own (h : Based p dryRun q) (hp : p.Placed) (hnode : p.nodes[n]? = some node)
    {body : CallbackId} (hbody : node.body? = some body) : Own n q.shared := by
  intro e he
  unfold Plan.nodeOf? at he
  rw [h.elementNodes] at he
  obtain ⟨node', hnode', hnone⟩ := hp.bodiless he
  rw [← Option.some.inj (hnode.symm.trans hnode'), hbody] at hnone
  cases hnone

/-- Every move keeps to the base of the pass. -/
theorem Based.step (hp : p.Placed) (h : Based p dryRun q) (hq : Stepped ask q m q') :
    Based p dryRun q' := by
  have hlater := hq.later (h.numbered hp)
  exact ⟨hq.locks, hlater.nodes.trans h.nodes, hlater.elementNodes.trans h.elementNodes,
    hlater.dryRun.trans h.dryRun, fun hn => hlater.knows (h.knows hn)⟩

/-- So does the request to stop. -/
theorem Based.stop (hp : p.Placed) (h : Based p dryRun q) :
    Based p dryRun (q.after ask concurrency .stop) :=
  h.step hp (stepped h.locks rfl)

/-- A pass over a plan starts on its base. -/
theorem based_over {tracker : Tracker} (hknows : ∀ n < p.nodes.length, tracker.knows n)
    (concurrency : Option Nat) (dryRun : Bool) (world : ω) (log : Array Log.Event) :
    Based p dryRun (.over p tracker concurrency dryRun world log) :=
  ⟨.ofState _ _, rfl, rfl, rfl, fun hn => hknows _ hn⟩

/-- The tracker of a plan knows its nodes. -/
theorem knows_ofInfos (hp : p.Placed) (dryRun : Bool) (n : NodeId) (hn : n < p.nodes.length) :
    (Tracker.ofInfos p.goal dryRun p.infos).knows n := by
  obtain ⟨node, hnode⟩ := node_of_lt hn
  have hinfo : node.info ∈ p.infos := List.mem_map_of_mem (List.mem_of_getElem? hnode)
  obtain ⟨e, he, -⟩ := Tracker.lookup?_ofInfos p.goal dryRun hinfo
  have hid : node.info.id = n := hp.id_eq hnode
  exact ⟨e, hid ▸ he⟩

/-- The first pass starts on its base. -/
theorem based_first (hp : p.Placed) (concurrency : Option Nat) (dryRun : Bool) (world : ω)
    (log : Array Log.Event) : Based p dryRun (.first p concurrency dryRun world log) :=
  based_over (knows_ofInfos hp dryRun) concurrency dryRun world log

/-- What a move keeps of every pass of a run, any number of moves keep. -/
theorem Based.play_induction (hp : p.Placed) (hstart : Based p dryRun start)
    {motive : Pass ω → Prop} (hfirst : motive start)
    (hstep : ∀ q m q', Based p dryRun q → motive q → q.allows m = true → Stepped ask q m q' →
      q' = q.after ask concurrency m → motive q')
    (hplay : play ask concurrency ms start = some q) : Based p dryRun q ∧ motive q := by
  refine Engine.play_induction (motive := fun _ q => Based p dryRun q ∧ motive q)
    ⟨hstart, hfirst⟩ ?_ hplay
  rintro - q m - ⟨hbase, h⟩ hm
  have hstepped : Stepped ask q m (q.after ask concurrency m) := stepped hbase.locks hm
  exact ⟨hbase.step hp hstepped, hstep q m _ hbase h hm hstepped rfl⟩

/-- A play keeps to the base of its pass. -/
theorem Based.played (hp : p.Placed) (hstart : Based p dryRun start)
    (hplay : play ask concurrency ms start = some q) : Based p dryRun q :=
  (hstart.play_induction hp (motive := fun _ => True) trivial (fun _ _ _ _ _ _ _ _ => trivial)
    hplay).1

/-! ## What a move does to the shared state -/

theorem lenient_of_forall (h : ∀ n status, may n status) : Lenient may s :=
  fun _ n _ status _ => h n status

/-- A move evaluates nothing, or what it does comes to elementary changes, and to a result that is
a defect if it is a fault. -/
theorem Stepped.changes (hids : Numbered q.shared) (hs : Lenient may q.shared)
    (hmay : ∀ n node, q.shared.plan.nodes[n]? = some node →
      may n node.goal.inProgress ∧ may n node.goal.status ∧ may n .failed)
    (hq : Stepped ask q m q') :
    (Quiet q.shared q'.shared ∧ q'.results ⊆ q.results ∧
        (m.stops = false → q'.shared.stopped = q.shared.stopped)) ∨
      (Changes may (fun _ => True) q.shared q'.shared ∧
        ∀ f, .error f ∈ q'.results → .error f ∈ q.results ∨ f.isDefect = true) := by
  -- The results of a segment.
  have hresults : ∀ {k segment q'}, Evaluates q k segment q' →
      (∀ f, (segment.run q.shared).1 = .finished (.error f) → f.isDefect = true) →
      ∀ f, .error f ∈ q'.results → .error f ∈ q.results ∨ f.isDefect = true := by
    intro k segment q' h hdefect f hf
    rw [h.results] at hf
    cases hprogress : (segment.run q.shared).1 with
    | paused pause =>
      rw [hprogress] at hf
      exact .inl hf
    | finished result =>
      rw [hprogress] at hf
      refine (List.mem_append.1 hf).imp_right fun hlast => hdefect f ?_
      rw [hprogress, List.mem_singleton.1 hlast]
  cases hq with
  | quiet hshared _ hsub _ _ hgoes => exact .inl ⟨hshared, hsub, hgoes⟩
  | @began k _ h _ =>
    refine .inr ⟨?_, hresults h fun f => isDefect_of_begin⟩
    rw [h.shared]
    exact changes_begin hids hs fun node hnode =>
      have ⟨hprogress, hgoal, hfailed⟩ := hmay _ node hnode
      ⟨hprogress, hgoal, hfailed, trivial⟩
  | @ended k _ _ answer h _ =>
    refine .inr ⟨?_, hresults h fun f => isDefect_of_resume hids⟩
    rw [h.shared]
    exact changes_resumeBody hids hs (fun node hnode => (hmay _ node hnode).2) answer
  | @checked k _ _ answer h _ =>
    refine .inr ⟨?_, hresults h fun f => isDefect_of_resume hids⟩
    rw [h.shared]
    exact changes_resumeCheck hids hs (fun node hnode => (hmay _ node hnode).2) answer

/-- Nothing is ruled out. -/
theorem Stepped.changes_any (hids : Numbered q.shared) (hq : Stepped ask q m q') :
    (Quiet q.shared q'.shared ∧ q'.results ⊆ q.results ∧
        (m.stops = false → q'.shared.stopped = q.shared.stopped)) ∨
      (Changes (fun _ _ => True) (fun _ => True) q.shared q'.shared ∧
        ∀ f, .error f ∈ q'.results → .error f ∈ q.results ∨ f.isDefect = true) :=
  hq.changes hids (lenient_of_forall fun _ _ => trivial)
    fun _ _ _ => ⟨trivial, trivial, trivial⟩

/-- Nothing but the passing of the deadline raises the stop flag, and nothing takes it down. -/
theorem Stepped.stopped (hids : Numbered q.shared) (hq : Stepped ask q m q')
    (hm : m.stops = false) : q'.shared.stopped = q.shared.stopped := by
  rcases hq.changes_any hids with ⟨-, -, hgoes⟩ | ⟨hchanges, -⟩
  · exact hgoes hm
  · exact hchanges.same.2.2

/-- Without a request to stop, a pass that goes on goes on. -/
theorem Based.stopped_of_play (hp : p.Placed) (hstart : Based p dryRun start)
    (hms : ∀ m ∈ ms, m.stops = false) (hplay : play ask concurrency ms start = some q) :
    q.shared.stopped = start.shared.stopped := by
  induction ms generalizing start with
  | nil => rw [Option.some.inj hplay]
  | cons m ms ih =>
    rw [play_cons] at hplay
    by_cases hm : start.allows m = true
    · rw [if_pos hm] at hplay
      have hstepped : Stepped ask start m (start.after ask concurrency m) := stepped hstart.locks hm
      rw [ih (hstart.step hp hstepped) (fun m' hm' => hms m' (List.mem_cons_of_mem m hm')) hplay]
      exact hstepped.stopped (hstart.numbered hp) (hms m List.mem_cons_self)
    · rw [if_neg hm] at hplay
      cases hplay

/-- The faults that a pass is told of are defects. -/
theorem Based.isDefect_of_play (hp : p.Placed) (hstart : Based p dryRun start)
    (hresults : start.results = []) (hplay : play ask concurrency ms start = some q) {f : Fault}
    (hf : .error f ∈ q.results) : f.isDefect = true := by
  refine (hstart.play_induction hp (motive := fun q => ∀ f, .error f ∈ q.results →
    f.isDefect = true) (by rw [hresults]; exact nofun) ?_ hplay).2 f hf
  intro q m q' hbase h _ hq _ f hf
  rcases hq.changes_any (hbase.numbered hp) with ⟨-, hsub, -⟩ | ⟨-, hdefects⟩
  · exact h f (hsub hf)
  · exact (hdefects f hf).elim (h f) id

/-! ## The tracker -/

/-- A node comes to no goal but its own. -/
def Aimed (nodes : List Node) (n : NodeId) (status : NodeStatus) : Prop :=
  status.isGoal = true → ∃ node, nodes[n]? = some node ∧ status = node.goal.status

/-- What the tracker keeps when it is told something. -/
structure Kept (may : NodeId → NodeStatus → Prop) (motive : Tracker → Prop) : Prop where
  told : ∀ t n text, motive t → motive (t.addOutput n text)
  recorded : ∀ t n status error description, may n status → motive t →
    motive (t.set n status error description).2

/-- What is kept by each change is kept by all of them. -/
theorem Changes.kept {motive : Tracker → Prop} (hkept : Kept may motive)
    (h : Changes may claims s s') (hs : motive s.tracker) : motive s'.tracker := by
  induction h with
  | refl => exact hs
  | tail _ h ih =>
    cases h with
    | aside _ _ htracker => rwa [htracker]
    | told n text => exact hkept.told _ n text ih
    | claimed _ => exact ih
    | recorded hmay _ error description => exact hkept.recorded _ _ _ error description hmay ih

/-- What the tracker keeps when it is told something, as long as nodes come to their own goals, it
keeps in every run. -/
theorem Based.kept_of_play (hp : p.Placed) (hstart : Based p dryRun start)
    {motive : Tracker → Prop} (hkept : Kept (Aimed p.nodes) motive)
    (hfirst : motive start.shared.tracker)
    (hplay : play ask concurrency ms start = some q) : motive q.shared.tracker := by
  refine (hstart.play_induction hp (motive := fun q => motive q.shared.tracker) hfirst ?_ hplay).2
  intro q m q' hbase h _ hq _
  -- reflected statuses are no goals, so nothing is asked of them
  have hlenient : Lenient (Aimed p.nodes) q.shared := by
    intro e n _ status hgoal haim
    rw [hgoal] at haim
    cases haim
  have haimed : ∀ n node, q.shared.plan.nodes[n]? = some node →
      Aimed p.nodes n node.goal.inProgress ∧ Aimed p.nodes n node.goal.status ∧
        Aimed p.nodes n .failed := by
    intro n node hnode
    rw [hbase.nodes] at hnode
    refine ⟨fun haim => ?_, fun _ => ⟨node, hnode, rfl⟩, nofun⟩
    rw [Goal.isGoal_inProgress] at haim
    cases haim
  rcases hq.changes (hbase.numbered hp) hlenient haimed with ⟨hquiet, -, -⟩ | ⟨hchanges, -⟩
  · show motive q'.shared.tracker
    rwa [hquiet.tracker]
  · exact hchanges.kept hkept h

/-! ## After the deadline -/

/-- Nothing has been recorded, and the deadline has passed. -/
structure Frozen (s s' : State ω) : Prop where
  standing : ∀ n, s'.tracker.standing n = s.tracker.standing n
  transitions : s'.transitions = s.transitions
  stopped : s'.stopped = true

theorem Frozen.refl (h : s.stopped = true) : Frozen s s := ⟨fun _ => rfl, rfl, h⟩

theorem Frozen.trans (h : Frozen s s') (h' : Frozen s' s'') : Frozen s s'' :=
  ⟨fun n => (h'.standing n).trans (h.standing n), h'.transitions.trans h.transitions, h'.stopped⟩

/-- After the stop no change reaches a status. -/
theorem Changes.frozen (h : Changes may claims s s') (hstop : s.stopped = true) :
    Frozen s s' := by
  induction h with
  | refl => exact .refl hstop
  | tail _ h ih =>
    refine ih.trans ?_
    cases h with
    | aside _ _ htracker _ _ hstopped htransitions =>
      exact ⟨fun n => by rw [htracker], htransitions, hstopped.trans ih.stopped⟩
    | told n text => exact ⟨fun m => Tracker.standing_addOutput .., rfl, ih.stopped⟩
    | claimed _ => exact ⟨fun _ => rfl, rfl, ih.stopped⟩
    | recorded _ hgoes =>
      rw [ih.stopped] at hgoes
      cases hgoes

/-- After the stop no move reaches a status. -/
theorem Stepped.frozen (hids : Numbered q.shared) (hq : Stepped ask q m q')
    (hstop : q.shared.stopped = true) : Frozen q.shared q'.shared := by
  rcases hq.changes_any hids with ⟨hquiet, -, -⟩ | ⟨hchanges, -⟩
  · exact ⟨fun n => by rw [hquiet.tracker], hquiet.transitions, hquiet.stopped hstop⟩
  · exact hchanges.frozen hstop

/-- Once the deadline has passed, nothing is recorded. -/
theorem Based.frozen_of_play (hp : p.Placed) (hstart : Based p dryRun start)
    (hstop : start.shared.stopped = true) (hplay : play ask concurrency ms start = some q) :
    Frozen start.shared q.shared := by
  refine (hstart.play_induction hp (motive := fun q => Frozen start.shared q.shared) (.refl hstop)
    ?_ hplay).2
  intro q m q' hbase h _ hq _
  exact h.trans (hq.frozen (hbase.numbered hp) h.stopped)

/-! ## The end of a run -/

/-- To fail what has not finished is to fail one node after another. -/
theorem tracker_failUnfinished (fault : Fault) (s : State ω) :
    (failUnfinished fault s).tracker =
      (s.plan.nodes.map (·.id)).foldl (Tracker.failOpen fault) s.tracker := by
  unfold failUnfinished
  rw [List.foldl_map]
  generalize s.plan.nodes = nodes
  induction nodes generalizing s with
  | nil => rfl
  | cons node nodes ih =>
    rw [List.foldl_cons, List.foldl_cons, ih]
    congr 1
    unfold Tracker.failOpen
    -- whoever is final is passed over on both sides
    by_cases hfinal : s.tracker.isFinal node.id = true
    · rw [if_pos hfinal, if_pos hfinal]
    · rw [if_neg hfinal, if_neg hfinal, run_record]
      rfl

/-- In the end a final node stands as it did, and any other one has failed with the fault. -/
theorem standing_failUnfinished (hp : p.Placed) (hnodes : s.plan.nodes = p.nodes)
    (hknows : ∀ {n}, n < p.nodes.length → s.tracker.knows n) (fault : Fault)
    (hn : n < p.nodes.length) :
    (failUnfinished fault s).tracker.standing n =
      if s.tracker.isFinal n then s.tracker.standing n
      else some (.failed, some fault.message) := by
  have hknown : ∀ m ∈ s.plan.nodes.map (·.id), s.tracker.knows m := by
    intro m hm
    obtain ⟨node, hnode, rfl⟩ := List.mem_map.1 hm
    rw [hnodes] at hnode
    obtain ⟨m, hm⟩ := List.mem_iff_getElem?.1 hnode
    rw [hp.id_eq hm]
    exact hknows (lt_of_node hm)
  rw [tracker_failUnfinished]
  cases hopen : s.tracker.isFinal n with
  -- what is final stays, and everything else is failed once
  | true => exact Tracker.standing_foldl_failOpen_of_final fault hknown hopen
  | false =>
    obtain ⟨node, hnode⟩ := node_of_lt hn
    have hmem : n ∈ s.plan.nodes.map (·.id) := by
      rw [hnodes]
      exact List.mem_map.2 ⟨node, List.mem_of_getElem? hnode, hp.id_eq hnode⟩
    exact Tracker.standing_foldl_failOpen fault hknown hmem hopen

/-- In the end every node is final. -/
theorem isFinal_failUnfinished (hp : p.Placed) (hnodes : s.plan.nodes = p.nodes)
    (hknows : ∀ {n}, n < p.nodes.length → s.tracker.knows n) (fault : Fault)
    (hn : n < p.nodes.length) : (failUnfinished fault s).tracker.isFinal n = true := by
  have hstanding := standing_failUnfinished hp hnodes hknows fault hn
  cases hopen : s.tracker.isFinal n with
  | true =>
    rw [hopen, if_pos rfl] at hstanding
    exact (Tracker.isFinal_of_standing hstanding).trans hopen
  | false =>
    rw [hopen, if_neg Bool.false_ne_true] at hstanding
    unfold Tracker.isFinal
    rw [Tracker.status_eq_standing, hstanding]
    rfl

/-- One pass leads to another by moves that leave the deadline alone. -/
def Leads (ask : Condition → ω → Readiness × ω) (concurrency : Option Nat) (q q' : Pass ω) : Prop :=
  ∃ ms, play ask concurrency ms q = some q' ∧ ∀ m ∈ ms, m.stops = false

/-- How the time of a run runs out at `q`, and what there is of the run from there on: either the
stop flag is raised and all tasks run to their ends, or a pass does not begin. -/
inductive Expires (ask : Condition → ω → Readiness × ω) (concurrency : Option Nat) (q : Pass ω) :
    List (Move ω) → Pass ω → Prop where
  | raised {ms : List (Move ω)} {q' : Pass ω}
      (hplay : play ask concurrency (.stop :: ms) q = some q') (hdone : q'.tasks = []) :
      Expires ask concurrency q (.stop :: ms) q'
  | unbegun (h : q.spawned = 0) : Expires ask concurrency q [] q

namespace Leads

theorem refl (q : Pass ω) : Leads ask concurrency q q := ⟨[], rfl, nofun⟩

/-- Moves can be made one stretch after another. -/
theorem trans {q'' : Pass ω} (h : Leads ask concurrency q q') (h' : Leads ask concurrency q' q'') :
    Leads ask concurrency q q'' := by
  obtain ⟨ms, hplay, hms⟩ := h
  obtain ⟨ms', hplay', hms'⟩ := h'
  refine ⟨ms ++ ms', ?_, fun m hm => (List.mem_append.1 hm).elim (hms m) (hms' m)⟩
  rw [play_append, hplay]
  exact hplay'

theorem of_move (hm : q.allows m = true) (hstops : m.stops = false) :
    Leads ask concurrency q (q.after ask concurrency m) := by
  refine ⟨[m], if_pos hm, fun m' hm' => ?_⟩
  rw [List.mem_singleton.1 hm', hstops]

/-- What moves lead to is reachable. -/
theorem reachable (h : Leads ask concurrency q q') : Reachable ask concurrency q q' := by
  obtain ⟨ms, hplay, -⟩ := h
  exact reachable_of_play .start hplay

/-- Moves lead to passes on the same base. -/
theorem based (h : Leads ask concurrency q q') (hp : p.Placed) (hq : Based p dryRun q) :
    Based p dryRun q' := by
  obtain ⟨ms, hplay, -⟩ := h
  exact hq.played hp hplay

/-- Moves other than the request to stop do not stop the pass. -/
theorem stopped (h : Leads ask concurrency q q') (hp : p.Placed) (hq : Based p dryRun q) :
    q'.shared.stopped = q.shared.stopped := by
  obtain ⟨ms, hplay, hms⟩ := h
  exact hq.stopped_of_play hp hms hplay

end Leads

/-- The end of a pass whose time has run out is played out. -/
theorem Expires.play_eq {late : List (Move ω)} (h : Expires ask concurrency q late q') :
    play ask concurrency late q = some q' := by
  cases h with
  | raised hplay _ => exact hplay
  | unbegun _ => rfl

end Rollout.Engine
