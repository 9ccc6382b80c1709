import Rollout.Proofs.Plan.Calls
import Rollout.Proofs.Plan.Operations

/-!
# The history of a plan

A plan is put together by calls, gets the criteria of its elements settled, and loses the nodes that
have reached their goals, in any order.  Whatever is done to it comes down to five kinds of edits
(`Op.run_induction`): an element or a piece of work is added, a node is enlisted by a leader, the
criteria of a node are set, or nothing changes but the live graph.
-/

namespace Rollout.Plan

variable {p q : Plan}

/-- What may be done to a plan. -/
inductive Op where
  | call (c : Call)
  | settle (n : NodeId) (c : Criteria)
  | remove (n : NodeId)

/-- The plan after an operation.  An action that is refused leaves what it has done, and any other
operation that is refused leaves the plan as it was. -/
def Op.run (p : Plan) : Op → Plan
  | call c => c.run p
  | settle n c => (Deployment.setCriteria p n c).toOption.getD p
  | remove n => (p.removeNode n).toOption.getD p

/-- The plan after some operations. -/
def after (p : Plan) (ops : List Op) : Plan := ops.foldl Op.run p

/-- Operations one after another can be split anywhere. -/
theorem after_append (p : Plan) (ops more : List Op) :
    p.after (ops ++ more) = (p.after ops).after more :=
  List.foldl_append

/-- What every operation keeps is kept by all of them. -/
theorem after_induction {motive : Plan → Prop} (hrun : ∀ q op, motive q → motive (Op.run q op))
    (h : motive p) (ops : List Op) : motive (p.after ops) :=
  List.foldlRecOn ops _ h fun q hq op _ => hrun q op hq

/-- A plan that was made by the operations stays so with every call, whether it fails or not. -/
theorem Made.call (h : p.Made) (c : Call) : (c.run p).Made := by
  cases c with
  | element e goal => exact h.addElement e goal
  | work w goal => exact h.addWork w goal
  | action a => exact h.addAction a
  | depend m n k =>
    show ((p.addDependency m n k).toOption.getD p).Made
    rcases toOption_getD_cases (p.addDependency m n k) p with heq | hok
    · rwa [heq]
    · exact h.addDependency hok
  | group n l =>
    show ((p.setGroup n l).toOption.getD p).Made
    rcases toOption_getD_cases (p.setGroup n l) p with heq | hok
    · rwa [heq]
    · exact h.setGroup hok

/-- A plan that was made by the operations stays so with every operation. -/
theorem Made.run (h : p.Made) (op : Op) : (op.run p).Made := by
  cases op with
  | call c => exact h.call c
  | settle n c =>
    show ((Deployment.setCriteria p n c).toOption.getD p).Made
    rcases toOption_getD_cases (Deployment.setCriteria p n c) p with heq | hok
    · rwa [heq]
    · exact h.setCriteria hok
  | remove n =>
    show ((p.removeNode n).toOption.getD p).Made
    rcases toOption_getD_cases (p.removeNode n) p with heq | hok
    · rwa [heq]
    · exact h.removeNode hok

/-- The plans that operations make are those with a history. -/
theorem made_iff_after : p.Made ↔ ∃ goal context ops, p = after (.empty goal context) ops := by
  -- an operation more is put at the end of the list
  have hstep : ∀ {q : Plan} (op : Op),
      (∃ goal context ops, q = after (.empty goal context) ops) →
      ∃ goal context ops, op.run q = after (.empty goal context) ops := by
    rintro _ op ⟨goal, context, ops, rfl⟩
    exact ⟨goal, context, ops ++ [op], (after_append _ ops [op]).symm⟩
  constructor
  · intro h
    induction h with
    | empty goal context => exact ⟨goal, context, [], rfl⟩
    | addElement _ e goal ih => exact hstep (.call (.element e goal)) ih
    | addWork _ w goal ih => exact hstep (.call (.work w goal)) ih
    | addAction _ a ih => exact hstep (.call (.action a)) ih
    | @addDependency _ _ _ m n k hadd ih =>
      have hrun := hstep (.call (.depend m n k)) ih
      simp only [Op.run, Call.run, hadd] at hrun
      exact hrun
    | @setGroup _ _ _ n l hgroup ih =>
      have hrun := hstep (.call (.group n l)) ih
      simp only [Op.run, Call.run, hgroup] at hrun
      exact hrun
    | @setCriteria _ _ _ n c hset ih =>
      have hrun := hstep (.settle n c) ih
      simp only [Op.run, hset] at hrun
      exact hrun
    | @removeNode _ _ _ n hremove ih =>
      have hrun := hstep (.remove n) ih
      simp only [Op.run, hremove] at hrun
      exact hrun
  · rintro ⟨goal, context, ops, rfl⟩
    exact after_induction (fun _ op hq => hq.run op) (.empty goal context) ops

/-! ## Edits -/

/-- What is taken out is missing from the graph, and completed. -/
theorem removeNode_eq {n : NodeId} (h : p.removeNode n = .ok q) :
    p.isLive n = true ∧ q = { p with
      graph := p.graph.removeNode n
      completed := if p.completed.contains n then p.completed else p.completed ++ [n] } := by
  unfold removeNode ensureLive at h
  cases hlive : p.isLive n with
  | true =>
    rw [hlive] at h
    exact ⟨rfl, (Except.ok.inj h).symm⟩
  | false =>
    rw [hlive] at h
    cases h

/-- What holds before an operation holds afterwards if every edit keeps it. -/
theorem Op.run_induction {motive : Plan → Prop} (op : Op)
    (element : ∀ q e goal, motive q → motive (Plan.addElement q e goal).1)
    (work : ∀ q w goal, motive q → motive (Plan.addWork q w goal).1)
    (enlist : ∀ q n l, q.leader? n = none → motive q → motive (q.enlist n l))
    (settle : ∀ q n c, motive q → motive (Deployment.withCriteria q n c))
    (graph : ∀ q graph completed, motive q → motive { q with graph, completed })
    (h : motive p) : motive (op.run p) := by
  -- a group draws edges and then enters the follower in the tables
  have hgroup : ∀ q q' n l, motive q → q.setGroup n l = .ok q' → motive q' := by
    intro q q' n l hq hok
    obtain ⟨hfree, heq⟩ := setGroup_eq hok
    rw [heq]
    exact enlist _ n l hfree (graph q q'.graph q.completed hq)
  cases op with
  | call c =>
    cases c with
    | element e goal => exact element p e goal h
    | work w goal => exact work p w goal h
    | action a =>
      show motive (p.addAction a).1
      rw [fst_addAction]
      exact adopt_induction (fun q c _ hq => element q c.element c.kind.goal hq)
        (fun q q' n hq hok => hgroup q q' n _ hq hok) (work p (workOf a) a.kind.goal h)
    | depend m n k =>
      show motive ((p.addDependency m n k).toOption.getD p)
      rcases toOption_getD_cases (p.addDependency m n k) p with heq | hok
      · rwa [heq]
      · rw [addDependency_eq hok]
        exact graph p _ p.completed h
    | group n l =>
      show motive ((p.setGroup n l).toOption.getD p)
      rcases toOption_getD_cases (p.setGroup n l) p with heq | hok
      · rwa [heq]
      · exact hgroup p _ n l h hok
  | settle n c =>
    show motive ((Deployment.setCriteria p n c).toOption.getD p)
    rcases toOption_getD_cases (Deployment.setCriteria p n c) p with heq | hok
    · rwa [heq]
    · rw [(setCriteria_eq_ok_iff.1 hok).2]
      exact settle p n c h
  | remove n =>
    show motive ((p.removeNode n).toOption.getD p)
    rcases toOption_getD_cases (p.removeNode n) p with heq | hok
    · rwa [heq]
    · rw [(removeNode_eq hok).2]
      exact graph p _ _ h

/-! ## The live graph -/

/-- The live graph stays coherent when an element is added. -/
theorem coherent_addElement (h : p.graph.Coherent) (e : Element) (goal : Goal) :
    (p.addElement e goal).1.graph.Coherent := by
  cases hn : p.nodeOf? e.id with
  | some n =>
    rw [addElement_of_some hn]
    exact h
  | none =>
    rw [addElement_of_none hn]
    exact h.addNode _

/-- The live graph stays coherent when a dependency is added. -/
theorem coherent_addDependency (h : p.graph.Coherent) {m n : NodeId} {k : EdgeKind}
    (hadd : p.addDependency m n k = .ok q) : q.graph.Coherent := by
  unfold Plan.addDependency at hadd
  obtain ⟨edge, -, hadd⟩ := bind_eq_ok.1 hadd
  cases edge with
  | none => exact Except.ok.inj hadd ▸ h
  | some edge => exact Except.ok.inj hadd ▸ coherent_link h

/-- The live graph stays coherent when a node is grouped. -/
theorem coherent_setGroup (h : p.graph.Coherent) {n l : NodeId}
    (hgroup : p.setGroup n l = .ok q) : q.graph.Coherent := by
  unfold setGroup at hgroup
  rw [(leader?_setGroup hgroup).1] at hgroup
  obtain rfl := Except.ok.inj hgroup
  exact coherent_link (List.foldlRecOn (motive := fun q : Plan => q.graph.Coherent) _ _ h
    fun _ hq d _ => coherent_handOver hq d)

/-- Whatever is done to a plan, its graph stays one. -/
theorem Made.coherent (h : p.Made) : p.graph.Coherent := by
  induction h with
  | empty goal context => exact .empty
  | addElement _ e goal ih => exact coherent_addElement ih e goal
  | addWork _ w goal ih => exact ih.addNode _
  | addAction _ a ih =>
    rw [fst_addAction]
    exact adopt_induction (motive := fun q : Plan => q.graph.Coherent)
      (fun _ c _ hq => coherent_addElement hq c.element c.kind.goal)
      (fun _ _ _ hq hgroup => coherent_setGroup hq hgroup) (ih.addNode _)
  | addDependency _ hadd ih => exact coherent_addDependency ih hadd
  | setGroup _ hgroup ih => exact coherent_setGroup ih hgroup
  | setCriteria _ hset ih =>
    rw [(setCriteria_eq_ok_iff.1 hset).2]
    exact ih
  | removeNode _ hremove ih =>
    rw [(removeNode_eq hremove).2]
    exact ih.removeNode _

end Rollout.Plan
