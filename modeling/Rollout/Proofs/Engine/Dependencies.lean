import Rollout.Proofs.Engine.State
import Rollout.Proofs.Relation.Readiness

/-!
# Looking at dependencies

`dependenciesMet` only reads the shared state, apart from asking the environment.  If it says yes
then the dependencies of the node are met (`Plan.Met`); if it says no then `Withheld` says what
the node is waiting for.  It may also fail, and then nothing is said here.
-/

namespace Rollout

namespace Plan

/-- An element of the plan has not come to its goal, but may do so. -/
def Awaited (p : Plan) (status : NodeId → NodeStatus) (e : ElementId) : Prop :=
  ∃ n g, p.context.elements.lookup e = some (n, g) ∧ (status n).isFinal = false

/-- A relation none of whose targets has failed waits for one of them, or for a condition. -/
def RelationPending (p : Plan) (status : NodeId → NodeStatus) (r : Relation) : Prop :=
  (∀ e ∈ r.targets, p.Reached status e ∨ p.Awaited status e) ∧
    ((∃ e ∈ r.targets, p.Awaited status e) ∨ r.asks = true)

/-- The soft dependencies of a node are pending. -/
def SoftPending (p : Plan) (status : NodeId → NodeStatus) (n : NodeId) : Prop :=
  ∃ node, p.nodes[n]? = some node ∧
    match node.goal with
    | .deployed => ∃ r, node.relation? = some r ∧ p.RelationPending status r
    | .destroyed => ∃ d k nd r, p.graph.edge? n d = some k ∧ ¬p.AtGoal status d ∧
        p.nodes[d]? = some nd ∧ nd.relation? = some r ∧ p.RelationPending status r.inverse

/-- What keeps a node from being started, when nothing it looks at has failed: a hard dependency,
or the soft dependencies of the first among the node and its followers for which they are
pending. -/
def Withheld (p : Plan) (status : NodeId → NodeStatus) (n : NodeId) : Prop :=
  (∃ d, p.graph.edge? n d = some .hard ∧ (status d).isFinal = false) ∨
    (∀ d, p.graph.edge? n d = some .hard → p.AtGoal status d) ∧
      ∃ pre f post, n :: p.followersOf n = pre ++ f :: post ∧ (∀ y ∈ pre, p.SoftMet status y) ∧
        p.SoftPending status f

end Plan

namespace Engine

open Rollout.Plan

variable {ω α β : Type} {p : Plan} {s : State ω}

/-! ## Computations that only ask the environment -/

/-- The computation leaves everything but the environment alone, and its answer is as said. -/
def Peeks (x : Eval ω α) (s : State ω) (post : Except Fault α → Prop) : Prop :=
  ∃ r world, x.run.run s = (r, { s with world }) ∧ post r

theorem Peeks.of_run {x : Eval ω α} {r : Except Fault α} {post : Except Fault α → Prop}
    (h : x.run.run s = (r, s)) (hr : post r) : Peeks x s post :=
  ⟨r, s.world, h, hr⟩

/-- A sequence of looks is a look, if every failure on the way satisfies the postcondition. -/
theorem Peeks.bind {x : Eval ω α} {f : α → Eval ω β} {mid : α → Prop}
    {post : Except Fault β → Prop}
    (hx : Peeks x s fun r => ∀ a, r = .ok a → mid a)
    (hf : ∀ a world, mid a → Peeks (f a) { s with world } post)
    (herr : ∀ e, post (.error e)) : Peeks (x >>= f) s post := by
  obtain ⟨r, world, hrun, hr⟩ := hx
  cases r with
  | error e => exact ⟨.error e, world, run_bind_error hrun f, herr e⟩
  | ok a =>
    obtain ⟨r', world', hrun', hr'⟩ := hf a world (hr a rfl)
    exact ⟨r', world', (run_bind_ok hrun f).trans hrun', hr'⟩

/-- A yes establishes one thing, a no another. -/
def Tells (yes no : Prop) (r : Except Fault Bool) : Prop :=
  (r = .ok true → yes) ∧ (r = .ok false → no)

theorem Tells.of_error {yes no : Prop} (f : Fault) : Tells yes no (.error f) :=
  ⟨nofun, nofun⟩

theorem Tells.of_yes {yes no : Prop} (h : yes) : Tells yes no (.ok true) :=
  ⟨fun _ => h, nofun⟩

theorem Tells.of_no {yes no : Prop} (h : no) : Tells yes no (.ok false) :=
  ⟨nofun, fun _ => h⟩

/-- What an answer tells can be weakened on both sides. -/
theorem Tells.mono {yes yes' no no' : Prop} {r : Except Fault Bool} (h : Tells yes no r)
    (hyes : yes → yes') (hno : no → no') : Tells yes' no' r :=
  ⟨fun hr => hyes (h.1 hr), fun hr => hno (h.2 hr)⟩

/-- The postcondition of a look can be weakened. -/
theorem Peeks.mono {x : Eval ω α} {post post' : Except Fault α → Prop} (h : Peeks x s post)
    (hpost : ∀ r, post r → post' r) : Peeks x s post' := by
  obtain ⟨r, world, hrun, hr⟩ := h
  exact ⟨r, world, hrun, hpost r hr⟩

theorem Peeks.tells_bind {x : Eval ω Bool} {f : Bool → Eval ω β} {yes no : Prop}
    {post : Except Fault β → Prop} (hx : Peeks x s (Tells yes no))
    (hf : ∀ b world, Tells yes no (.ok b) → Peeks (f b) { s with world } post)
    (herr : ∀ e, post (.error e)) : Peeks (x >>= f) s post :=
  .bind (hx.mono fun _ hr _ hb => hb ▸ hr) hf herr

theorem Peeks.get_bind {f : State ω → Eval ω β} {post : Except Fault β → Prop}
    (h : Peeks (f s) s post) : Peeks (get >>= f) s post := h

/-- To look a node up changes nothing, and what follows may rely on the node that was found. -/
theorem Peeks.node_bind {n : NodeId} {f : Node → Eval ω β} {post : Except Fault β → Prop}
    (hf : ∀ node, s.plan.nodes[n]? = some node → Peeks (f node) s post)
    (herr : ∀ e, post (.error e)) : Peeks (nodeOf n >>= f) s post := by
  have hrun := run_nodeOf n s
  cases hnode : s.plan.node n with
  | error e =>
    rw [hnode] at hrun
    exact .of_run (run_bind_error hrun f) (herr e)
  | ok node =>
    rw [hnode] at hrun
    unfold Peeks
    rw [run_bind_ok hrun f]
    exact hf node (node_eq_ok_iff.1 hnode)

/-- A look at a node sees the node of the plan. -/
theorem Peeks.nodeOf_bind (h : Consistent p s) {n : NodeId} {f : Node → Eval ω β}
    {post : Except Fault β → Prop}
    (hf : ∀ node, p.nodes[n]? = some node → Peeks (f node) s post)
    (herr : ∀ e, post (.error e)) : Peeks (nodeOf n >>= f) s post :=
  .node_bind (fun node hnode => hf node (h.nodes_eq ▸ hnode)) herr

/-- The first question decides unless it is answered with yes. -/
theorem Peeks.and {x y : Eval ω Bool} {yes₁ no₁ yes₂ no₂ : Prop}
    (hx : Peeks x s (Tells yes₁ no₁))
    (hy : ∀ world, yes₁ → Peeks y { s with world } (Tells yes₂ no₂)) :
    Peeks (do if ← x then y else return false) s
      (Tells (yes₁ ∧ yes₂) (no₁ ∨ yes₁ ∧ no₂)) := by
  refine hx.tells_bind (fun b world hb => ?_) .of_error
  cases b with
  | true =>
    exact (hy world (hb.1 rfl)).mono fun r hr =>
      hr.mono (fun h => ⟨hb.1 rfl, h⟩) fun h => .inr ⟨hb.1 rfl, h⟩
  | false => exact .of_run rfl (.of_no (.inl (hb.2 rfl)))

/-! ## What elements report -/

/-- A handle reads as reached if and only if its element is at its goal. -/
theorem view_eq_ok_true (hp : p.Runnable) (h : Consistent p s) {e : ElementId} :
    s.view e = .ok true ↔ p.Reached (statusAfter s.trace) e := by
  unfold State.view Context.view Reached
  rw [h.context_eq]
  cases hlookup : p.context.elements.lookup e with
  | none => simp
  | some entry =>
    obtain ⟨n, g⟩ := entry
    obtain ⟨node, hnode, -⟩ := (hp.context_iff.1 hlookup).2
    -- a runnable plan has been attached, so that the tracker is asked and not the plan
    have hattached : p.context.ensureAttached = .ok () := by
      simp [Context.ensureAttached, hp.attached]
    rw [hattached]
    show s.tracker.hasReached n g e = .ok true ↔ _
    rw [Tracker.hasReached_eq_ok_true, h.status_eq (lt_of_node hnode)]
    simp

/-- A handle that reads as not reached is one whose element still goes on. -/
theorem awaited_of_view (hp : p.Runnable) (h : Consistent p s) {e : ElementId}
    (he : s.view e = .ok false) : p.Awaited (statusAfter s.trace) e := by
  unfold State.view Context.view at he
  rw [h.context_eq] at he
  cases hlookup : p.context.elements.lookup e with
  | none => simp [hlookup] at he
  | some entry =>
    obtain ⟨n, g⟩ := entry
    obtain ⟨node, hnode, -⟩ := (hp.context_iff.1 hlookup).2
    have hattached : p.context.ensureAttached = .ok () := by
      simp [Context.ensureAttached, hp.attached]
    rw [hlookup, hattached] at he
    have hreached : s.tracker.hasReached n g e = .ok false := he
    exact ⟨n, g, hlookup, by
      rw [← h.status_eq (lt_of_node hnode)]
      exact Tracker.not_final_of_hasReached hreached⟩

/-! ## Hard dependencies -/

/-- What the tracker answers about a node: it is at its goal, or it has no final status yet. -/
theorem tells_hasReached (hp : p.Runnable) (h : Consistent p s) {d : NodeId} {node : Node}
    (hnode : p.nodes[d]? = some node) :
    Tells (p.AtGoal (statusAfter s.trace) d) ((statusAfter s.trace d).isFinal = false)
      (s.tracker.hasReached node.id node.goal node.label) := by
  rw [hp.id_eq hnode]
  refine ⟨fun hr => ⟨node, hnode, ?_⟩, fun hr => ?_⟩
  · rw [← h.status_eq (lt_of_node hnode)]
    exact Tracker.hasReached_eq_ok_true.1 hr
  · rw [← h.status_eq (lt_of_node hnode)]
    exact Tracker.not_final_of_hasReached hr

/-- The look at hard dependencies tells whether all are at their goals; if not, one of them still
goes on. -/
theorem peeks_hardReady (hp : p.Runnable) (h : Consistent p s) (ds : List NodeId) (world : ω) :
    Peeks (hardReady ds) { s with world } (Tells (∀ d ∈ ds, p.AtGoal (statusAfter s.trace) d)
      (∃ d ∈ ds, (statusAfter s.trace d).isFinal = false)) := by
  induction ds generalizing world with
  | nil => exact .of_run rfl (.of_yes (by simp))
  | cons d ds ih =>
    unfold hardReady
    refine .nodeOf_bind (h.withWorld world s.log) (fun node hnode => .get_bind ?_) .of_error
    -- Every dependency is looked at, also behind one that is not at its goal.
    have hhere := Peeks.of_run (run_liftExcept _ { s with world }) (tells_hasReached hp h hnode)
    refine hhere.tells_bind (fun here world' hb => ?_) .of_error
    refine (ih world').tells_bind (fun rest world'' hr => ?_) .of_error
    refine .of_run rfl ⟨fun hand => ?_, fun hand => ?_⟩
    · simp only [Except.ok.injEq, Bool.and_eq_true] at hand
      obtain ⟨rfl, rfl⟩ := hand
      simpa using ⟨hb.1 rfl, hr.1 rfl⟩
    · simp only [Except.ok.injEq, Bool.and_eq_false_iff] at hand
      rcases hand with rfl | rfl
      · exact ⟨d, List.mem_cons_self, hb.2 rfl⟩
      · obtain ⟨d', hd', hfinal⟩ := hr.2 rfl
        exact ⟨d', List.mem_cons_of_mem d hd', hfinal⟩

/-! ## Soft dependencies -/

variable (ask : Condition → ω → Readiness × ω)

/-- To look at a relation is to ask it about the state, and a node without one is ready. -/
theorem Peeks.relationReady {o : Option Relation} {post : Except Fault Bool → Prop}
    (hnone : o = none → post (.ok true))
    (hsome : ∀ r, o = some r → ∀ answer world, r.ready s.view ask s.world = (answer, world) →
      post (answer.map (·.isReady))) : Peeks (relationReady ask o) s post := by
  cases o with
  | none => exact .of_run rfl (hnone rfl)
  | some r =>
    unfold Engine.relationReady
    refine .get_bind ?_
    unfold Peeks
    rcases hready : r.ready s.view ask s.world with ⟨f | a, world⟩
    · exact ⟨.error f, world, rfl, hsome r rfl _ _ hready⟩
    · exact ⟨.ok a.isReady, world, rfl, hsome r rfl _ _ hready⟩

/-- The look at a relation tells whether its handles are reached; if not, the relation is pending.
-/
theorem peeks_relationReady (hp : p.Runnable) (h : Consistent p s) (o : Option Relation)
    (world : ω) :
    Peeks (relationReady ask o) { s with world }
      (Tells (∀ r, o = some r → ∀ e ∈ r.targets, p.Reached (statusAfter s.trace) e)
        (∃ r, o = some r ∧ p.RelationPending (statusAfter s.trace) r)) := by
  refine .relationReady ask (fun hnone => .of_yes (by rw [hnone]; exact nofun)) ?_
  rintro r rfl answer world' hready
  cases answer with
  | error f => exact .of_error f
  | ok a =>
    -- an answer without an error has seen every handle, so each of them is either reached or awaited
    obtain ⟨hknown, hdone, hwait⟩ := Relation.ready_ok r hready
    refine ⟨fun hyes => ?_, fun hno => ?_⟩
    · rintro r' hr' e he
      obtain rfl := Option.some.inj hr'
      have hpending := Relation.pending_of_isReady (Except.ok.inj hyes)
      exact (view_eq_ok_true hp h).1 (hdone hpending e he)
    · refine ⟨r, rfl, fun e he => ?_, (hwait (Except.ok.inj hno)).imp_left ?_⟩
      · obtain ⟨b, hb⟩ := hknown e he
        cases b with
        | true => exact .inl ((view_eq_ok_true hp h).1 hb)
        | false => exact .inr (awaited_of_view hp h hb)
      · rintro ⟨e, he, hv⟩
        exact ⟨e, he, awaited_of_view hp h hv⟩

/-- The look at the inverse relations of dependencies tells the same about each of them. -/
theorem peeks_inversesReady (hp : p.Runnable) (h : Consistent p s) (ds : List NodeId)
    (world : ω) :
    Peeks (inversesReady ask ds) { s with world }
      (Tells (∀ d ∈ ds, p.InverseMet (statusAfter s.trace) d)
        (∃ d ∈ ds, ∃ node r, p.nodes[d]? = some node ∧ node.relation? = some r ∧
          p.RelationPending (statusAfter s.trace) r.inverse)) := by
  induction ds generalizing world with
  | nil => exact .of_run rfl (.of_yes (by simp))
  | cons d ds ih =>
    unfold inversesReady
    refine .nodeOf_bind (h.withWorld world s.log) (fun node hnode => ?_) .of_error
    -- the rest is looked at only if the first one is ready, so pending is the first one, or a later
    -- one after it
    refine ((peeks_relationReady ask hp h _ world).and fun world' _ => ih world').mono
      fun r hr => hr.mono ?_ ?_
    · rintro ⟨hhere, hrest⟩ d' hd'
      rcases List.mem_cons.1 hd' with rfl | hd'
      · intro node' r hnode' hr e he
        obtain rfl : node = node' := Option.some.inj (hnode.symm.trans hnode')
        exact hhere r.inverse (by rw [hr]; rfl) e he
      · exact hrest d' hd'
    · rintro (⟨r, hr, hpending⟩ | ⟨-, d', hd', hrest⟩)
      · obtain ⟨r', hr', rfl⟩ := Option.map_eq_some_iff.1 hr
        exact ⟨d, List.mem_cons_self, node, r', hnode, hr', hpending⟩
      · exact ⟨d', List.mem_cons_of_mem d hd', hrest⟩

/-- The soft dependencies of a node that is not at its goal. -/
theorem peeks_softReady (hp : p.Runnable) (h : Consistent p s) {n : NodeId} {node : Node}
    (hnode : p.nodes[n]? = some node) (hlive : s.plan.isLive n = true) (world : ω) :
    Peeks (softReady ask node) { s with world } (Tells (p.SoftMet (statusAfter s.trace) n)
      (p.SoftPending (statusAfter s.trace) n)) := by
  unfold softReady
  cases hgoal : node.goal with
  | deployed =>
    refine (peeks_relationReady ask hp h _ world).mono fun r hr => hr.mono ?_ ?_
    · intro hready node' hnode'
      obtain rfl : node = node' := Option.some.inj (hnode.symm.trans hnode')
      rw [hgoal]
      exact hready
    · rintro ⟨r, hr, hpending⟩
      exact ⟨node, hnode, by rw [hgoal]; exact ⟨r, hr, hpending⟩⟩
  | destroyed =>
    have hsucc : s.plan.successors node.id = .ok (s.plan.graph.successors n) := by
      unfold Plan.successors Plan.ensureLive
      rw [hp.id_eq hnode, hlive]
      rfl
    refine .get_bind ?_
    rw [hsucc]
    refine (peeks_inversesReady ask hp h _ world).mono fun r hr => hr.mono ?_ ?_
    · intro hready node' hnode'
      obtain rfl : node = node' := Option.some.inj (hnode.symm.trans hnode')
      rw [hgoal]
      intro d k hk
      -- A node that has left the live graph is no successor any more, but is at its goal.
      by_cases hd : p.AtGoal (statusAfter s.trace) d
      · exact .inl hd
      · have hdlive := h.isLive_iff.2 ⟨hp.target_lt hk, hd⟩
        exact .inr (hready d (Digraph.mem_successors_of_edge (h.edge?_iff.2 ⟨hk, hlive, hdlive⟩)))
    · rintro ⟨d, hd, nd, r, hnd, hr, hpending⟩
      obtain ⟨k, hk⟩ := Digraph.mem_successors_iff_edge.1 hd
      obtain ⟨hk', -, hdlive⟩ := h.edge?_iff.1 hk
      refine ⟨node, hnode, ?_⟩
      rw [hgoal]
      exact ⟨d, k, nd, r, hk', (h.isLive_iff.1 hdlive).2, hnd, hr, hpending⟩

/-- The look at followers stops at the first one that is pending. -/
theorem peeks_followersReady (hp : p.Runnable) (h : Consistent p s) (fs : List NodeId)
    (world : ω) :
    Peeks (followersReady ask fs) { s with world }
      (Tells (∀ f ∈ fs, p.SoftMet (statusAfter s.trace) f)
        (∃ pre f post, fs = pre ++ f :: post ∧
          (∀ y ∈ pre, p.SoftMet (statusAfter s.trace) y) ∧
          p.SoftPending (statusAfter s.trace) f)) := by
  induction fs generalizing world with
  | nil => exact .of_run rfl (.of_yes (by simp))
  | cons f fs ih =>
    unfold followersReady
    refine .get_bind (.nodeOf_bind (h.withWorld world s.log) (fun node hnode => ?_) .of_error)
    cases hwaiting : (s.tracker.status f).isWaiting with
    | false =>
      -- A follower that does not wait any more is a defect, and nothing is said about those.
      simp only
      exact .of_run rfl (.of_error _)
    | true =>
      simp only [if_true]
      have hf := lt_of_node hnode
      have hfinal : (statusAfter s.trace f).isFinal = false := by
        rw [← h.status_eq hf]
        exact NodeStatus.not_final_of_active (by rw [hwaiting]; rfl)
      refine ((peeks_softReady ask hp h hnode (h.isLive_of_not_final hf hfinal) world).and
        fun world' _ => ih world').mono fun r hr => hr.mono ?_ ?_
      · rintro ⟨hhere, hrest⟩ y hy
        rcases List.mem_cons.1 hy with rfl | hy
        · exact hhere
        · exact hrest y hy
      · -- the first follower that is not ready ends the search
        rintro (hpending | ⟨hhere, pre, g, post, rfl, hpre, hpending⟩)
        · exact ⟨[], f, fs, rfl, nofun, hpending⟩
        · refine ⟨f :: pre, g, post, rfl, fun y hy => ?_, hpending⟩
          rcases List.mem_cons.1 hy with rfl | hy
          · exact hhere
          · exact hpre y hy

/-- The hard dependencies that a live node is asked for are those of the plan that are still live.
-/
theorem Consistent.mem_hardDependencies (h : Consistent p s) {n d : NodeId}
    (hlive : s.plan.isLive n = true) : d ∈ s.plan.hardDependencies n ↔
      p.graph.edge? n d = some .hard ∧ s.plan.isLive d = true := by
  rw [Plan.mem_hardDependencies h.coherent.toTidy, h.edge?_iff]
  simp [hlive]

/-- A hard dependency that has left the live graph is at its goal as well. -/
theorem Consistent.hard_met (hp : p.Sound) (h : Consistent p s) {n : NodeId}
    (hlive : s.plan.isLive n = true)
    (hall : ∀ d ∈ s.plan.hardDependencies n, p.AtGoal (statusAfter s.trace) d) :
    ∀ d, p.graph.edge? n d = some .hard → p.AtGoal (statusAfter s.trace) d := by
  intro d hd
  by_cases hgoal : p.AtGoal (statusAfter s.trace) d
  · exact hgoal
  · exact hall d ((h.mem_hardDependencies hlive).2 ⟨hd, h.isLive_iff.2 ⟨hp.target_lt hd, hgoal⟩⟩)

/-- What `dependenciesMet` says of a node that is not final. -/
theorem peeks_dependenciesMet (hp : p.Runnable) (h : Consistent p s) {n : NodeId} {node : Node}
    (hnode : p.nodes[n]? = some node) (hfinal : (statusAfter s.trace n).isFinal = false) :
    Peeks (dependenciesMet ask node) s
      (Tells (p.Met (statusAfter s.trace) n) (p.Withheld (statusAfter s.trace) n)) := by
  have hlive := h.isLive_of_not_final (lt_of_node hnode) hfinal
  unfold dependenciesMet
  refine .get_bind ?_
  simp only
  rw [hp.id_eq hnode, h.followersOf_eq]
  -- hard dependencies, the own relation and the followers' relations are looked at in this order
  refine ((peeks_hardReady hp h _ s.world).and fun world _ =>
    (peeks_softReady ask hp h hnode hlive world).and fun world' _ =>
      peeks_followersReady ask hp h _ world').mono fun r hr => hr.mono ?_ ?_
  · rintro ⟨hhard, hown, hfollowers⟩
    refine ⟨h.hard_met hp.toSound hlive hhard, fun y hy => ?_⟩
    rcases List.mem_cons.1 hy with rfl | hy
    · exact hown
    · exact hfollowers y hy
  · -- the node is withheld by the first of the three that is not ready; the node itself counts as
    -- the first of its followers
    rintro (⟨d, hd, hpending⟩ | ⟨hhard, hpending | ⟨hown, pre, f, post, heq, hpre, hpending⟩⟩)
    · exact .inl ⟨d, ((h.mem_hardDependencies hlive).1 hd).1, hpending⟩
    · exact .inr ⟨h.hard_met hp.toSound hlive hhard, [], n, _, rfl, nofun, hpending⟩
    · refine .inr ⟨h.hard_met hp.toSound hlive hhard, n :: pre, f, post, by rw [heq]; rfl,
        fun y hy => ?_, hpending⟩
      rcases List.mem_cons.1 hy with rfl | hy
      · exact hown
      · exact hpre y hy

end Engine

end Rollout
