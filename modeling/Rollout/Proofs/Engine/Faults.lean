import Rollout.Proofs.Engine.Segment

/-!
# When looking at dependencies fails

`dependenciesMet` fails for one reason only, provided that relations name nothing but elements of
the plan and that none of the nodes a node leads has been started: something the node depends on has
failed.  `Foiled` says what that is.
-/

namespace Rollout

namespace Plan

/-- Relations name elements of the plan only. -/
structure Grounded (p : Plan) : Prop where
  targets : ∀ {n : NodeId} {node : Node} {r : Relation} {e : ElementId}, p.nodes[n]? = some node →
    node.goal = .deployed → node.relation? = some r → e ∈ r.targets → ∃ x, p.nodeOf? e = some x
  sources : ∀ {n : NodeId} {node : Node} {r : Relation} {e : ElementId}, p.nodes[n]? = some node →
    node.relation? = some r → e ∈ r.inverse.targets → ∃ x, p.nodeOf? e = some x

/-- An element of the plan has failed. -/
def Broken (p : Plan) (status : NodeId → NodeStatus) (e : ElementId) : Prop :=
  ∃ x, p.nodeOf? e = some x ∧ status x = .failed

/-- A soft dependency of a node has failed. -/
def SoftFoiled (p : Plan) (status : NodeId → NodeStatus) (n : NodeId) : Prop :=
  ∃ node, p.nodes[n]? = some node ∧
    match node.goal with
    | .deployed => ∃ r e, node.relation? = some r ∧ e ∈ r.targets ∧ p.Broken status e
    | .destroyed => ∃ d k nd r e, p.graph.edge? n d = some k ∧ p.nodes[d]? = some nd ∧
        nd.relation? = some r ∧ e ∈ r.inverse.targets ∧ p.Broken status e

/-- Something that a node depends on has failed: a hard dependency, or a soft one of the node or of
a node that it leads, when its hard ones are at their goals. -/
def Foiled (p : Plan) (status : NodeId → NodeStatus) (n : NodeId) : Prop :=
  (∃ d, p.graph.edge? n d = some .hard ∧ status d = .failed) ∨
    (∀ d, p.graph.edge? n d = some .hard → p.AtGoal status d) ∧
      ∃ y ∈ n :: p.followersOf n, p.SoftFoiled status y

end Plan

namespace Engine

open Rollout.Plan

variable {ω α β : Type} {p : Plan} {s : State ω} {n : NodeId} {node : Node} {yes no why why' : Prop}

/-! ## Blame -/

/-- If there is a fault then it is that of a failed dependency, and for the reason given. -/
def Blames (why : Prop) (r : Except Fault α) : Prop :=
  ∀ f, r = .error f → f = .dependencyFailed ∧ why

theorem Blames.of_ok (a : α) : Blames why (.ok a : Except Fault α) := nofun

/-- The reason that is blamed can be weakened. -/
theorem Blames.mono {r : Except Fault α} (h : Blames why r) (hwhy : why → why') : Blames why' r :=
  fun f hr => (h f hr).imp_right hwhy

namespace Peeks

theorem blames_mono {x : Eval ω α} (h : Peeks x s (Blames why)) (hwhy : why → why') :
    Peeks x s (Blames why') := h.mono fun _ hr => hr.mono hwhy

/-- A sequence of looks blames what its parts blame. -/
theorem blames_bind {x : Eval ω α} {g : α → Eval ω β} (hx : Peeks x s (Blames why))
    (hg : ∀ a world, Peeks (g a) { s with world } (Blames why)) :
    Peeks (x >>= g) s (Blames why) := by
  obtain ⟨r, world, hrun, hblames⟩ := hx
  cases r with
  | error e =>
    refine ⟨.error e, world, run_bind_error hrun g, fun f hf => ?_⟩
    obtain rfl := Except.error.inj hf
    exact hblames e rfl
  | ok a =>
    obtain ⟨r', world', hrun', hr'⟩ := hg a world
    exact ⟨r', world', (run_bind_ok hrun g).trans hrun', hr'⟩

/-- A question that is only asked after another one has been answered with yes. -/
theorem blames_and {x y : Eval ω Bool} (htells : Peeks x s (Tells yes no))
    (hx : Peeks x s (Blames why)) (hy : ∀ world, yes → Peeks y { s with world } (Blames why)) :
    Peeks (do if ← x then y else return false) s (Blames why) := by
  obtain ⟨r, world, hrun, hyes, -⟩ := htells
  obtain ⟨r', world', hrun', hblames⟩ := hx
  obtain ⟨rfl, hworld⟩ := Prod.mk.inj (hrun.symm.trans hrun')
  match r with
  | .error e =>
    refine ⟨.error e, world, run_bind_error hrun _, fun f hf => ?_⟩
    obtain rfl := Except.error.inj hf
    exact hblames e rfl
  | .ok false => exact ⟨.ok false, world, run_bind_ok hrun _, .of_ok false⟩
  | .ok true =>
    obtain ⟨r'', world'', hrun'', hr''⟩ := hy world (hyes rfl)
    exact ⟨r'', world'', (run_bind_ok hrun _).trans hrun'', hr''⟩

theorem nodeOf_ok_bind {post : Except Fault β → Prop} (h : Consistent p s)
    (hnode : p.nodes[n]? = some node) {g : Node → Eval ω β} (hg : Peeks (g node) s post) :
    Peeks (nodeOf n >>= g) s post := by
  obtain ⟨r, world, hrun, hr⟩ := hg
  exact ⟨r, world, (run_bind_ok (h.run_nodeOf_ok hnode) g).trans hrun, hr⟩

end Peeks

/-! ## What the tracker reports -/

/-- A node is given up because it has failed, or not at all. -/
theorem blames_hasReached (h : Consistent p s) (hnode : p.nodes[n]? = some node) (label : String) :
    Blames (statusAfter s.trace n = .failed) (s.tracker.hasReached n node.goal label) := by
  intro f hf
  unfold Tracker.hasReached at hf
  rw [h.status_eq (lt_of_node hnode)] at hf
  simp only at hf
  split at hf
  · cases hf
  split at hf
  next hfailed => exact ⟨(Except.error.inj hf).symm, hfailed⟩
  split at hf
  · cases hf
  next hgoal hfailed hactive =>
    refine absurd (h.lawful.active_of_not_final ?_) hactive
    -- A status that is final is a failure or the goal, and no other is left.
    cases hfinal : (statusAfter s.trace n).isFinal with
    | false => rfl
    | true =>
      obtain ⟨node', hnode', hs⟩ := (h.lawful.failed_or_atGoal hfinal).resolve_left hfailed
      rw [← Option.some.inj (hnode.symm.trans hnode')] at hs
      exact absurd hs hgoal

/-- A handle is given up because its element has failed. -/
theorem blames_view (hp : p.Runnable) (h : Consistent p s) {e : ElementId} {x : NodeId}
    (hx : p.nodeOf? e = some x) : Blames (p.Broken (statusAfter s.trace) e) (s.view e) := by
  obtain ⟨node, -, hnode, -, -⟩ := hp.nodeOf?_eq_some_iff.1 hx
  have hlookup : p.context.elements.lookup e = some (x, node.goal) :=
    hp.context_iff.2 ⟨hx, node, hnode, rfl⟩
  have hattached : p.context.ensureAttached = .ok () := by
    simp [Context.ensureAttached, hp.attached]
  have hview : s.view e = s.tracker.hasReached x node.goal e := by
    unfold State.view Context.view
    rw [h.context_eq, hlookup, hattached]
    rfl
  rw [hview]
  exact (blames_hasReached h hnode e).mono fun hfailed => ⟨x, hx, hfailed⟩

/-! ## Looking at dependencies -/

/-- The look at hard dependencies gives up only because one of them has failed. -/
theorem blames_hardReady (hp : p.Runnable) (h : Consistent p s) (ds : List NodeId)
    (hds : ∀ d ∈ ds, d < p.nodes.length) (world : ω) : Peeks (hardReady ds) { s with world }
      (Blames (∃ d ∈ ds, statusAfter s.trace d = .failed)) := by
  induction ds generalizing world with
  | nil => exact .of_run rfl (.of_ok true)
  | cons d ds ih =>
    obtain ⟨node, hnode⟩ := node_of_lt (hds d List.mem_cons_self)
    have hrest := ih fun d' hd' => hds d' (List.mem_cons_of_mem d hd')
    unfold hardReady
    refine .nodeOf_ok_bind (h.withWorld world s.log) hnode (.get_bind ?_)
    refine .blames_bind (.of_run (run_liftExcept _ _) ?_) fun here world' => ?_
    · rw [hp.id_eq hnode]
      exact (blames_hasReached h hnode node.label).mono fun hd => ⟨d, List.mem_cons_self, hd⟩
    · refine .blames_bind ((hrest world').blames_mono ?_) fun rest world'' => ?_
      · rintro ⟨d', hd', hs⟩
        exact ⟨d', List.mem_cons_of_mem d hd', hs⟩
      · exact .of_run rfl (.of_ok _)

variable (ask : Condition → ω → Readiness × ω)

/-- The look at a relation gives up only because the element of one of its handles has failed. -/
theorem blames_relationReady (hp : p.Runnable) (h : Consistent p s) (o : Option Relation)
    (ho : ∀ r, o = some r → ∀ e ∈ r.targets, ∃ x, p.nodeOf? e = some x) (world : ω) :
    Peeks (relationReady ask o) { s with world }
      (Blames (∃ r e, o = some r ∧ e ∈ r.targets ∧ p.Broken (statusAfter s.trace) e)) := by
  refine .relationReady ask (fun _ => .of_ok true) ?_
  rintro r rfl answer world' hready
  cases answer with
  | ok a => exact .of_ok _
  | error f =>
    intro f' hf
    obtain rfl := Except.error.inj hf
    -- a relation fails only with the failure of one of its handles
    obtain ⟨e, he, hv⟩ := Relation.ready_error r hready
    obtain ⟨x, hx⟩ := ho r rfl e he
    obtain ⟨hfault, hbroken⟩ := blames_view hp h hx f hv
    exact ⟨hfault, r, e, rfl, he, hbroken⟩

/-- The look at inverse relations gives up only for the same reason. -/
theorem blames_inversesReady (hp : p.Runnable) (hg : p.Grounded) (h : Consistent p s)
    (ds : List NodeId) (hds : ∀ d ∈ ds, d < p.nodes.length) (world : ω) :
    Peeks (inversesReady ask ds) { s with world }
      (Blames (∃ d ∈ ds, ∃ nd r e, p.nodes[d]? = some nd ∧ nd.relation? = some r ∧
        e ∈ r.inverse.targets ∧ p.Broken (statusAfter s.trace) e)) := by
  induction ds generalizing world with
  | nil => exact .of_run rfl (.of_ok true)
  | cons d ds ih =>
    obtain ⟨nd, hnd⟩ := node_of_lt (hds d List.mem_cons_self)
    have hrest := ih fun d' hd' => hds d' (List.mem_cons_of_mem d hd')
    unfold inversesReady
    refine .nodeOf_ok_bind (h.withWorld world s.log) hnd ?_
    refine .blames_and (peeks_relationReady ask hp h _ world) ?_ fun world' _ => ?_
    · have hknown : ∀ r, nd.relation?.map (·.inverse) = some r →
          ∀ e ∈ r.targets, ∃ x, p.nodeOf? e = some x := by
        intro r hr e he
        obtain ⟨r', hr', rfl⟩ := Option.map_eq_some_iff.1 hr
        exact hg.sources hnd hr' he
      refine (blames_relationReady ask hp h _ hknown world).blames_mono ?_
      rintro ⟨r, e, hr, he, hbroken⟩
      obtain ⟨r', hr', rfl⟩ := Option.map_eq_some_iff.1 hr
      exact ⟨d, List.mem_cons_self, nd, r', e, hnd, hr', he, hbroken⟩
    · refine (hrest world').blames_mono ?_
      rintro ⟨d', hd', hwhy⟩
      exact ⟨d', List.mem_cons_of_mem d hd', hwhy⟩

/-- The soft dependencies of a node that is not at its goal. -/
theorem blames_softReady (hp : p.Runnable) (hg : p.Grounded) (h : Consistent p s)
    (hnode : p.nodes[n]? = some node) (hlive : s.plan.isLive n = true) (world : ω) :
    Peeks (softReady ask node) { s with world }
      (Blames (p.SoftFoiled (statusAfter s.trace) n)) := by
  unfold softReady
  cases hgoal : node.goal with
  | deployed =>
    refine (blames_relationReady ask hp h _ (fun r hr e he => hg.targets hnode hgoal hr he)
      world).blames_mono ?_
    rintro ⟨r, e, hr, he, hbroken⟩
    refine ⟨node, hnode, ?_⟩
    rw [hgoal]
    exact ⟨r, e, hr, he, hbroken⟩
  | destroyed =>
    have hsucc : s.plan.successors node.id = .ok (s.plan.graph.successors n) := by
      unfold Plan.successors Plan.ensureLive
      rw [hp.id_eq hnode, hlive]
      rfl
    -- edges of the live graph are edges of the plan, which is what the reason is stated in
    have hedge : ∀ d ∈ s.plan.graph.successors n, ∃ k, p.graph.edge? n d = some k := by
      intro d hd
      obtain ⟨k, hk⟩ := Digraph.mem_successors_iff_edge.1 hd
      exact ⟨k, (h.edge?_iff.1 hk).1⟩
    have hlt : ∀ d ∈ s.plan.graph.successors n, d < p.nodes.length := by
      intro d hd
      obtain ⟨k, hk⟩ := hedge d hd
      exact hp.target_lt hk
    refine .get_bind ?_
    rw [hsucc]
    refine (blames_inversesReady ask hp hg h _ hlt world).blames_mono ?_
    rintro ⟨d, hd, nd, r, e, hnd, hr, he, hbroken⟩
    obtain ⟨k, hk⟩ := hedge d hd
    refine ⟨node, hnode, ?_⟩
    rw [hgoal]
    exact ⟨d, k, nd, r, e, hk, hnd, hr, he, hbroken⟩

/-- The soft dependencies of nodes that are led, none of which has been started. -/
theorem blames_followersReady (hp : p.Runnable) (hg : p.Grounded) (h : Consistent p s)
    (fs : List NodeId) (hfs : ∀ f ∈ fs, f < p.nodes.length)
    (hwait : ∀ f ∈ fs, (statusAfter s.trace f).isWaiting = true) (world : ω) :
    Peeks (followersReady ask fs) { s with world }
      (Blames (∃ y ∈ fs, p.SoftFoiled (statusAfter s.trace) y)) := by
  induction fs generalizing world with
  | nil => exact .of_run rfl (.of_ok true)
  | cons f fs ih =>
    have hf := hfs f List.mem_cons_self
    obtain ⟨node, hnode⟩ := node_of_lt hf
    have hrest := ih (fun y hy => hfs y (List.mem_cons_of_mem f hy))
      fun y hy => hwait y (List.mem_cons_of_mem f hy)
    have hwaiting : (s.tracker.status f).isWaiting = true := by
      rw [h.status_eq hf]
      exact hwait f List.mem_cons_self
    -- a follower that still waits has not left the live graph, so its own dependencies can be
    -- looked at
    have hlive : s.plan.isLive f = true := by
      refine h.isLive_of_not_final hf (NodeStatus.not_final_of_active ?_)
      rw [hwait f List.mem_cons_self]
      rfl
    unfold followersReady
    refine .get_bind (.nodeOf_ok_bind (h.withWorld world s.log) hnode ?_)
    simp only [hwaiting, if_true]
    refine .blames_and (peeks_softReady ask hp h hnode hlive world) ?_ fun world' _ => ?_
    · refine (blames_softReady ask hp hg h hnode hlive world).blames_mono ?_
      exact fun hfoiled => ⟨f, List.mem_cons_self, hfoiled⟩
    · refine (hrest world').blames_mono ?_
      rintro ⟨y, hy, hfoiled⟩
      exact ⟨y, List.mem_cons_of_mem f hy, hfoiled⟩

/-- Why `dependenciesMet` may fail for a node that is not final, none of whose followers has been
started. -/
theorem blames_dependenciesMet (hp : p.Runnable) (hg : p.Grounded) (h : Consistent p s)
    (hnode : p.nodes[n]? = some node) (hfinal : (statusAfter s.trace n).isFinal = false)
    (hwait : ∀ f ∈ p.followersOf n, (statusAfter s.trace f).isWaiting = true) :
    Peeks (dependenciesMet ask node) s (Blames (p.Foiled (statusAfter s.trace) n)) := by
  have hlive := h.isLive_of_not_final (lt_of_node hnode) hfinal
  have hedge : ∀ d ∈ s.plan.hardDependencies n, p.graph.edge? n d = some .hard :=
    fun d hd => ((h.mem_hardDependencies hlive).1 hd).1
  unfold dependenciesMet
  refine .get_bind ?_
  simp only
  rw [hp.id_eq hnode, h.followersOf_eq]
  refine .blames_and (peeks_hardReady hp h _ s.world) ?_ fun world hhard => ?_
  · refine (blames_hardReady hp h _ (fun d hd => hp.target_lt (hedge d hd)) s.world).blames_mono ?_
    exact fun ⟨d, hd, hfailed⟩ => .inl ⟨d, hedge d hd, hfailed⟩
  -- soft dependencies are only looked at once all hard ones are at their goals
  have hmet := h.hard_met hp.toSound hlive hhard
  refine .blames_and (peeks_softReady ask hp h hnode hlive world) ?_ fun world' _ => ?_
  · refine (blames_softReady ask hp hg h hnode hlive world).blames_mono ?_
    exact fun hfoiled => .inr ⟨hmet, n, List.mem_cons_self, hfoiled⟩
  · refine (blames_followersReady ask hp hg h _ (fun f hf => hp.follower_lt hf) hwait
      world').blames_mono ?_
    exact fun ⟨y, hy, hfoiled⟩ => .inr ⟨hmet, y, List.mem_cons_of_mem n hy, hfoiled⟩

/-- Whatever the reason why `dependenciesMet` fails, no hard dependency is outstanding, or one of
them has failed. -/
theorem hard_of_failing (hp : p.Runnable) (h : Consistent p s) (hnode : p.nodes[n]? = some node)
    (hfinal : (statusAfter s.trace n).isFinal = false) {fault : Fault} {s' : State ω}
    (hrun : (dependenciesMet ask node).run.run s = (.error fault, s')) :
    (∃ d, p.graph.edge? n d = some .hard ∧ statusAfter s.trace d = .failed) ∨
      ∀ d, p.graph.edge? n d = some .hard → p.AtGoal (statusAfter s.trace) d := by
  have hlive := h.isLive_of_not_final (lt_of_node hnode) hfinal
  have hedge : ∀ d ∈ s.plan.hardDependencies n, p.graph.edge? n d = some .hard :=
    fun d hd => ((h.mem_hardDependencies hlive).1 hd).1
  obtain ⟨r, world, hhard, htells⟩ := peeks_hardReady hp h (s.plan.hardDependencies n) s.world
  obtain ⟨r', world', hhard', hblames⟩ := blames_hardReady hp h (s.plan.hardDependencies n)
    (fun d hd => hp.target_lt (hedge d hd)) s.world
  obtain ⟨rfl, -⟩ := Prod.mk.inj (hhard.symm.trans hhard')
  match r with
  | .error e =>
    obtain ⟨-, d, hd, hfailed⟩ := hblames e rfl
    exact .inl ⟨d, hedge d hd, hfailed⟩
  | .ok true => exact .inr (h.hard_met hp.toSound hlive (htells.1 rfl))
  | .ok false =>
    -- then nothing else is looked at
    unfold dependenciesMet at hrun
    rw [run_get_bind, hp.id_eq hnode, run_bind_ok hhard] at hrun
    cases hrun

end Engine

end Rollout
