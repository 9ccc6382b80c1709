import Rollout.Proofs.Order.Started

/-!
# The order of elements

What is deployed comes after everything it depends on (`deploys_in_order`).  What is destroyed
comes before everything it depends on, as long as no work with the other goal has taken over its
dependencies (`destroys_in_order`).
-/

namespace Rollout.Engine

open Rollout.Plan

variable {ω : Type} {d : Deployment} {p : Plan} {ask : Condition → ω → Readiness × ω}
  {concurrency : Option Nat} {dryRun : Bool} {world : ω} {log : Array Log.Event} {q : Pass ω}
  {n : NodeId} {status : NodeId → NodeStatus}

/-! ## Deploying -/

/-- What the relation of an element to be deployed names is deployed once its targets are at
their goals. -/
theorem deployed_of_reached (h : p.Built d) {y : NodeId} {ny : Node} {el : Element}
    {r : Relation} (hy : p.nodes[y]? = some ny) (hgoal : ny.goal = .deployed)
    (hel : ny.element? = some el) (hr : el.relation .deployed = some r)
    (hreached : ∀ e ∈ r.targets, p.attach.Reached status e) {e : ElementId}
    (he : e ∈ r.handles) : ∃ x, p.nodeOf? e = some x ∧ status x = .deployed := by
  obtain ⟨x, nx, hx, hnx, hlinked⟩ := h.linked hy hel (by rw [hgoal, hr]) he
  rw [hgoal] at hlinked
  -- The context and the table of elements agree on the node of the element.
  obtain ⟨x', g, hlookup, hstatus⟩ := hreached e (Relation.mem_handles.1 he)
  have hcontext : p.context.elements.lookup e = some (x', g) := hlookup
  obtain ⟨hx', node, hnode, hg⟩ := h.sound.context_iff.1 hcontext
  obtain rfl : x = x' := Option.some.inj (hx.symm.trans hx')
  obtain rfl : nx = node := Option.some.inj (hnx.symm.trans hnode)
  refine ⟨x, hx, ?_⟩
  rw [hstatus, ← hg, hlinked.1]
  rfl

/-- Whenever a node is started, everything that it needs hard is at its goal, and everything that
the relation of an element to be deployed names is deployed, where the element is the node's own
or one that the node leads. -/
theorem deploys_in_order (hplan : d.plan = .ok p)
    (hreach : Reachable ask concurrency (.first p concurrency dryRun world log) q)
    (hbegins : q.Begins n status) :
    (∀ m, p.graph.edge? n m = some .hard → p.AtGoal status m) ∧
      ∀ y ∈ n :: p.followersOf n, ∀ (ny : Node) (el : Element) (r : Relation),
        p.nodes[y]? = some ny → ny.goal = .deployed → ny.element? = some el →
        el.relation .deployed = some r →
        ∀ e ∈ r.handles, ∃ x, p.nodeOf? e = some x ∧ status x = .deployed := by
  obtain ⟨hsound, hsteady⟩ := hreach.steady_of_plan hplan
  have hbuilt := built_of_plan hplan
  have hmet := hsteady.met_of_begins hsound hbegins
  refine ⟨fun m hm => hmet.hard m hm, fun y hy ny el r hny hgoal hel hr e he => ?_⟩
  have hrelation : ny.relation? = some r := by
    rw [hbuilt.relation?_of_element hny hel, hgoal, hr]
  have hsoft := hmet.soft y hy ny hny
  rw [hgoal] at hsoft
  exact deployed_of_reached hbuilt hny hgoal hel hr (hsoft r hrelation) he

/-- An element that depends on another one, and an action that brings it about. -/
def installed : Deployment :=
  let base : Element := { id := "base", component := "base" }
  let top : Element :=
    { id := "top", component := "top", relation := fun _ => some (.edge "top" "base") }
  { added := [base, top]
    actions := [⟨.create, "install", [⟨.create, top, "install"⟩], 0⟩] }

/-- The action waits for what its element depends on. -/
theorem deploys_installed_in_order : ∃ q status,
    replay installed true [.spawn, .resume 0, .spawn, .resume 1] = some q ∧
      q.Begins 2 status ∧ ∃ x, (planned installed).nodeOf? "base" = some x ∧
        status x = .deployed := by
  obtain ⟨q, hq, htask⟩ : ∃ q,
      replay installed true [.spawn, .resume 0, .spawn, .resume 1] = some q ∧
        q.task? 1 = some ⟨1, 2, .paused (.body 0)⟩ :=
    ⟨_, rfl, rfl⟩
  have hplan : installed.plan = .ok (planned installed) := rfl
  have hbegins : q.Begins 2 q.shared.tracker.status := .inr ⟨⟨1, _, 0, htask, rfl, rfl⟩, rfl⟩
  have horder := deploys_in_order hplan (reachable_of_replay hq) hbegins
  have hled : 1 ∈ 2 :: (planned installed).followersOf 2 := by decide
  exact ⟨q, _, hq, hbegins, horder.2 1 hled _ _ _ rfl rfl rfl rfl "base" (by decide)⟩

/-! ## Destroying -/

/-- Every relation of the deployment is a dependency of an element on others. -/
def Plain (d : Deployment) : Prop :=
  ∀ e ∈ d.mentioned, ∀ g r, e.relation g = some r → ∃ targets, r = .dependsOn e.id targets

/-- The second element depends on the first, and both are to be destroyed. -/
def Dependent (p : Plan) (x y : NodeId) : Prop :=
  ∃ nx ex, p.nodes[x]? = some nx ∧ nx.element? = some ex ∧ nx.goal = .destroyed ∧
    ∃ ny ey r, p.nodes[y]? = some ny ∧ ny.element? = some ey ∧ ny.goal = .destroyed ∧
      ey.relation .destroyed = some r ∧ ex.id ∈ r.handles

/-- Whoever has the dependencies of an element to be destroyed waits for its dependents, if it
is to be destroyed itself. -/
theorem destroyed_of_met (h : p.Built d) (hplain : Plain d) {x y : NodeId}
    (hxy : Dependent p x y) {nl : Node} (hl : p.nodes[p.lead x]? = some nl)
    (hgoal : nl.goal = .destroyed) (hmet : p.attach.Met status (p.lead x)) :
    status y = .destroyed := by
  obtain ⟨nx, ex, hx, hex, hgx, ny, ey, r, hy, hey, hgy, hr, hdep⟩ := hxy
  -- The edge that stands for the dependency.
  obtain ⟨x', nx', hx', hnx', hedge⟩ := h.linked hy hey (by rw [hgy, hr]) hdep
  obtain rfl : x = x' := Option.some.inj
    ((h.sound.nodeOf?_eq_some_iff.2 ⟨nx, ex, hx, hex, rfl⟩).symm.trans hx')
  obtain rfl : nx = nx' := Option.some.inj (hx.symm.trans hnx')
  rw [hgy] at hedge
  obtain ⟨k, hk⟩ := Option.isSome_iff_exists.1 (hedge hgx)
  have hsoft := hmet.soft _ List.mem_cons_self nl hl
  rw [hgoal] at hsoft
  rcases hsoft y k hk with ⟨node, hnode, hstatus⟩ | hinverse
  · -- the dependent has left the live graph
    obtain rfl : ny = node := Option.some.inj (hy.symm.trans hnode)
    rw [hstatus, hgy]
    rfl
  · -- Seen from the other side, the relation has nothing but the element itself as its targets.
    obtain ⟨targets, rfl⟩ := hplain ey (h.mentioned hy hey) _ r hr
    have hrelation : ny.relation? = some (.dependsOn ey.id targets) := by
      rw [h.relation?_of_element hy hey, hgy, hr]
    obtain ⟨s, hs⟩ := Relation.exists_target_inverse (Relation.mem_handles.1 hdep)
    obtain ⟨y', g, hlookup, hstatus⟩ := hinverse ny _ hy hrelation s hs
    rw [Relation.startsAt_dependsOn ey.id targets s hs] at hlookup
    have hcontext : p.context.elements.lookup ey.id = some (y', g) := hlookup
    obtain ⟨hy', node, hnode, hg⟩ := h.sound.context_iff.1 hcontext
    obtain rfl : y = y' := Option.some.inj
      ((h.sound.nodeOf?_eq_some_iff.2 ⟨ny, ey, hy, hey, rfl⟩).symm.trans hy')
    obtain rfl : ny = node := Option.some.inj (hy.symm.trans hnode)
    rw [hstatus, ← hg, hgy]
    rfl

/-- If an element to be destroyed has no leader, or one that is to be destroyed as well, then
neither it nor its leader is started, and the element is not shown as being worked on, before
everything that depends on it and is to be destroyed has been destroyed. -/
theorem destroys_in_order (hplan : d.plan = .ok p)
    (hreach : Reachable ask concurrency (.first p concurrency dryRun world log) q)
    (hplain : Plain d) {x y : NodeId} (hxy : Dependent p x y)
    (hlead : ∀ l nl, p.leader? x = some l → p.nodes[l]? = some nl → nl.goal = .destroyed)
    (hbegins : q.Begins x status ∨ q.Reflects x status ∨
      ∃ l, p.leader? x = some l ∧ q.Begins l status) : status y = .destroyed := by
  obtain ⟨hsound, hsteady⟩ := hreach.steady_of_plan hplan
  have hbuilt := built_of_plan hplan
  have ⟨nx, _, hx, _, hgx, _⟩ := hxy
  -- a follower is held back by what holds its leader back
  have hled : ∀ {l}, p.leader? x = some l → p.attach.Met status l → status y = .destroyed := by
    intro l hl hmet
    obtain ⟨nl, hnl, -⟩ := hbuilt.sound.leader_work hl
    have hself : p.lead x = l := lead_of_led hl
    exact destroyed_of_met hbuilt hplain hxy (hself ▸ hnl) (hlead l nl hl hnl) (hself ▸ hmet)
  rcases hbegins with hbegins | hreflects | ⟨l, hl, hbegins⟩
  · -- the element itself, which waits for its leader if it has one
    cases hl : p.leader? x with
    | none =>
      have hself : p.lead x = x := lead_of_free hl
      exact destroyed_of_met hbuilt hplain hxy (hself.symm ▸ hx) hgx
        (hself.symm ▸ hsteady.met_of_begins hsound hbegins)
    | some l =>
      exact hled hl (hsteady.met_of_begins_hard hsound hbegins (hbuilt.sound.edge_leader hl))
  · obtain ⟨l, hl, hmet⟩ := hsteady.met_of_reflects hsound hreflects
    exact hled hl hmet
  · exact hled hl (hsteady.met_of_begins hsound hbegins)

/-- An element that another one depends on, both to be deleted, and an action that changes it. -/
def drained (kind : ChangeKind) (check : Option CallbackId) : Deployment :=
  let below : Element := { id := "x", component := "x" }
  let above : Element :=
    { id := "y", component := "y", relation := fun _ => some (.dependsOn "y" ["x"]), check }
  { goal := .destroyed
    deleted := [below, above]
    actions := [⟨kind, "drain x", [⟨kind, below, "drain x"⟩], 0⟩] }

theorem plain_drained (kind : ChangeKind) (check : Option CallbackId) :
    Plain (drained kind check) := by
  intro e he g r hr
  simp only [drained, Deployment.mentioned, Deployment.present, Deployment.allActions,
    List.nil_append, List.flatten_nil, List.append_nil, List.flatMap_cons, List.flatMap_nil,
    List.map_cons, List.map_nil, List.mem_append, List.mem_cons, List.not_mem_nil, or_false] at he
  rcases he with (rfl | rfl) | rfl
  · cases hr
  · exact ⟨["x"], (Option.some.inj hr).symm⟩
  · cases hr

/-- An action that deletes the element waits for its dependent. -/
theorem destroys_drained_in_order : ∃ q status,
    replay (drained .delete none) true [.spawn, .resume 0, .spawn, .resume 1] = some q ∧
      q.Begins 2 status ∧ status 1 = .destroyed := by
  obtain ⟨q, hq, htask⟩ : ∃ q,
      replay (drained .delete none) true [.spawn, .resume 0, .spawn, .resume 1] = some q ∧
        q.task? 1 = some ⟨1, 2, .paused (.body 0)⟩ :=
    ⟨_, rfl, rfl⟩
  have hplan : (drained .delete none).plan = .ok (planned (drained .delete none)) := rfl
  have hbegins : q.Begins 2 q.shared.tracker.status := .inr ⟨⟨1, _, 0, htask, rfl, rfl⟩, rfl⟩
  have hxy : Dependent (planned (drained .delete none)) 0 1 :=
    ⟨_, _, rfl, rfl, rfl, _, _, _, rfl, rfl, rfl, rfl, by decide⟩
  have hled : (planned (drained .delete none)).leader? 0 = some 2 := rfl
  refine ⟨q, _, hq, hbegins, destroys_in_order hplan (reachable_of_replay hq)
    (plain_drained .delete none) hxy (fun l nl hl hnl => ?_) (.inr (.inr ⟨2, hled, hbegins⟩))⟩
  obtain rfl := Option.some.inj (hled.symm.trans hl)
  rw [← Option.some.inj hnl]
  rfl

/-- An action that only modifies the element does not wait: its body is under way although the
dependent of the element has failed. -/
theorem modify_overtakes_dependent : ∃ p q, (drained .modify (some 0)).plan = .ok p ∧
    p.check = .ok () ∧ Plain (drained .modify (some 0)) ∧ Dependent p 0 1 ∧
    p.leader? 0 = some 2 ∧ Reachable gate none (.first p none false true #[]) q ∧
    q.InBody 2 ∧ q.shared.tracker.status 1 = .failed := by
  obtain ⟨q, hq, htask, hfailed⟩ : ∃ q, replay (drained .modify (some 0)) true [.spawn, .resume 0,
      .answerCheck 0 (.reply (.error (.text "stuck" none))), .collect, .spawn, .resume 1] =
        some q ∧ q.task? 1 = some ⟨1, 2, .paused (.body 0)⟩ ∧
      q.shared.tracker.status 1 = .failed :=
    ⟨_, rfl, rfl, rfl⟩
  have hxy : Dependent (planned (drained .modify (some 0))) 0 1 :=
    ⟨_, _, rfl, rfl, rfl, _, _, _, rfl, rfl, rfl, rfl, by decide⟩
  exact ⟨planned (drained .modify (some 0)), q, rfl, rfl, plain_drained .modify (some 0), hxy, rfl,
    reachable_of_replay hq, ⟨1, _, 0, htask, rfl, rfl⟩, hfailed⟩

end Rollout.Engine
