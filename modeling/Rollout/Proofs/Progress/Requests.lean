import Mathlib.Data.List.Count
import Rollout.Proofs.Engine.Claim
import Rollout.Proofs.Plan.Remainder

/-!
# Requests for evaluation

A pass evaluates a node as often as it is queued, and a node is queued again whenever one of its
dependencies turns final.  But a node turns final only once, and the live graph only shrinks, so
that an edge is good for one request at most.  `Ledger.demand` counts the requests there are and
those that may still come, and `Thrifty` says that an evaluation asks for no more than that,
whatever state the pass began with and whatever the tracker has been told.
-/

namespace Rollout.Engine

open Rollout.Plan

variable {ω α β : Type} {p : Plan} {s s' s'' : State ω} {n m f : NodeId} {node : Node}
  {status status' : NodeStatus} {error : Option Fault} {description : Option String}

/-! ## Counting requests -/

/-- Whose requests are counted, and which nodes may still turn final. -/
structure Ledger where
  who : NodeId → Bool
  due : NodeId → Bool

/-- All requests are counted, and any node may turn final. -/
def Ledger.full : Ledger := ⟨fun _ => true, fun _ => true⟩

theorem countP_full_who (ns : List NodeId) : ns.countP Ledger.full.who = ns.length :=
  congrFun List.countP_true ns

/-- The edge may still lead to a request: it will when the node that it reaches turns final. -/
def Ledger.pending (l : Ledger) (s : State ω) (e : NodeId × NodeId) : Bool :=
  l.who e.1 && (l.due e.2 && !s.tracker.isFinal e.2)

/-- The requests there are, and those that may still come. -/
def Ledger.demand (l : Ledger) (s : State ω) : ℕ :=
  s.queue.countP l.who + s.plan.graph.edges.countP (l.pending s)

variable {l : Ledger}

/-! ## Recording -/

/-- What is recorded of a node decides whether that node is final, and it says nothing of others. -/
theorem isFinal_turned (hn : s.tracker.knows n) (m : NodeId) :
    (s.turned n status error description).tracker.isFinal m =
      if m = n then status.isFinal else s.tracker.isFinal m := by
  have hstatus : (s.turned n status error description).tracker.status m = _ :=
    Tracker.status_set hn status error description m
  unfold Tracker.isFinal
  rw [hstatus]
  split <;> rfl

theorem knows_turned_iff (hn : s.tracker.knows n) :
    (s.turned n status error description).tracker.knows m ↔ s.tracker.knows m := by
  obtain ⟨e, he, -⟩ := Tracker.lookup?_set hn status error description m
  have hlookup : (s.turned n status error description).tracker.lookup? m = _ := he
  unfold Tracker.knows
  rw [hlookup]
  by_cases hm : m = n
  · subst hm
    rw [if_pos rfl]
    exact ⟨fun _ => hn, fun _ => ⟨e, rfl⟩⟩
  · rw [if_neg hm]

/-- A transition is recorded, or it changes nothing but the log. -/
theorem run_transition_cases (n : NodeId) (status : NodeStatus) (error : Option Fault)
    (description : Option String) (s : State ω) :
    (s.stopped = false ∧ s.tracker.knows n ∧ (transition n status error description).run.run s =
        (.ok true, s.turned n status error description)) ∨
      (∃ log, (transition n status error description).run.run s = (.ok false, { s with log })) ∧
        (s.stopped = false → s.tracker.knows n → s.tracker.status n = status) := by
  rw [run_transition]
  by_cases hstop : s.stopped = true
  · refine .inr ⟨⟨s.log, if_pos hstop⟩, fun hgoes => ?_⟩
    rw [hstop] at hgoes
    cases hgoes
  rw [if_neg hstop]
  by_cases hn : s.tracker.knows n
  · by_cases hsame : s.tracker.status n = status ∧ error = none
    · obtain ⟨e, he⟩ := hn
      have hset : s.tracker.set n status error description = (false, s.tracker) := by
        unfold Tracker.set
        rw [Tracker.status_of_entry he] at hsame
        rw [he]
        simp only [if_pos hsame]
      refine .inr ⟨⟨(s.turned n status error description).log, ?_⟩, fun _ _ => hsame.1⟩
      unfold State.turned
      rw [hset]
      rfl
    · refine .inl ⟨by simpa using hstop, hn, ?_⟩
      rw [Tracker.set_fst hn, decide_eq_false hsame]
      rfl
  · have hset := set_of_unknown hn status error description
    refine .inr ⟨⟨(s.turned n status error description).log, ?_⟩, fun _ h => absurd h hn⟩
    unfold State.turned
    rw [hset]
    rfl

/-- The requests that a node leads to when it turns final. -/
def Ledger.owed (l : Ledger) (s : State ω) (n : NodeId) (status : NodeStatus) : ℕ :=
  if status.isFinal then (s.plan.graph.predecessors n).countP l.who else 0

/-- A node that turns final leaves behind what its edges were good for. -/
theorem demand_turned (hs : s.plan.graph.Coherent) (hnot : s.tracker.isFinal n = false)
    (hn : s.tracker.knows n) (hdue : status.isFinal = true → l.due n = true) :
    l.demand (s.turned n status error description) + l.owed s n status ≤ l.demand s := by
  have hothers : ∀ m, m ≠ n → (s.turned n status error description).tracker.isFinal m =
      s.tracker.isFinal m := fun m hm => by rw [isFinal_turned hn, if_neg hm]
  have hself : (s.turned n status error description).tracker.isFinal n = status.isFinal := by
    rw [isFinal_turned hn, if_pos rfl]
  have hsplit : s.plan.graph.edges.countP (l.pending (s.turned n status error description)) +
      l.owed s n status = s.plan.graph.edges.countP (l.pending s) := by
    unfold Ledger.owed
    -- Only the edges to `n` lose their worth, and only if `n` turns final.
    cases hfinal : status.isFinal with
    | false =>
      simp only [Bool.false_eq_true, if_false, Nat.add_zero]
      refine List.countP_congr fun e _ => ?_
      unfold Ledger.pending
      by_cases he : e.2 = n
      · rw [he, hself, hfinal, hnot]
      · rw [hothers _ he]
    | true =>
      simp only [if_true]
      rw [← hs.countP_edges_to, List.countP_eq_countP_filter_add s.plan.graph.edges (l.pending s)
        (fun e => e.2 != n), List.countP_filter, List.countP_filter]
      congr 1 <;>
      · refine List.countP_congr fun e _ => ?_
        unfold Ledger.pending
        by_cases he : e.2 = n
        · simp [he, hself, hfinal, hnot, hdue hfinal]
        · simp [he, hothers _ he]
  show s.queue.countP l.who + s.plan.graph.edges.countP
      (l.pending (s.turned n status error description)) + l.owed s n status ≤
    s.queue.countP l.who + s.plan.graph.edges.countP (l.pending s)
  omega

/-- The edges are worth what is asked for then. -/
theorem demand_signalled (s : State ω) (n : NodeId) (status : NodeStatus) :
    l.demand (s.signalled n status) = l.demand s + l.owed s n status := by
  unfold Ledger.demand Ledger.owed State.signalled
  cases status.isFinal with
  | false => rfl
  | true =>
    simp only [if_true, List.countP_append]
    have hpending : l.pending { s with queue := s.queue ++ s.plan.graph.predecessors n } =
        l.pending s := rfl
    rw [hpending]
    omega

/-! ## What an evaluation may ask for -/

/-- The node is in the live graph, and not final. -/
def AtWork (n : NodeId) (s : State ω) : Prop :=
  s.plan.isLive n = true ∧ s.tracker.isFinal n = false

/-- If the tracker knows the node then it is in the live graph, and not final. -/
def Active (n : NodeId) (s : State ω) : Prop := s.tracker.knows n → AtWork n s

/-- If the tracker knows the node then it is in the live graph, or final. -/
def Evaluable (n : NodeId) (s : State ω) : Prop :=
  s.tracker.knows n → s.plan.isLive n = true ∨ s.tracker.isFinal n = true

/-- If the tracker knows the node then it is at work, and whoever leads it is final or has left the
live graph. -/
structure Unblocked (p : Plan) (n : NodeId) (s : State ω) : Prop where
  active : Active n s
  leader : s.tracker.knows n → ∀ m, n ∈ p.followersOf m → s.plan.isLive m = true →
    s.tracker.isFinal m = true

/-- What the evaluation of `n` may make of the shared state: it asks for no more evaluations than
there may be, and whoever turns final is `n` or a follower of `n`. -/
structure Thrifty (l : Ledger) (p : Plan) (n : NodeId) (s s' : State ω) : Prop where
  left : s.plan.Remainder s'.plan
  stopped : s'.stopped = s.stopped
  knows : ∀ {m}, s'.tracker.knows m ↔ s.tracker.knows m
  final : ∀ {m}, s.tracker.isFinal m = true → s'.tracker.isFinal m = true
  others : ∀ {m}, s'.tracker.isFinal m = true →
    s.tracker.isFinal m = true ∨ s.tracker.knows n ∧ (m = n ∨ m ∈ p.followersOf n)
  kept : ∀ {m}, m ≠ n → s.plan.isLive m = true → s'.plan.isLive m = true
  queued : ∀ {a}, a ∈ s'.queue → a ∈ s.queue ∨ s.plan.isLive a = true
  demand : (∀ m, s'.tracker.isFinal m = true → s.tracker.isFinal m = true ∨ l.due m = true) →
    l.demand s' ≤ l.demand s

namespace Thrifty

/-- What is of account here has not changed. -/
theorem of_same (hplan : s'.plan = s.plan) (hstopped : s'.stopped = s.stopped)
    (hqueue : s'.queue = s.queue) (hknows : ∀ {m}, s'.tracker.knows m ↔ s.tracker.knows m)
    (hstatus : ∀ m, s'.tracker.status m = s.tracker.status m) : Thrifty l p n s s' := by
  have hfinal : s'.tracker.isFinal = s.tracker.isFinal :=
    funext fun m => congrArg NodeStatus.isFinal (hstatus m)
  refine ⟨by rw [hplan]; exact .whole, hstopped, hknows, by rw [hfinal]; exact id,
    by rw [hfinal]; exact .inl, fun _ hm => by rw [hplan]; exact hm,
    by rw [hqueue]; exact .inl, fun _ => ?_⟩
  unfold Ledger.demand Ledger.pending
  rw [hplan, hqueue, hfinal]

theorem refl (s : State ω) : Thrifty l p n s s := of_same rfl rfl rfl .rfl fun _ => rfl

theorem trans (hs : s.plan.graph.Coherent) (h : Thrifty l p n s s')
    (h' : Thrifty l p n s' s'') : Thrifty l p n s s'' where
  left := h.left.trans h'.left
  stopped := h'.stopped.trans h.stopped
  knows := h'.knows.trans h.knows
  final hm := h'.final (h.final hm)
  others hm := (h'.others hm).elim h.others fun hn => .inr (hn.imp_left h.knows.1)
  kept hm hlive := h'.kept hm (h.kept hm hlive)
  queued ha := (h'.queued ha).elim h.queued fun hlive => .inr (h.left.isLive_of_isLive hs hlive)
  demand hdue :=
    Nat.le_trans (h'.demand fun m hm => (hdue m hm).imp_left h.final)
      (h.demand fun m hm => hdue m (h'.final hm))

end Thrifty

/-- A node has taken a status, and whoever is affected may have been told. -/
structure Announced (l : Ledger) (p : Plan) (n : NodeId) (status : NodeStatus) (s s' : State ω) :
    Prop extends Thrifty l p n s s' where
  plan : s'.plan = s.plan
  quiet : status.isFinal = false → ∀ m, s'.tracker.isFinal m = s.tracker.isFinal m

theorem Announced.refl (s : State ω) : Announced l p n status s s := ⟨.refl s, rfl, fun _ _ => rfl⟩

theorem Announced.trans (hs : s.plan.graph.Coherent) (h : Announced l p n status s s')
    (h' : Announced l p n status s' s'') : Announced l p n status s s'' where
  toThrifty := h.toThrifty.trans hs h'.toThrifty
  plan := h'.plan.trans h.plan
  quiet hq m := (h'.quiet hq m).trans (h.quiet hq m)

theorem announced_log (s : State ω) (log : Array Log.Event) :
    Announced l p n status s { s with log } :=
  ⟨.of_same rfl rfl rfl .rfl fun _ => rfl, rfl, fun _ _ => rfl⟩

/-- To record a status that an open node takes asks for nothing. -/
theorem announced_turned (hs : s.plan.graph.Coherent) (hf : f = n ∨ f ∈ p.followersOf n)
    (hn : s.tracker.knows n) (hknown : s.tracker.knows f) (hnot : s.tracker.isFinal f = false) :
    Announced l p n status s (s.turned f status error description) where
  left := .whole
  stopped := rfl
  knows := knows_turned_iff hknown
  final {m} hm := by
    have hne : m ≠ f := by
      rintro rfl
      rw [hnot] at hm
      cases hm
    rwa [isFinal_turned hknown, if_neg hne]
  others {m} hm := by
    by_cases hmf : m = f
    · exact .inr ⟨hn, hmf ▸ hf⟩
    · rw [isFinal_turned hknown, if_neg hmf] at hm
      exact .inl hm
  kept _ := id
  queued := .inl
  demand hdue := by
    have hturned : l.demand (s.turned f status error description) + l.owed s f status ≤
        l.demand s := by
      refine demand_turned hs hnot hknown fun hfinal => ?_
      refine (hdue f ?_).resolve_left (by rw [hnot]; exact nofun)
      rw [isFinal_turned hknown, if_pos rfl, hfinal]
    omega
  plan := rfl
  quiet hquiet m := by
    rw [isFinal_turned hknown]
    split
    next hm => rw [hm, hnot, hquiet]
    next => rfl

/-- A node that turns final pays for the requests that it leads to, whatever is announced in
between. -/
theorem Announced.signalled (hs : s.plan.graph.Coherent) (hf : f = n ∨ f ∈ p.followersOf n)
    (hn : s.tracker.knows n) (hknown : s.tracker.knows f) (hnot : s.tracker.isFinal f = false)
    (h : Announced l p n status' (s.turned f status error description) s')
    (hstatus : status.isFinal = false → status'.isFinal = false) :
    Announced l p n status s (s'.signalled f status) := by
  -- What is owed since `f` turned final is still owed when its dependents are queued, for nothing
  -- in between touches the plan.
  have hturned : Announced l p n status s (s.turned f status error description) :=
    announced_turned hs hf hn hknown hnot
  have hall := hturned.toThrifty.trans hs h.toThrifty
  have hplan : (s'.signalled f status).plan = s.plan := (signalled_plan ..).trans h.plan
  refine ⟨⟨by rw [hplan]; exact .whole, (signalled_stopped ..).trans hall.stopped, ?_, ?_, ?_,
    fun _ hm => by rw [hplan]; exact hm, fun {a} ha => ?_, fun hdue => ?_⟩, hplan, fun hq m => ?_⟩
  · rw [signalled_tracker]
    exact hall.knows
  · rw [signalled_tracker]
    exact hall.final
  · rw [signalled_tracker]
    exact hall.others
  · -- whoever is queued now depends on `f` in the live graph
    unfold State.signalled at ha
    split at ha
    · refine (List.mem_append.1 ha).elim hall.queued fun ha => .inr ?_
      have ha : a ∈ s'.plan.graph.predecessors f := ha
      rw [h.plan] at ha
      exact Digraph.contains_of_mem_successors (hs.mem_predecessors.1 ha)
    · exact hall.queued ha
  · rw [signalled_tracker] at hdue
    rw [demand_signalled]
    have hpaid : l.demand (s.turned f status error description) + l.owed s f status ≤
        l.demand s := by
      refine demand_turned hs hnot hknown fun hfinal => ?_
      refine (hdue f (h.final ?_)).resolve_left (by rw [hnot]; exact nofun)
      rw [isFinal_turned hknown, if_pos rfl, hfinal]
    have hrest := h.demand fun m hm => (hdue m hm).imp_left hturned.final
    have howed : l.owed s' f status = l.owed s f status := by
      unfold Ledger.owed
      rw [h.plan]
      rfl
    omega
  · rw [signalled_tracker, h.quiet (hstatus hq), hturned.quiet hq]

/-! ## Telling whoever is affected -/

/-- The dependents of a node are queued, unless the node has left the live graph. -/
theorem run_signalDependents_cases (n : NodeId) (status : NodeStatus) (s : State ω) :
    (signalDependents n status).run.run s = (.ok (), s.signalled n status) ∨
      s.plan.isLive n = false ∧
        ∃ e, (signalDependents n status).run.run s = (.error e, s) := by
  cases hlive : s.plan.isLive n with
  | true => exact .inl (run_signalDependents hlive status)
  | false =>
    unfold signalDependents
    cases hfinal : status.isFinal with
    | false =>
      refine .inl ?_
      unfold State.signalled
      rw [hfinal]
      rfl
    | true =>
      refine .inr ⟨rfl, ?_⟩
      rw [if_pos rfl, run_get_bind]
      unfold Plan.predecessors Plan.ensureLive
      rw [hlive]
      exact ⟨_, rfl⟩

theorem isFinal_reflected (h : reflected? status = some status') :
    status'.isFinal = status.isFinal := by
  cases status <;> cases h <;> rfl

/-- To pass a status on to the elements that an action acts for asks for no more than their turning
final is worth. -/
theorem announced_reflect (hp : p.graph.Coherent) (status : NodeStatus) (error : Option Fault)
    (as : List ActingFor)
    (has : ∀ a ∈ as, ∃ f ∈ p.followersOf n, p.nodeOf? a.element = some f) (s : State ω)
    (hs : p.Remainder s.plan) (hn : s.tracker.knows n) :
    Announced l p n status s ((reflect status error as).run.run s).2 := by
  -- By induction on the elements acted for; each is open or final already when its turn comes.
  induction as generalizing s with
  | nil => exact .refl s
  | cons a as ih =>
    have hcoherent := hs.coherent hp
    have hrest : ∀ s₁, Announced l p n status s s₁ →
        Announced l p n status s ((reflect status error as).run.run s₁).2 := by
      intro s₁ h₁
      refine h₁.trans hcoherent (ih (fun b hb => has b (List.mem_cons_of_mem a hb)) s₁ ?_ ?_)
      · rw [h₁.plan]
        exact hs
      · exact h₁.knows.2 hn
    obtain ⟨f, hfollower, hnode⟩ := has a List.mem_cons_self
    rw [← hs.nodeOf?_eq] at hnode
    cases hfinal : s.tracker.isFinal f with
    | true =>
      rw [run_reflect_of_final hnode hfinal]
      exact hrest s (.refl s)
    | false =>
      rw [reflect, run_get_bind, hnode]
      simp only
      rw [run_get_bind, hfinal]
      simp only [Bool.false_eq_true, if_false]
      rcases run_transition_cases f status error (some a.detail) s with
        ⟨-, hknown, hrun⟩ | ⟨⟨log, hrun⟩, -⟩
      · rw [run_bind_ok hrun]
        simp only [if_true]
        have hturned : Announced l p n status s (s.turned f status error (some a.detail)) :=
          announced_turned hcoherent (.inr hfollower) hn hknown hfinal
        rcases run_signalDependents_cases f status (s.turned f status error (some a.detail)) with
          hsignal | ⟨-, e, hsignal⟩
        · rw [run_bind_ok hsignal]
          exact hrest _ (.signalled hcoherent (.inr hfollower) hn hknown hfinal
            (Announced.refl _) id)
        · rw [run_bind_error hsignal]
          exact hturned
      · rw [run_bind_ok hrun]
        exact hrest _ (announced_log s log)

/-- What was announced for a reflected status is announced for the status itself. -/
theorem Announced.of_reflected (h : Announced l p n status' s s')
    (hstatus : status'.isFinal = status.isFinal) : Announced l p n status s s' :=
  ⟨h.toThrifty, h.plan, fun hq => h.quiet (hstatus.trans hq)⟩

/-- An update leaves a node final that is given a final status before the deadline. -/
theorem announced_update (hp : p.Runnable) (hs : p.Remainder s.plan)
    (hnode : p.nodes[n]? = some node) (h : Active n s) (status : NodeStatus)
    (error : Option Fault) :
    Announced l p n status s ((update n status error).run.run s).2 ∧
      (s.stopped = false → s.tracker.knows n → status.isFinal = true →
        ((update n status error).run.run s).2.tracker.isFinal n = true) := by
  have hcoherent := hs.coherent hp.coherent
  unfold update
  rcases run_transition_cases n status error none s with
    ⟨-, hn, hrun⟩ | ⟨⟨log, hrun⟩, hsame⟩
  · rw [run_bind_ok hrun]
    simp only [if_true]
    have hnot := (h hn).2
    have hturned : Announced l p n status s (s.turned n status error none) :=
      announced_turned hcoherent (.inl rfl) hn hn hnot
    -- Whatever is announced after it, the node stays final.
    have hdone : ∀ {s'}, Thrifty l p n (s.turned n status error none) s' →
        s.stopped = false → s.tracker.knows n → status.isFinal = true →
        s'.tracker.isFinal n = true := fun hrest _ _ hfinal =>
      hrest.final (by rw [isFinal_turned hn, if_pos rfl, hfinal])
    have hsignal : ∀ s₁, Announced l p n status (s.turned n status error none) s₁ →
        Announced l p n status s ((signalDependents n status).run.run s₁).2 ∧
          (s.stopped = false → s.tracker.knows n → status.isFinal = true →
            ((signalDependents n status).run.run s₁).2.tracker.isFinal n = true) := by
      intro s₁ h₁
      rcases run_signalDependents_cases n status s₁ with hrun | ⟨-, e, hrun⟩
      · rw [hrun]
        refine ⟨.signalled hcoherent (.inl rfl) hn hn hnot h₁ id, ?_⟩
        rw [signalled_tracker]
        exact hdone h₁.toThrifty
      · rw [hrun]
        exact ⟨hturned.trans hcoherent h₁, hdone h₁.toThrifty⟩
    cases hreflected : reflected? status with
    | none => exact hsignal _ (.refl _)
    | some status' =>
      have hfound : (nodeOf n).run.run (s.turned n status error none) =
          (.ok node, s.turned n status error none) :=
        (run_nodeOf n _).trans (congrArg (·, _) (node_eq_ok_iff.2 (hs.nodes_eq ▸ hnode)))
      have hreflect : Announced l p n status (s.turned n status error none)
          ((reflect status' error node.actsFor).run.run (s.turned n status error none)).2 :=
        (announced_reflect hp.coherent status' error node.actsFor
          (fun a ha => hp.acts_for_follower hnode ha) (s.turned n status error none) hs
          ((knows_turned_iff hn).2 hn)).of_reflected (isFinal_reflected hreflected)
      simp only
      rw [run_bind_ok hfound, run_bind]
      cases hrun : (reflect status' error node.actsFor).run.run (s.turned n status error none) with
      | mk r s₁ =>
        rw [hrun] at hreflect
        cases r with
        | error e => exact ⟨hturned.trans hcoherent hreflect, hdone hreflect.toThrifty⟩
        | ok u => exact hsignal s₁ hreflect
  · rw [run_bind_ok hrun]
    refine ⟨announced_log s log, fun hstop hn hfinal => ?_⟩
    show s.tracker.isFinal n = true
    unfold Tracker.isFinal
    rw [hsame hstop hn, hfinal]

/-- Nobody is in the way of an update that leads to a goal. -/
theorem run_update_goal (h : Active n s) (g : Goal) (error : Option Fault) :
    ((update n g.status error).run.run s).1 = .ok () := by
  unfold update
  rcases run_transition_cases n g.status error none s with
    ⟨-, hn, hrun⟩ | ⟨⟨log, hrun⟩, -⟩
  · rw [run_bind_ok hrun, reflected?_status]
    have hlive : (s.turned n g.status error none).plan.isLive n = true := (h hn).1
    exact congrArg Prod.fst (run_signalDependents hlive g.status)
  · rw [run_bind_ok hrun]
    rfl

/-! ## Looking at dependencies

None of it changes anything but the environment. -/

section Dependencies

variable {ask : Condition → ω → Readiness × ω}

/-- Nothing is said about the answer. -/
abbrev Looks (x : Eval ω α) : Prop := ∀ s, Peeks x s fun _ => True

theorem Looks.bind {x : Eval ω α} {g : α → Eval ω β} (hx : Looks x) (hg : ∀ a, Looks (g a)) :
    Looks (x >>= g) := by
  intro s
  have hfirst : Peeks x s fun r => ∀ a, r = .ok a → True := (hx s).mono fun _ _ _ _ => trivial
  exact hfirst.bind (fun a _ _ => hg a _) fun _ => trivial

theorem Looks.ite {c : Prop} [Decidable c] {x y : Eval ω α} (hx : Looks x) (hy : Looks y) :
    Looks (if c then x else y) := by
  split
  · exact hx
  · exact hy

theorem Looks.node_bind {g : Node → Eval ω β} (hg : ∀ node, Looks (g node)) :
    Looks (nodeOf n >>= g) := fun s => Peeks.node_bind (fun node _ => hg node s) fun _ => trivial

theorem looks_pure (a : α) : Looks (ω := ω) (pure a) := fun _ => .of_run rfl trivial

theorem looks_throw (e : Fault) : Looks (ω := ω) (throw e : Eval ω α) := fun _ =>
  .of_run rfl trivial

theorem looks_liftExcept (x : Except Fault α) : Looks (ω := ω) (liftM x) := fun s =>
  .of_run (run_liftExcept x s) trivial

theorem looks_relationReady (o : Option Relation) : Looks (relationReady ask o) := fun _ =>
  .relationReady ask (fun _ => trivial) fun _ _ _ _ _ => trivial

theorem looks_inversesReady (ds : List NodeId) : Looks (inversesReady ask ds) := by
  induction ds with
  | nil => exact looks_pure _
  | cons d ds ih =>
    unfold inversesReady
    refine .node_bind fun node => (looks_relationReady _).bind fun ready => ?_
    exact .ite ih (looks_pure _)

theorem looks_softReady (node : Node) : Looks (softReady ask node) := by
  unfold softReady
  cases node.goal with
  | deployed => exact looks_relationReady _
  | destroyed =>
    exact fun s => .get_bind (((looks_liftExcept _).bind fun ds => looks_inversesReady ds) s)

theorem looks_followersReady (fs : List NodeId) : Looks (followersReady ask fs) := by
  induction fs with
  | nil => exact looks_pure _
  | cons f fs ih =>
    intro s
    unfold followersReady
    refine .get_bind (Looks.node_bind (fun node => ?_) s)
    refine .ite ((looks_softReady node).bind fun ready => .ite ih (looks_pure _)) ?_
    exact (looks_throw _).bind fun _ =>
      (looks_softReady node).bind fun ready => .ite ih (looks_pure _)

/-- Hard dependencies are ready only if all of them are final. -/
theorem peeks_hardReady_final (hids : Numbered s) (ds : List NodeId) (world : ω) :
    Peeks (hardReady ds) { s with world } (Tells (∀ d ∈ ds, s.tracker.isFinal d = true) True) := by
  induction ds generalizing world with
  | nil => exact .of_run rfl (.of_yes nofun)
  | cons d ds ih =>
    unfold hardReady
    refine .node_bind (fun node hnode => .get_bind ?_) .of_error
    obtain rfl : node.id = d := hids hnode
    have hhere : Peeks (liftM (s.tracker.hasReached node.id node.goal node.label) : Eval ω Bool)
        { s with world } (Tells (s.tracker.isFinal node.id = true) True) := by
      refine .of_run (run_liftExcept _ _) ⟨fun hr => ?_, fun _ => trivial⟩
      unfold Tracker.isFinal
      rw [Tracker.hasReached_eq_ok_true.1 hr]
      exact Goal.isFinal_status _
    refine hhere.tells_bind (fun here world' hb => ?_) .of_error
    refine (ih world').tells_bind (fun rest world'' hr => ?_) .of_error
    refine .of_run rfl ⟨fun hand => ?_, fun _ => trivial⟩
    simp only [Except.ok.injEq, Bool.and_eq_true] at hand
    obtain ⟨rfl, rfl⟩ := hand
    exact List.forall_mem_cons.2 ⟨hb.1 rfl, hr.1 rfl⟩

/-- A node whose dependencies are met has only final ones among the hard ones. -/
theorem peeks_dependenciesMet_final (hids : Numbered s) (node : Node) :
    Peeks (dependenciesMet ask node) s
      (Tells (∀ d ∈ s.plan.hardDependencies node.id, s.tracker.isFinal d = true) True) := by
  unfold dependenciesMet
  refine .get_bind ?_
  refine (peeks_hardReady_final hids _ s.world).tells_bind (fun hard world hb => ?_) .of_error
  cases hard with
  | false => exact .of_run rfl (.of_no trivial)
  | true =>
    have hrest : Looks (do
        if ← softReady ask node then followersReady ask (s.plan.followersOf node.id)
        else return false) :=
      (looks_softReady node).bind fun soft => .ite (looks_followersReady _) (looks_pure _)
    exact (hrest _).mono fun _ _ => ⟨fun _ => hb.1 rfl, fun _ => trivial⟩

end Dependencies

/-! ## Computations -/

/-- Begun in a state in which `P` holds, the computation asks for no more than it may, and ends in a
state in which `Q` holds. -/
def Manages (l : Ledger) (p : Plan) (n : NodeId) (P : State ω → Prop) (x : Eval ω α)
    (Q : Except Fault α → State ω → Prop) : Prop :=
  ∀ s, p.Remainder s.plan → P s →
    Thrifty l p n s (x.run.run s).2 ∧ Q (x.run.run s).1 (x.run.run s).2

/-- How things stand with the node after a part of its evaluation. -/
def Standing (p : Plan) (n : NodeId) : Except Fault (Option Pause) → State ω → Prop
  | .error _, s => Active n s
  | .ok none, s => Evaluable n s
  | .ok (some _), s => Unblocked p n s

theorem Active.evaluable (h : Active n s) : Evaluable n s := fun hn => .inl (h hn).1

namespace Manages

variable {P P' : State ω → Prop} {Q : Except Fault α → State ω → Prop}

theorem of_run {x : Eval ω α} {r : Except Fault α} (hx : ∀ s, x.run.run s = (r, s))
    (hQ : ∀ s, P s → Q r s) : Manages l p n P x Q := by
  intro s _ hs
  rw [hx]
  exact ⟨.refl s, hQ s hs⟩

theorem get_bind {g : State ω → Eval ω α} (hg : ∀ st, Manages l p n P (g st) Q) :
    Manages l p n P (get >>= g) Q := fun s => hg s s

theorem ite {c : Prop} [Decidable c] {x y : Eval ω α} (hx : Manages l p n P x Q)
    (hy : Manages l p n P y Q) : Manages l p n P (if c then x else y) Q := by
  split
  · exact hx
  · exact hy

theorem bind (hp : p.graph.Coherent) {x : Eval ω β} {g : β → Eval ω α}
    {R : Except Fault β → State ω → Prop} (hx : Manages l p n P x R)
    (hg : ∀ b, Manages l p n (R (.ok b)) (g b) Q) (herr : ∀ e s, R (.error e) s → Q (.error e) s) :
    Manages l p n P (x >>= g) Q := by
  intro s hs hP
  obtain ⟨hfirst, hR⟩ := hx s hs hP
  rw [run_bind]
  cases hrun : x.run.run s with
  | mk r s₁ =>
    rw [hrun] at hfirst hR
    cases r with
    | error e => exact ⟨hfirst, herr e s₁ hR⟩
    | ok b =>
      obtain ⟨hrest, hQ⟩ := hg b s₁ (hs.trans hfirst.left) hR
      exact ⟨hfirst.trans (hs.coherent hp) hrest, hQ⟩

end Manages

/-! ## Segments -/

/-- A node that completes turns final before it leaves the live graph. -/
theorem manages_complete (hp : p.Runnable) (hnode : p.nodes[node.id]? = some node) :
    Manages (ω := ω) l p node.id (Active node.id) (complete node) (Standing p node.id) := by
  intro s hs hactive
  unfold complete
  rw [run_get_bind]
  by_cases hstop : s.stopped = true
  · rw [if_pos hstop]
    exact ⟨.refl s, hactive.evaluable⟩
  rw [if_neg hstop]
  obtain ⟨hannounced, hdone⟩ := announced_update (l := l) hp hs hnode hactive node.goal.status none
  have hok := run_update_goal hactive node.goal none
  cases hrun : (update node.id node.goal.status none).run.run s with
  | mk r s₁ =>
    rw [hrun] at hannounced hdone hok
    obtain rfl : r = .ok () := hok
    have hcoherent : s₁.plan.graph.Coherent := hannounced.plan ▸ hs.coherent hp.coherent
    rw [run_bind_ok hrun, run_get_bind, run_bind, run_liftExcept]
    cases hremove : s₁.plan.removeNode node.id with
    | error e =>
      refine ⟨hannounced.toThrifty, fun hn => ?_⟩
      -- A node that the tracker knows would have been live.
      have hlive := (hactive (hannounced.knows.1 hn)).1
      rw [← hannounced.plan] at hlive
      rw [removeNode_eq_ok hlive] at hremove
      cases hremove
    | ok plan =>
      obtain ⟨-, hplan⟩ := removeNode_eq hremove
      have hleft : s₁.plan.Remainder plan := .without .whole hremove
      have hremoved : Thrifty l p node.id s₁ { s₁ with plan } := by
        refine ⟨hleft, rfl, .rfl, id, .inl, fun {m} hm hlive => ?_, .inl, fun _ => ?_⟩
        · subst hplan
          show (s₁.plan.graph.removeNode node.id).contains m = true
          rw [hcoherent.toTidy.contains_removeNode, Bool.and_eq_true, bne_iff_ne]
          exact ⟨hlive, hm⟩
        · exact Nat.add_le_add_left (hleft.countP_edges_le hcoherent _) _
      refine ⟨hannounced.toThrifty.trans (hs.coherent hp.coherent) hremoved, fun hn => .inr ?_⟩
      exact hdone (by simpa using hstop) (hannounced.knows.1 hn) (Goal.isFinal_status _)

theorem manages_inspect (hp : p.Runnable) (hnode : p.nodes[node.id]? = some node) :
    Manages (ω := ω) l p node.id (Unblocked p node.id) (inspect node) (Standing p node.id) := by
  unfold inspect
  cases node.criteria?.bind (·.check) with
  | none => exact fun s hs h => manages_complete hp hnode s hs h.active
  | some c => exact .of_run (fun _ => rfl) fun _ h => h

theorem manages_afterBody (hp : p.Runnable) (hnode : p.nodes[node.id]? = some node) :
    Manages (ω := ω) l p node.id (Unblocked p node.id) (afterBody node) (Standing p node.id) := by
  unfold afterBody
  exact .get_bind fun _ =>
    .ite (.of_run (fun _ => rfl) fun _ h => h.active.evaluable) (manages_inspect hp hnode)

theorem manages_startBody (hp : p.Runnable) (hnode : p.nodes[node.id]? = some node)
    (body : CallbackId) : Manages (ω := ω) l p node.id (Unblocked p node.id)
      (startBody node body) (Standing p node.id) := by
  intro s hs h
  rcases run_startBody_cases node body s with ⟨-, hrun⟩ | ⟨-, log, hrun⟩
  · rw [hrun]
    exact manages_afterBody hp hnode s hs h
  · have hclaimed : Thrifty l p node.id s { s with started := node.id :: s.started, log } :=
      .of_same rfl rfl rfl .rfl fun _ => rfl
    have hgo : Manages (ω := ω) l p node.id (Unblocked p node.id)
        (if s.dryRun then afterBody node else pure (some (.body body))) (Standing p node.id) :=
      .ite (manages_afterBody hp hnode) (.of_run (fun _ => rfl) fun _ h => h)
    rw [hrun]
    obtain ⟨hrest, hstanding⟩ :=
      hgo { s with started := node.id :: s.started, log } hs ⟨h.active, h.leader⟩
    exact ⟨hclaimed.trans (hs.coherent hp.coherent) hrest, hstanding⟩

theorem manages_enter (hp : p.Runnable) (hnode : p.nodes[node.id]? = some node) :
    Manages (ω := ω) l p node.id (Unblocked p node.id) (enter node) (Standing p node.id) := by
  unfold enter
  cases node.body? with
  | none => exact manages_inspect hp hnode
  | some body => exact manages_startBody hp hnode body

theorem manages_update_inProgress (hp : p.Runnable) (hnode : p.nodes[node.id]? = some node) :
    Manages (ω := ω) l p node.id (Unblocked p node.id)
      (update node.id node.goal.inProgress none) fun _ => Unblocked p node.id := by
  intro s hs h
  have hannounced := (announced_update (l := l) hp hs hnode h.active node.goal.inProgress none).1
  have hquiet := hannounced.quiet (Goal.isFinal_inProgress _)
  refine ⟨hannounced.toThrifty, fun hn => ?_, fun hn m hm hlive => ?_⟩
  · obtain ⟨hlive, hnot⟩ := h.active (hannounced.knows.1 hn)
    exact ⟨by rw [hannounced.plan]; exact hlive, by rw [hquiet]; exact hnot⟩
  · rw [hannounced.plan] at hlive
    rw [hquiet]
    exact h.leader (hannounced.knows.1 hn) m hm hlive

theorem numbered_of_remainder (hp : p.Runnable) (hs : p.Remainder s.plan) : Numbered s := by
  intro n node hnode
  rw [hs.nodes_eq] at hnode
  exact hp.id_eq hnode

/-- The first segment of an evaluation leaves its node in good standing. -/
theorem manages_start (hp : p.Runnable) (hnode : p.nodes[node.id]? = some node)
    (ask : Condition → ω → Readiness × ω) :
    Manages l p node.id (Active node.id) (start ask node) (Standing p node.id) := by
  have hgo : Manages (ω := ω) l p node.id (Unblocked p node.id)
      (do update node.id node.goal.inProgress none; enter node) (Standing p node.id) :=
    .bind hp.coherent (manages_update_inProgress hp hnode) (fun _ => manages_enter hp hnode)
      fun _ _ h => h.active
  intro s hs h
  unfold start
  rw [run_get_bind]
  simp only
  by_cases hfinal : (s.tracker.status node.id).isFinal = true
  · rw [if_pos hfinal]
    exact ⟨.refl s, h.evaluable⟩
  rw [if_neg hfinal]
  by_cases hactive : ((s.tracker.status node.id).isWaiting ||
      (s.tracker.status node.id).isInProgress) = true
  · rw [if_pos hactive]
    obtain ⟨r, world, hrun, hmet⟩ : Peeks (dependenciesMet ask node) s _ :=
      peeks_dependenciesMet_final (numbered_of_remainder hp hs) node
    have hasked : Thrifty l p node.id s { s with world } := .of_same rfl rfl rfl .rfl fun _ => rfl
    rw [run_bind, hrun]
    match r with
    | .error e => exact ⟨hasked, h⟩
    | .ok false => exact ⟨hasked, h.evaluable⟩
    | .ok true =>
      -- The leader is a hard dependency of its followers, and those are final.
      have hready : Unblocked p node.id { s with world } := by
        refine ⟨h, fun hn m hm hlive => hmet.1 rfl m ?_⟩
        have hedge := hp.edge_leader (hp.mem_followersOf.1 hm)
        rw [mem_hardDependencies (hs.coherent hp.coherent).toTidy, hs.edge?_iff hp.coherent]
        exact ⟨hedge, (h hn).1, hlive⟩
      obtain ⟨hrest, hstanding⟩ := hgo { s with world } hs hready
      exact ⟨hasked.trans (hs.coherent hp.coherent) hrest, hstanding⟩
  · rw [if_neg hactive]
    exact ⟨.refl s, h⟩

/-- When the body is over the node is inspected, unless the body has failed. -/
theorem manages_bodyEnded (hp : p.Runnable) (hnode : p.nodes[node.id]? = some node)
    (r : Except Failure Unit) : Manages (ω := ω) l p node.id (Unblocked p node.id)
      (bodyEnded node r) (Standing p node.id) := by
  cases r with
  | ok u => exact manages_afterBody hp hnode
  | error e =>
    intro s _ h
    obtain ⟨fault, log, hrun, -⟩ := run_bodyEnded_error node e s
    rw [hrun]
    exact ⟨.of_same rfl rfl rfl .rfl fun _ => rfl, h.active⟩

/-- A check that is ready completes the node, and one that is not leaves it to another pass. -/
theorem manages_checkAnswered (hp : p.Runnable) (hnode : p.nodes[node.id]? = some node)
    (r : Except Failure Readiness) : Manages (ω := ω) l p node.id (Unblocked p node.id)
      (checkAnswered node r) (Standing p node.id) := by
  match r with
  | .ok .ready => exact fun s hs h => manages_complete hp hnode s hs h.active
  | .ok (.waiting pending) =>
    intro s _ h
    refine ⟨.of_same rfl rfl rfl (Tracker.knows_addOutput ..) fun _ => Tracker.status_addOutput ..,
      fun hn => ?_⟩
    exact .inl (h.active ((Tracker.knows_addOutput ..).1 hn)).1
  | .error e => exact .of_run (fun _ => rfl) fun _ h => h.active

/-! ## Whole segments -/

/-- What a segment of the evaluation of `n` makes of the shared state. -/
structure Served (l : Ledger) (p : Plan) (n : NodeId) (s : State ω) (progress : Progress)
    (s' : State ω) : Prop extends Thrifty l p n s s' where
  evaluable : Evaluable n s'
  paused : ∀ pause, progress = .paused pause → Unblocked p n s'
  turned : ∀ {m}, s'.tracker.isFinal m = true →
    s.tracker.isFinal m = true ∨ AtWork n s ∧ (m = n ∨ m ∈ p.followersOf n)

namespace Served

variable {progress : Progress} (h : Served l p n s progress s')

include h

/-- Whoever could be evaluated before a segment can be evaluated after it. -/
theorem evaluable_of_evaluable (hm : Evaluable m s) : Evaluable m s' := by
  by_cases hmn : m = n
  · exact hmn ▸ h.evaluable
  · exact fun hknown => (hm (h.knows.1 hknown)).imp (h.kept hmn) h.final

/-- Whoever else has paused can go on.  A segment turns only followers final besides its own node,
and the leader of whoever has paused is final already. -/
theorem unblocked_of_unblocked (hp : p.Runnable) (hs : p.Remainder s.plan) (hne : f ≠ n)
    (hf : Unblocked p f s) : Unblocked p f s' where
  active hknown := by
    have hknown := h.knows.1 hknown
    obtain ⟨hlive, hnot⟩ := hf.active hknown
    refine ⟨h.kept hne hlive, ?_⟩
    by_contra hfinal
    rcases h.turned (by simpa using hfinal) with hbefore | ⟨⟨hlive', hnot'⟩, heq | hfollower⟩
    · rw [hnot] at hbefore
      cases hbefore
    · exact hne heq
    · rw [hf.leader hknown n hfollower hlive'] at hnot'
      cases hnot'
  leader hknown m hfollower hlive :=
    h.final (hf.leader (h.knows.1 hknown) m hfollower
      (h.left.isLive_of_isLive (hs.coherent hp.coherent) hlive))

end Served

theorem served_idle (h : Evaluable n s) (r : Except Fault Unit) :
    Served l p n s (.finished r) s :=
  ⟨.refl s, h, fun _ => nofun, .inl⟩

/-- A segment that manages serves its node, also where it fails and the failure is recorded. -/
theorem served_conclude (hp : p.Runnable) (hnode : p.nodes[node.id]? = some node)
    {segment : Eval ω (Option Pause)} {P : State ω → Prop}
    (hsegment : Manages l p node.id P segment (Standing p node.id)) (hs : p.Remainder s.plan)
    (hP : P s) (hactive : Active node.id s) :
    Served l p node.id s ((conclude node segment).run s).1 ((conclude node segment).run s).2 := by
  have hturned : ∀ {s'}, Thrifty l p node.id s s' → ∀ {m}, s'.tracker.isFinal m = true →
      s.tracker.isFinal m = true ∨ AtWork node.id s ∧ (m = node.id ∨ m ∈ p.followersOf node.id) :=
    fun h _ hm => (h.others hm).imp_right fun hn => hn.imp_left hactive
  obtain ⟨hthrifty, hstanding⟩ := hsegment s hs hP
  cases hrun : segment.run.run s with
  | mk r s₁ =>
    rw [hrun] at hthrifty hstanding
    match r with
    | .ok none =>
      rw [conclude_of_ok hrun]
      exact ⟨hthrifty, hstanding, fun _ => nofun, hturned hthrifty⟩
    | .ok (some pause) =>
      rw [conclude_of_ok hrun]
      have hpaused : Unblocked p node.id s₁ := hstanding
      exact ⟨hthrifty, hpaused.active.evaluable, fun _ _ => hpaused, hturned hthrifty⟩
    | .error fault =>
      have hthrifty : Thrifty l p node.id s s₁ := hthrifty
      have hactive₁ : Active node.id s₁ := hstanding
      -- The failure is recorded in the state in which the segment broke off.
      have hfailed := (announced_update (l := l) hp (hs.trans hthrifty.left) hnode hactive₁ .failed
        (some fault)).1
      cases hupdate : (update node.id .failed (some fault)).run.run s₁ with
      | mk r' s₂ =>
        obtain ⟨log, hfail⟩ := run_fail node fault hupdate
        rw [hupdate] at hfailed
        have hlogged : Announced l p node.id .failed s₁ { s₂ with log } :=
          hfailed.trans ((hs.trans hthrifty.left).coherent hp.coherent) (announced_log s₂ log)
        have hall := hthrifty.trans (hs.coherent hp.coherent) hlogged.toThrifty
        rw [conclude_of_error hrun, hfail]
        refine ⟨hall, fun hn => .inl ?_, fun _ => nofun, hturned hall⟩
        have hlive := (hactive₁ (hlogged.knows.1 hn)).1
        rwa [← hlogged.plan] at hlive

/-- A node that is final is not evaluated. -/
theorem run_start_of_final (hfinal : s.tracker.isFinal node.id = true)
    (ask : Condition → ω → Readiness × ω) : (start ask node).run.run s = (.ok none, s) := by
  unfold start
  rw [run_get_bind]
  exact congrFun (congrArg (fun x : Eval ω (Option Pause) => x.run.run) (if_pos hfinal)) s

/-- The first segment of an evaluation serves any node that can be evaluated. -/
theorem served_begin (hp : p.Runnable) (hs : p.Remainder s.plan) (h : Evaluable n s)
    (ask : Condition → ω → Readiness × ω) :
    Served l p n s ((begin ask n).run s).1 ((begin ask n).run s).2 := by
  rcases run_begin_cases ask (numbered_of_remainder hp hs) n with
    ⟨r, hrun, -⟩ | ⟨node, hnode, rfl, -, hrun⟩
  · rw [hrun]
    exact served_idle h r
  · rw [hs.nodes_eq] at hnode
    rw [hrun]
    cases hfinal : s.tracker.isFinal node.id with
    | true =>
      rw [conclude_of_ok (run_start_of_final hfinal ask)]
      exact served_idle h _
    | false =>
      have hactive : Active node.id s := fun hn => by
        refine ⟨(h hn).resolve_right ?_, hfinal⟩
        rw [hfinal]
        exact nofun
      exact served_conclude hp hnode (manages_start hp hnode ask) hs hactive hactive

/-- A later segment serves any node that has paused. -/
theorem served_resume (hp : p.Runnable) (hs : p.Remainder s.plan)
    (h : Unblocked p n s) {segment : Node → Except Failure α → Eval ω (Option Pause)}
    (hsegment : ∀ node r, p.nodes[node.id]? = some node →
      Manages (ω := ω) l p node.id (Unblocked p node.id) (segment node r) (Standing p node.id))
    (answer : Answer α) :
    Served l p n s ((resume segment n answer).run s).1 ((resume segment n answer).run s).2 := by
  rcases run_resume_cases segment (numbered_of_remainder hp hs) n answer with
    ⟨e, -, hrun⟩ | ⟨node, r, hnode, rfl, -, hrun⟩
  · rw [hrun]
    exact served_idle h.active.evaluable _
  · rw [hs.nodes_eq] at hnode
    rw [hrun]
    exact served_conclude hp hnode (hsegment node r hnode) hs h h.active

end Rollout.Engine
