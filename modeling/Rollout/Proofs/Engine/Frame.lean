import Rollout.Proofs.Engine.Changes

/-!
# What evaluations leave alone

The facts of this file hold of every plan, also of one that nobody has checked.  `Within` says what
a computation may have done to one node: it may have given it only the statuses in `own`, and may
have claimed its body only if `claims` holds.  The rest of the state is at most added to.
-/

namespace Rollout.Engine

open Rollout.Plan

variable {ω α β : Type} {s s' s'' : State ω} {n m : NodeId} {own : NodeStatus → Prop}
  {claims : Prop}

/-- What may have become of `n`, and of the state as a whole. -/
structure Within (n : NodeId) (own : NodeStatus → Prop) (claims : Prop) (s s' : State ω) :
    Prop where
  nodes : s'.plan.nodes = s.plan.nodes
  elementNodes : s'.plan.elementNodes = s.plan.elementNodes
  dryRun : s'.dryRun = s.dryRun
  stopped : s'.stopped = s.stopped
  knows : ∀ {m}, s.tracker.knows m → s'.tracker.knows m
  kept : s.started ⊆ s'.started
  started : n ∈ s'.started → n ∈ s.started ∨ claims
  trace : ∃ late, s'.trace = s.trace ++ late ∧ ∀ status, (n, status) ∈ late → own status
  status : s'.tracker.status n = s.tracker.status n ∨ own (s'.tracker.status n)

namespace Within

/-- Nothing done stays within every frame. -/
theorem refl (s : State ω) : Within n own claims s s where
  nodes := rfl
  elementNodes := rfl
  dryRun := rfl
  stopped := rfl
  knows h := h
  kept := fun _ h => h
  started := .inl
  trace := ⟨[], (List.append_nil _).symm, nofun⟩
  status := .inl rfl

/-- Two steps within a frame are one. -/
theorem trans (h : Within n own claims s s') (h' : Within n own claims s' s'') :
    Within n own claims s s'' where
  nodes := h'.nodes.trans h.nodes
  elementNodes := h'.elementNodes.trans h.elementNodes
  dryRun := h'.dryRun.trans h.dryRun
  stopped := h'.stopped.trans h.stopped
  knows hm := h'.knows (h.knows hm)
  kept := List.Subset.trans h.kept h'.kept
  started hn := (h'.started hn).elim h.started .inr
  trace := by
    obtain ⟨late, htrace, hlate⟩ := h.trace
    obtain ⟨later, htrace', hlater⟩ := h'.trace
    refine ⟨late ++ later, by rw [htrace', htrace, List.append_assoc], fun status hmem => ?_⟩
    exact (List.mem_append.1 hmem).elim (hlate status) (hlater status)
  -- the later status is the one that counts; if it has not changed, the earlier step speaks for it
  status := by
    rcases h'.status with hsame | hown
    · rw [hsame]
      exact h.status
    · exact .inr hown

/-- A frame can be widened. -/
theorem mono {own' : NodeStatus → Prop} {claims' : Prop} (h : Within n own claims s s')
    (hown : ∀ status, own status → own' status) (hclaims : claims → claims') :
    Within n own' claims' s s' where
  nodes := h.nodes
  elementNodes := h.elementNodes
  dryRun := h.dryRun
  stopped := h.stopped
  knows := h.knows
  kept := h.kept
  started hn := (h.started hn).imp_right hclaims
  trace := by
    obtain ⟨late, htrace, hlate⟩ := h.trace
    exact ⟨late, htrace, fun status hmem => hown status (hlate status hmem)⟩
  status := h.status.imp_right (hown _)

/-- A transition that the trace has gained is one that was allowed for. -/
theorem own_of_mem (h : Within n own claims s s') {status : NodeStatus}
    (hmem : (n, status) ∈ s'.trace) : (n, status) ∈ s.trace ∨ own status := by
  obtain ⟨late, htrace, hlate⟩ := h.trace
  rw [htrace] at hmem
  exact (List.mem_append.1 hmem).imp_right (hlate status)

/-- The log, the environment, the queue and the live graph are of no account here. -/
theorem of_same (hnodes : s'.plan.nodes = s.plan.nodes)
    (helements : s'.plan.elementNodes = s.plan.elementNodes) (hdry : s'.dryRun = s.dryRun)
    (hstopped : s'.stopped = s.stopped) (htracker : s'.tracker = s.tracker)
    (hstarted : s'.started = s.started) (htrace : s'.transitions = s.transitions) :
    Within n own claims s s' where
  nodes := hnodes
  elementNodes := helements
  dryRun := hdry
  stopped := hstopped
  knows h := by rwa [htracker]
  kept := by rw [hstarted]; exact fun _ h => h
  started h := by rw [hstarted] at h; exact .inl h
  trace := ⟨[], by rw [List.append_nil]; exact congrArg Array.toList htrace, nofun⟩
  status := .inl (by rw [htracker])

end Within

/-- One state comes after another: the nodes are the same, and nothing is taken back. -/
structure Later (s s' : State ω) : Prop where
  nodes : s'.plan.nodes = s.plan.nodes
  elementNodes : s'.plan.elementNodes = s.plan.elementNodes
  dryRun : s'.dryRun = s.dryRun
  knows : ∀ {m}, s.tracker.knows m → s'.tracker.knows m
  kept : s.started ⊆ s'.started
  trace : s.trace <+: s'.trace

theorem Later.refl (s : State ω) : Later s s :=
  ⟨rfl, rfl, rfl, id, fun _ => id, List.prefix_rfl⟩

theorem Later.trans (h : Later s s') (h' : Later s' s'') : Later s s'' where
  nodes := h'.nodes.trans h.nodes
  elementNodes := h'.elementNodes.trans h.elementNodes
  dryRun := h'.dryRun.trans h.dryRun
  knows hm := h'.knows (h.knows hm)
  kept := List.Subset.trans h.kept h'.kept
  trace := h.trace.trans h'.trace

/-- A step within a frame only adds to what is recorded. -/
theorem Within.later (h : Within n own claims s s') : Later s s' where
  nodes := h.nodes
  elementNodes := h.elementNodes
  dryRun := h.dryRun
  knows := h.knows
  kept := h.kept
  trace := by
    obtain ⟨late, htrace, -⟩ := h.trace
    exact ⟨late, htrace.symm⟩

/-! ## Recording -/

/-- A tracker does not take the status of a node that it was not told of. -/
theorem set_of_unknown {t : Tracker} (h : ¬t.knows m) (status : NodeStatus) (error : Option Fault)
    (description : Option String) : t.set m status error description = (false, t) := by
  have hnone : t.lookup? m = none := by
    rw [Option.eq_none_iff_forall_ne_some]
    exact fun e he => h ⟨e, he⟩
  unfold Tracker.set
  rw [hnone]

/-- Recording a transition of another node, or one that is allowed for. -/
theorem within_turned {status : NodeStatus} (hm : m = n → own status) (s : State ω)
    (error : Option Fault) (description : Option String) :
    Within n own claims s (s.turned m status error description) := by
  by_cases hknown : s.tracker.knows m
  · refine ⟨rfl, rfl, rfl, rfl, Tracker.knows_set hknown status error description,
      fun _ h => h, .inl, ?_, ?_⟩
    · have hturned : (s.turned m status error description).trace = s.trace ∨
          (s.turned m status error description).trace = s.trace ++ [(m, status)] := trace_turned
      rcases hturned with htrace | htrace
      · exact ⟨[], by rw [htrace, List.append_nil], nofun⟩
      · refine ⟨[(m, status)], htrace, fun st hmem => ?_⟩
        obtain ⟨rfl, rfl⟩ := Prod.mk.inj (List.mem_singleton.1 hmem)
        exact hm rfl
    · -- only a status of `n` itself has to be its own
      have hstatus : (s.turned m status error description).tracker.status n =
          if n = m then status else s.tracker.status n :=
        Tracker.status_set hknown status error description n
      rw [hstatus]
      by_cases hnm : n = m
      · rw [if_pos hnm]
        exact .inr (hm hnm.symm)
      · rw [if_neg hnm]
        exact .inl rfl
  · -- A node that the tracker was not told of cannot be given a status.
    have hset := set_of_unknown hknown status error description
    have htracker : (s.turned m status error description).tracker = s.tracker :=
      congrArg Prod.snd hset
    have htransitions : (s.turned m status error description).transitions = s.transitions := by
      unfold State.turned
      rw [hset]
      rfl
    exact .of_same rfl rfl rfl rfl htracker rfl htransitions

/-! ## Computations -/

/-- If `n` is the node of an element, then anything may become of it. -/
def Open (n : NodeId) (own : NodeStatus → Prop) (s : State ω) : Prop :=
  ∀ e, s.plan.nodeOf? e = some n → ∀ status, own status

/-- A computation keeps within what may become of `n`. -/
def Keeps (n : NodeId) (own : NodeStatus → Prop) (claims : Prop) (x : Eval ω α) : Prop :=
  ∀ s, Open n own s → Within n own claims s (x.run.run s).2

/-- A step within a frame does not take away what is open to the node. -/
theorem Within.open (h : Within n own claims s s') (hs : Open n own s) : Open n own s' := by
  intro e he
  unfold Plan.nodeOf? at he
  rw [h.elementNodes] at he
  exact hs e he

/-- The elementary changes that `n` is protected from are recordings that are not allowed for, and
claims that do not hold. -/
theorem Change.within (h : Change (fun m status => m = n → own status) (fun m => m = n → claims)
    s s') : Within n own claims s s' := by
  have hself : Within n own claims s s := .refl s
  cases h with
  | aside hnodes helements htracker hdry hstarted hstopped htransitions =>
    exact .of_same hnodes helements hdry hstopped htracker hstarted htransitions
  | told m text =>
    exact { hself with
      knows := (Tracker.knows_addOutput ..).2
      status := .inl (Tracker.status_addOutput ..) }
  | @claimed m hm =>
    exact { hself with
      kept := List.subset_cons_self m s.started
      started := fun h => (List.mem_cons.1 h).elim (fun heq => .inr (hm heq.symm)) .inl }
  | recorded hm _ error description => exact within_turned hm s error description

/-- Changes that are allowed to a node alone stay within its frame. -/
theorem Changes.within (h : Changes (fun m status => m = n → own status) (fun m => m = n → claims)
    s s') : Within n own claims s s' := by
  induction h with
  | refl => exact .refl s
  | tail _ h ih => exact ih.trans h.within

/-- Where all is open to an element, it may reflect what it likes. -/
theorem Open.lenient (h : Open n own s) :
    Lenient (fun m status => m = n → own status) s := by
  rintro e target htarget status - rfl
  exact h e htarget status

theorem Alters.keeps {x : Eval ω α}
    (h : Alters (fun m status => m = n → own status) (fun m => m = n → claims) x) :
    Keeps n own claims x := fun s hs => (h s hs.lenient).within

/-! ## Whole segments -/

/-- A failure stays within the frame of its node. -/
theorem within_fail {node : Node} (hn : node.id = n → own .failed) (hs : Open n own s)
    (fault : Fault) : Within n own claims s ((fail node fault).run s).2 := by
  have hchanges : Changes (fun m status => m = n → own status) (fun m => m = n → claims) s
      ((fail node fault).run s).2 := changes_fail hn hs.lenient fault
  exact hchanges.within

/-- Nodes keep their numbers. -/
theorem Later.numbered (h : Later s s') (hs : Numbered s) : Numbered s' := by
  intro n node hnode
  rw [h.nodes] at hnode
  exact hs hnode

/-- The first segment of an evaluation stays within the frame of every other node, and within that
of its own if everything is allowed there. -/
theorem within_begin {ask : Condition → ω → Readiness × ω} (hids : Numbered s)
    (hm : m = n → (∀ status, own status) ∧ claims) (hs : Open n own s) :
    Within n own claims s ((begin ask m).run s).2 :=
  Changes.within <| changes_begin hids hs.lenient fun _ _ =>
    ⟨fun h => (hm h).1 _, fun h => (hm h).1 _, fun h => (hm h).1 _, fun h => (hm h).2⟩

/-- So does the segment after a body. -/
theorem within_resumeBody (hids : Numbered s) (hm : m = n → ∀ status, own status)
    (hs : Open n own s) (answer : Answer Unit) :
    Within n own claims s ((resumeBody m answer).run s).2 :=
  Changes.within <| changes_resumeBody hids hs.lenient
    (fun _ _ => ⟨fun h => hm h _, fun h => hm h _⟩) answer

/-- So does the segment after a completion check. -/
theorem within_resumeCheck (hids : Numbered s) (hm : m = n → ∀ status, own status)
    (hs : Open n own s) (answer : Answer Readiness) :
    Within n own claims s ((resumeCheck m answer).run s).2 :=
  Changes.within <| changes_resumeCheck hids hs.lenient
    (fun _ _ => ⟨fun h => hm h _, fun h => hm h _⟩) answer

end Rollout.Engine
