import Rollout.Proofs.Plan.CycleReport

/-!
# Groups and cycles

To put a node under a leader moves edges: the leader takes over those that leave the node, and the
node gets one to the leader.  `Regrouped` says this of the edges alone.  In a graph without cycles a
path along the new edges comes to one of three things in the old graph (`Regrouped.path`), and so
the new graph has no cycle either if and only if neither of the two nodes led to the other one
(`acyclic_setGroup_iff`).
-/

namespace Rollout.Plan

variable {p q : Plan} {n l : NodeId}

/-! ## Edges that are moved -/

/-- The edges after `n` has been put under `l`, if they were `r` before. -/
inductive Regrouped {α : Type} (r : α → α → Prop) (n l : α) : α → α → Prop where
  /-- An edge that leaves another node than `n`. -/
  | kept {a b : α} (ha : a ≠ n) (h : r a b) : Regrouped r n l a b
  /-- An edge of `n` that the leader has taken over. -/
  | adopted {b : α} (h : r n b) : Regrouped r n l l b
  | led : Regrouped r n l n l

namespace Regrouped

variable {α : Type} {r : α → α → Prop} {n l a b : α}

/-- A path along the new edges is an old path, or it goes by way of `n` to its leader, or by way of
the leader to where `n` led. -/
theorem path (hacyclic : ¬Relation.TransGen r n n) (h : Relation.TransGen (Regrouped r n l) a b) :
    Relation.TransGen r a b ∨
      Relation.ReflTransGen r a n ∧ (b = l ∨ Relation.TransGen r l b ∨ Relation.TransGen r n b) ∨
      Relation.ReflTransGen r a l ∧ Relation.TransGen r n b := by
  induction h with
  | single hedge =>
    cases hedge with
    | kept _ hab => exact .inl (.single hab)
    | adopted hnb => exact .inr (.inr ⟨.refl, .single hnb⟩)
    | led => exact .inr (.inl ⟨.refl, .inl rfl⟩)
  | tail _ hedge ih =>
    cases hedge with
    | kept _ hbc =>
      rcases ih with hab | ⟨han, rfl | hlb | hnb⟩ | ⟨hal, hnb⟩
      · exact .inl (hab.tail hbc)
      · exact .inr (.inl ⟨han, .inr (.inl (.single hbc))⟩)
      · exact .inr (.inl ⟨han, .inr (.inl (hlb.tail hbc))⟩)
      · exact .inr (.inl ⟨han, .inr (.inr (hnb.tail hbc))⟩)
      · exact .inr (.inr ⟨hal, hnb.tail hbc⟩)
    | adopted hnc =>
      rcases ih with hal | ⟨han, -⟩ | ⟨hal, -⟩
      · exact .inr (.inr ⟨hal.to_reflTransGen, .single hnc⟩)
      · exact .inr (.inl ⟨han, .inr (.inr (.single hnc))⟩)
      · exact .inr (.inr ⟨hal, .single hnc⟩)
    | led =>
      rcases ih with han | ⟨han, -⟩ | ⟨-, hnn⟩
      · exact .inr (.inl ⟨han.to_reflTransGen, .inl rfl⟩)
      · exact .inr (.inl ⟨han, .inl rfl⟩)
      · exact absurd hnn hacyclic

/-- An old path that does not come by `n` before its end is there still. -/
theorem of_path (havoids : ∀ c, Relation.ReflTransGen r a c → Relation.TransGen r c b → c ≠ n)
    (h : Relation.TransGen r a b) : Relation.TransGen (Regrouped r n l) a b := by
  induction h using Relation.TransGen.head_induction_on with
  | single hab => exact .single (.kept (havoids _ .refl (.single hab)) hab)
  | head hac hcb ih =>
    refine .head (.kept (havoids _ .refl (.head hac hcb)) hac) (ih fun c hc => ?_)
    exact havoids c (.head hac hc)

/-- No cycle comes about if and only if neither node led to the other one. -/
theorem acyclic_iff (hacyclic : ∀ a, ¬Relation.TransGen r a a) (hne : n ≠ l) :
    (∀ a, ¬Relation.TransGen (Regrouped r n l) a a) ↔
      ¬Relation.TransGen r l n ∧ ¬Relation.TransGen r n l := by
  constructor
  · refine fun h => ⟨fun hln => h n ?_, fun hnl => h l ?_⟩
    · -- From the leader the path goes on to `n`, and from there back to the leader.
      refine .head .led (of_path (fun c _ hcn hc => ?_) hln)
      exact hacyclic n (hc ▸ hcn)
    · obtain ⟨b, hnb, hbl⟩ := Relation.TransGen.head'_iff.1 hnl
      -- The leader takes over the first edge of the path, and the rest does not come by `n`.
      rcases Relation.ReflTransGen.cases_head_iff.1 hbl with rfl | hmore
      · exact .single (.adopted hnb)
      · have hrest : Relation.TransGen r b l := Relation.TransGen.head'_iff.2 hmore
        refine .head (.adopted hnb) (of_path (fun c hbc _ hc => ?_) hrest)
        exact hacyclic n (.head' hnb (hc ▸ hbc))
  · rintro ⟨hln, hnl⟩ a hcycle
    rcases path (hacyclic n) hcycle with haa | ⟨han, rfl | hla | hna⟩ | ⟨hal, hna⟩
    · exact hacyclic a haa
    · rcases Relation.ReflTransGen.cases_head_iff.1 han with heq | hmore
      · exact hne heq.symm
      · exact hln (Relation.TransGen.head'_iff.2 hmore)
    · exact hln (hla.trans_left han)
    · exact hacyclic n (hna.trans_left han)
    · exact hnl (hna.trans_left hal)

end Regrouped

/-! ## Groups -/

/-- What becomes of the edges of a plan when a node is put under a leader. -/
theorem edge_setGroup_iff (h : p.graph.Coherent) (hne : n ≠ l) (hgroup : p.setGroup n l = .ok q)
    {a b : NodeId} : q.graph.Edge a b ↔ Regrouped p.graph.Edge n l a b := by
  have hbears : ∀ (g : Digraph) a b, g.Edge a b ↔ g.Bears a b .soft := by
    intro g a b
    rw [Digraph.bears_soft_iff, Option.isSome_iff_exists]
    exact Digraph.mem_successors_iff_edge
  rw [hbears, (bears_setGroup h hne hgroup).2, ← hbears, ← hbears]
  constructor
  · rintro (⟨ha, hab⟩ | ⟨rfl, hnb⟩ | ⟨rfl, rfl⟩)
    · exact .kept ha hab
    · exact .adopted hnb
    · exact .led
  · rintro (⟨ha, hab⟩ | hnb | _)
    · exact .inl ⟨ha, hab⟩
    · exact .inr (.inl ⟨rfl, hnb⟩)
    · exact .inr (.inr ⟨rfl, rfl⟩)

/-- A node that is not led is put under another one, in a plan without cycles, whether or not the
two are live.  The plan has no cycle afterwards if and only if neither node led to the other one;
an edge from the node to its leader is one way to do so, and becomes an edge from the leader to
itself. -/
theorem acyclic_setGroup_iff (h : p.Made) (hacyclic : ¬p.graph.Cyclic) (hne : n ≠ l)
    (hfree : p.leader? n = none) :
    ∃ q, p.setGroup n l = .ok q ∧ (q.check = .ok () ↔ ¬q.graph.Cyclic) ∧
      (¬q.graph.Cyclic ↔
        ¬Relation.TransGen p.graph.Edge l n ∧ ¬Relation.TransGen p.graph.Edge n l) ∧
      (p.graph.Edge n l → q.graph.Edge l l) := by
  obtain ⟨q, hgroup⟩ : ∃ q, p.setGroup n l = .ok q := by
    unfold setGroup
    rw [hfree]
    exact ⟨_, rfl⟩
  have hcoherent := h.coherent
  have hedge := fun {a b} => edge_setGroup_iff hcoherent hne hgroup (a := a) (b := b)
  refine ⟨q, hgroup, check_eq_ok_iff (h.setGroup hgroup).coherent, ?_,
    fun hnl => hedge.2 (.adopted hnl)⟩
  have hedges : q.graph.Edge = Regrouped p.graph.Edge n l :=
    funext fun _ => funext fun _ => propext hedge
  unfold Digraph.Cyclic at hacyclic ⊢
  rw [not_exists] at hacyclic ⊢
  rw [hedges]
  exact Regrouped.acyclic_iff hacyclic hne

/-- Work leads the second of two elements, which the first one depends on. -/
def siblings : Plan := after (.empty .deployed {}) <|
  (["a", "b"].map fun e =>
    .call (.element ⟨e, "test", true, fun _ => none, none⟩ .deployed)) ++
    [.call (.work { description := "both" } .deployed), .call (.group 1 2),
      .call (.depend 0 1 .soft)]

/-- If the work comes to lead the first element too then it waits for itself, by way of the second
one. -/
theorem siblings_close_cycle : siblings.Made ∧ ¬siblings.graph.Cyclic ∧
    siblings.graph.Edge 0 1 ∧ siblings.graph.Edge 1 2 ∧
    ∃ q, siblings.setGroup 0 2 = .ok q ∧ q.check ≠ .ok () := by
  have hmade : siblings.Made := made_iff_after.2 ⟨_, _, _, rfl⟩
  have hacyclic : ¬siblings.graph.Cyclic := (check_eq_ok_iff hmade.coherent).1 rfl
  have hfirst : siblings.graph.Edge 0 1 := Digraph.mem_successors_of_edge (k := .soft) rfl
  have hsecond : siblings.graph.Edge 1 2 := Digraph.mem_successors_of_edge (k := .hard) rfl
  obtain ⟨q, hgroup, hcheck, hiff, -⟩ :=
    acyclic_setGroup_iff (n := 0) (l := 2) hmade hacyclic (by decide) (by rfl)
  refine ⟨hmade, hacyclic, hfirst, hsecond, q, hgroup, fun hok => ?_⟩
  exact (hiff.1 (hcheck.1 hok)).2 (.head hfirst (.single hsecond))

end Rollout.Plan
