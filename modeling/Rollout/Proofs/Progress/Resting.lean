import Rollout.Proofs.Order.Started

/-!
# Nodes at rest

When the evaluation of a node has ended and the node is not final, somebody has to see to it that
the node is looked at again.  Either it has no outstanding dependency, and the next pass begins
with it; or it depends on a node that is not final, and is queued when that one is.  This is what
`Attended` says, and every node at rest is attended unless it is `Masked`: something that has
failed is hidden from it behind something that is merely pending.
-/

namespace Rollout

namespace Plan

variable {d : Deployment} {p : Plan} {n f b : NodeId} {k : EdgeKind}
  {status : NodeId → NodeStatus}

/-- Nothing that the node depends on is outstanding, or something of it is not final. -/
def Attended (p : Plan) (status : NodeId → NodeStatus) (n : NodeId) : Prop :=
  (∀ b k, p.graph.edge? n b = some k → p.AtGoal status b) ∨
    ∃ b k, p.graph.edge? n b = some k ∧ (status b).isFinal = false

/-- The relation of a node to be deployed names the element of another node. -/
def Names (p : Plan) (y b : NodeId) : Prop :=
  ∃ ny r e, p.nodes[y]? = some ny ∧ ny.goal = .deployed ∧ ny.relation? = some r ∧
    e ∈ r.targets ∧ p.nodeOf? e = some b

/-- A soft dependency of the node has failed, which nobody notices as long as a condition is not
ready: that of an element to be deployed that the node leads, while everything that this element
and those in front of it depend on is in order. -/
def MaskedByCondition (p : Plan) (status : NodeId → NodeStatus) (n : NodeId) : Prop :=
  ∃ pre f post nf r b, p.followersOf n = pre ++ f :: post ∧ p.nodes[f]? = some nf ∧
    nf.goal = .deployed ∧ nf.relation? = some r ∧ r.asks = true ∧
    (∀ y ∈ pre ++ [f], p.SoftMet status y) ∧ p.graph.edge? n b = some .soft ∧ status b = .failed

/-- The node is to be destroyed and depends on an element that has failed.  The relation of that
element does not tell, for it has no edge that starts at the element itself. -/
def MaskedByInverse (p : Plan) (status : NodeId → NodeStatus) (n : NodeId) : Prop :=
  ∃ nn b k nb el r, p.nodes[n]? = some nn ∧ nn.goal = .destroyed ∧
    p.graph.edge? n b = some k ∧ p.nodes[b]? = some nb ∧ nb.element? = some el ∧
    nb.relation? = some r ∧ el.id ∉ r.inverse.targets ∧ status b = .failed

/-- A failure is hidden from the node. -/
def Masked (p : Plan) (status : NodeId → NodeStatus) (n : NodeId) : Prop :=
  p.MaskedByCondition status n ∨ p.MaskedByInverse status n

/-- A node that is final has failed, or stands at its own goal. -/
def Decided (p : Plan) (status : NodeId → NodeStatus) : Prop :=
  ∀ n, (status n).isFinal = true → status n = .failed ∨ p.AtGoal status n

theorem Masked.exists_failed (h : p.Masked status n) :
    ∃ b k, p.graph.edge? n b = some k ∧ status b = .failed := by
  rcases h with ⟨-, -, -, -, -, b, -, -, -, -, -, -, hk, hb⟩ |
    ⟨-, b, k, -, -, -, -, -, hk, -, -, -, -, hb⟩
  · exact ⟨b, .soft, hk, hb⟩
  · exact ⟨b, k, hk, hb⟩

/-- What has failed stays hidden, for nothing that is final changes. -/
theorem Masked.mono (hp : p.Sound) {status' : NodeId → NodeStatus} (h : p.Masked status n)
    (hkept : ∀ m, m < p.nodes.length → (status m).isFinal = true → status' m = status m) :
    p.Masked status' n := by
  have hgoal : ∀ m, p.AtGoal status m → p.AtGoal status' m := by
    rintro m ⟨node, hnode, hs⟩
    refine ⟨node, hnode, ?_⟩
    rw [hkept m (lt_of_node hnode) (by rw [hs]; exact Goal.isFinal_status _), hs]
  have hfailed : ∀ {b k}, p.graph.edge? n b = some k → status b = .failed →
      status' b = .failed := by
    intro b k hk hb
    rw [hkept b (hp.target_lt hk) (by rw [hb]; rfl), hb]
  rcases h with ⟨pre, f, post, nf, r, b, hsplit, hf, hg, hr, hasks, hsoft, hk, hb⟩ |
    ⟨nn, b, k, nb, el, r, hn, hg, hk, hnb, hel, hr, hown, hb⟩
  · exact .inl ⟨pre, f, post, nf, r, b, hsplit, hf, hg, hr, hasks,
      fun y hy => (hsoft y hy).mono hp hgoal, hk, hfailed hk hb⟩
  · exact .inr ⟨nn, b, k, nb, el, r, hn, hg, hk, hnb, hel, hr, hown, hfailed hk hb⟩

/-! ## The dependencies of a node -/

/-- The node of an element leads no other. -/
theorem Sound.eq_of_lead (hp : p.Sound) {node : Node} {el : Element}
    (hn : p.nodes[n]? = some node) (hel : node.element? = some el) {y : NodeId}
    (hy : p.lead y = n) : y = n := by
  cases hl : p.leader? y with
  | none => rw [← hy, lead_of_free hl]
  | some l =>
    obtain ⟨nl, hnl, hwork⟩ := hp.leader_work hl
    obtain rfl : l = n := (lead_of_led hl).symm.trans hy
    rw [← Option.some.inj (hn.symm.trans hnl), hel] at hwork
    cases hwork

/-- An element that is led depends on its leader alone. -/
theorem Built.edge_of_led (h : p.Built d) {l : NodeId} (hl : p.leader? f = some l)
    (hk : p.graph.edge? f b = some k) : b = l := by
  have hlead : ∀ {y}, f = p.lead y → False := by
    rintro y rfl
    rw [h.sound.leader?_lead] at hl
    cases hl
  rcases h.edge hk with ⟨-, hb | ⟨hwork, -⟩⟩ | ⟨y, ny, el, r, x, -, -, -, -, hab⟩
  · exact Option.some.inj (hb.symm.trans hl)
  · rw [hwork.leader?_eq_none h.sound] at hl
    cases hl
  · cases hg : ny.goal with
    | deployed => rw [hg] at hab; exact (hlead hab.1).elim
    | destroyed => rw [hg] at hab; exact (hlead hab.1).elim

/-- A node that is led has nothing outstanding once its leader is at its goal. -/
theorem Built.attended_of_led (h : p.Built d) {l : NodeId} (hl : p.leader? n = some l)
    (hgoal : p.AtGoal status l) : p.Attended status n :=
  .inl fun _ _ hk => h.edge_of_led hl hk ▸ hgoal

/-- What the relation of a node to be deployed names is linked with the node that has the
dependency. -/
theorem Built.edge_of_target (h : p.Built d) {y : NodeId} {ny : Node} {r : Relation}
    (hy : p.nodes[y]? = some ny) (hg : ny.goal = .deployed) (hr : ny.relation? = some r)
    {e : ElementId} (he : e ∈ r.targets) {x : NodeId} (hx : p.nodeOf? e = some x) :
    ∃ k, p.graph.edge? (p.lead y) x = some k := by
  obtain ⟨el, hel, hr'⟩ := h.element_of_relation? hy hr
  obtain ⟨x', nx, hx', -, hlinked⟩ := h.linked hy hel hr' (Relation.mem_handles.2 he)
  rw [hg] at hlinked
  obtain rfl : x = x' := Option.some.inj (hx.symm.trans hx')
  exact Option.isSome_iff_exists.1 hlinked.2

theorem atGoal_of_reached (hp : p.Sound) {e : ElementId} (he : p.Reached status e) {x : NodeId}
    (hx : p.nodeOf? e = some x) : p.AtGoal status x := by
  obtain ⟨x', g, hlookup, hstatus⟩ := he
  obtain ⟨hx', node, hnode, hg⟩ := hp.context_iff.1 hlookup
  obtain rfl : x = x' := Option.some.inj (hx.symm.trans hx')
  exact ⟨node, hnode, by rw [hstatus, hg]⟩

/-- The dependencies of an element that is not led: those its relation names if it is to be
deployed, and elements that depend on it if it is to be destroyed. -/
theorem Built.edge_of_free (h : p.Built d) {node : Node} {el : Element}
    (hn : p.nodes[n]? = some node) (hel : node.element? = some el) (hl : p.leader? n = none)
    (hk : p.graph.edge? n b = some k) :
    node.goal = .deployed ∧ p.Names n b ∨
      node.goal = .destroyed ∧ ∃ nb eb r, p.nodes[b]? = some nb ∧ nb.element? = some eb ∧
        nb.relation? = some r := by
  rcases h.edge hk with ⟨-, hb | ⟨⟨node', hnode', hwork⟩, -⟩⟩ |
    ⟨y, ny, ey, r, x, hy, hey, hr, ⟨e, he, hx⟩, hab⟩
  · rw [hl] at hb
    cases hb
  · rw [← Option.some.inj (hn.symm.trans hnode'), hel] at hwork
    cases hwork
  · have hrelation : ny.relation? = some r := by rw [h.relation?_of_element hy hey, hr]
    cases hg : ny.goal with
    | deployed =>
      rw [hg] at hab
      obtain rfl := h.sound.eq_of_lead hn hel hab.1.symm
      obtain rfl : node = ny := Option.some.inj (hn.symm.trans hy)
      exact .inl ⟨hg, node, r, e, hn, hg, hrelation, Relation.mem_handles.1 he, hab.2 ▸ hx⟩
    | destroyed =>
      rw [hg] at hab
      obtain ⟨ha, rfl, nx, hnx, hgx⟩ := hab
      obtain rfl := h.sound.eq_of_lead hn hel ha.symm
      obtain rfl : node = nx := Option.some.inj (hn.symm.trans hnx)
      exact .inr ⟨hgx, ny, ey, r, hy, hey, hrelation⟩

theorem nodeOf?_self (hp : p.Sound) {nb : Node} {el : Element} (hb : p.nodes[b]? = some nb)
    (hel : nb.element? = some el) : p.nodeOf? el.id = some b :=
  hp.nodeOf?_eq_some_iff.2 ⟨nb, el, hb, hel, rfl⟩

/-! ## Nodes at rest -/

/-- What the relation of a node to be deployed names is at its goal when the soft dependencies of
the node are met. -/
theorem atGoal_of_names (hp : p.Sound) {y : NodeId} (hnames : p.Names y b)
    (hsoft : p.SoftMet status y) : p.AtGoal status b := by
  obtain ⟨ny, r, e, hny, hg, hr, he, hx⟩ := hnames
  have hmet := hsoft ny hny
  rw [hg] at hmet
  exact atGoal_of_reached hp (hmet r hr e he) hx

/-- A dependency that is outstanding and not final is enough for a node to be attended; one that is
final has failed. -/
theorem attended_or_failed (hstatus : p.Decided status) (hk : p.graph.edge? n b = some k)
    (hnot : ¬p.AtGoal status b) : p.Attended status n ∨ status b = .failed := by
  cases hfinal : (status b).isFinal with
  | false => exact .inl (.inr ⟨b, k, hk, hfinal⟩)
  | true => exact .inr ((hstatus b hfinal).resolve_right hnot)

/-- An element whose dependencies are met has none that is outstanding, unless one of them has
failed behind its back. -/
theorem Built.attended_of_met (h : p.Built d) (hstatus : p.Decided status) {node : Node}
    {el : Element} (hn : p.nodes[n]? = some node) (hel : node.element? = some el)
    (hmet : p.Met status n) : p.Attended status n ∨ p.Masked status n := by
  cases hl : p.leader? n with
  | some l => exact .inl (h.attended_of_led hl (hmet.hard l (h.sound.edge_leader hl)))
  | none =>
    by_cases hall : ∀ b k, p.graph.edge? n b = some k → p.AtGoal status b
    · exact .inl (.inl hall)
    push Not at hall
    obtain ⟨b, k, hk, hnot⟩ := hall
    have hsoft := hmet.soft n List.mem_cons_self
    rcases h.edge_of_free hn hel hl hk with ⟨-, hnames⟩ | ⟨hg, nb, eb, r, hb, heb, hr⟩
    · exact absurd (atGoal_of_names h.sound hnames hsoft) hnot
    · have hinverse := hsoft node hn
      rw [hg] at hinverse
      have hmet' := (hinverse b k hk).resolve_left hnot
      -- The relation is in order without its own element, so it does not tell of it.
      have hown : eb.id ∉ r.inverse.targets := fun hmem =>
        hnot (atGoal_of_reached h.sound (hmet' nb r hb hr eb.id hmem) (nodeOf?_self h.sound hb heb))
      refine (attended_or_failed hstatus hk hnot).imp_right fun hfailed => .inr ?_
      exact ⟨node, b, k, nb, eb, r, hn, hg, hk, hb, heb, hr, hown, hfailed⟩

/-- A node to be destroyed that waits for the relation of another one depends on that one, which
is not final. -/
theorem Built.attended_of_inverse (h : p.Built d) (hstatus : p.Decided status)
    {node : Node} (hn : p.nodes[n]? = some node) (hg : node.goal = .destroyed)
    (hk : p.graph.edge? n b = some k) (hnot : ¬p.AtGoal status b) {nb : Node} {r : Relation}
    (hb : p.nodes[b]? = some nb) (hr : nb.relation? = some r)
    (hpending : p.RelationPending status r.inverse) :
    p.Attended status n ∨ p.Masked status n := by
  obtain ⟨eb, heb, -⟩ := h.element_of_relation? hb hr
  by_cases hown : eb.id ∈ r.inverse.targets
  · have hself := nodeOf?_self h.sound hb heb
    rcases hpending.1 eb.id hown with hreached | ⟨x, g, hlookup, hfinal⟩
    · exact absurd (atGoal_of_reached h.sound hreached hself) hnot
    · obtain rfl : b = x := Option.some.inj (hself.symm.trans (h.sound.context_iff.1 hlookup).1)
      exact .inl (.inr ⟨b, k, hk, hfinal⟩)
  · refine (attended_or_failed hstatus hk hnot).imp_right fun hfailed => .inr ?_
    exact ⟨node, b, k, nb, eb, r, hn, hg, hk, hb, heb, hr, hown, hfailed⟩

/-- A node that waits for nothing but a condition. -/
theorem Built.attended_of_condition (h : p.Built d) (hstatus : p.Decided status)
    (hl : p.leader? n = none)
    (hhard : ∀ b, p.graph.edge? n b = some .hard → p.AtGoal status b)
    {pre post : List NodeId} (hsplit : n :: p.followersOf n = pre ++ f :: post)
    (hpre : ∀ y ∈ pre, p.SoftMet status y) {nf : Node} {r : Relation}
    (hf : p.nodes[f]? = some nf) (hg : nf.goal = .deployed) (hr : nf.relation? = some r)
    (hasks : r.asks = true) (hreached : ∀ e ∈ r.targets, p.Reached status e) :
    p.Attended status n ∨ p.Masked status n := by
  have hsoft : p.SoftMet status f := by
    intro node hnode
    obtain rfl : nf = node := Option.some.inj (hf.symm.trans hnode)
    rw [hg]
    intro r' hr'
    rw [← Option.some.inj (hr.symm.trans hr')]
    exact hreached
  -- If nothing is outstanding then the next pass begins with the node.
  by_cases hall : ∀ b k, p.graph.edge? n b = some k → p.AtGoal status b
  · exact .inl (.inl hall)
  push Not at hall
  obtain ⟨b, k, hk, hnot⟩ := hall
  cases k with
  | hard => exact absurd (hhard b hk) hnot
  | soft =>
    cases pre with
    | nil =>
      -- The condition is that of the node itself, which names all its soft dependencies.
      obtain ⟨rfl, -⟩ := List.cons.inj hsplit
      obtain ⟨el, hel, -⟩ := h.element_of_relation? hf hr
      rcases h.edge_of_free hf hel hl hk with ⟨-, hnames⟩ | ⟨hg', -⟩
      · exact absurd (atGoal_of_names h.sound hnames hsoft) hnot
      · rw [hg] at hg'
        cases hg'
    | cons m pre =>
      -- The condition is that of a follower: what only a later one names is hidden behind it.
      obtain ⟨rfl, hfollowers⟩ := List.cons.inj hsplit
      refine (attended_or_failed hstatus hk hnot).imp_right fun hfailed => .inl ?_
      refine ⟨pre, f, post, nf, r, b, hfollowers, hf, hg, hr, hasks, fun y hy => ?_, hk, hfailed⟩
      rcases List.mem_append.1 hy with hy | hy
      · exact hpre y (List.mem_cons_of_mem n hy)
      · rw [List.mem_singleton.1 hy]
        exact hsoft

/-- A node that something keeps from being started depends on a node that is not final, or on
nothing that is outstanding. -/
theorem Built.attended_of_withheld (h : p.Built d) (hstatus : p.Decided status)
    (hwithheld : p.Withheld status n) : p.Attended status n ∨ p.Masked status n := by
  rcases hwithheld with ⟨b, hb, hfinal⟩ | ⟨hhard, pre, f, post, hsplit, hpre, nf, hf, hpending⟩
  · exact .inl (.inr ⟨b, _, hb, hfinal⟩)
  cases hl : p.leader? n with
  | some l => exact .inl (h.attended_of_led hl (hhard l (h.sound.edge_leader hl)))
  | none =>
    have hmem : f ∈ n :: p.followersOf n := by
      rw [hsplit]
      exact List.mem_append_right pre List.mem_cons_self
    cases hg : nf.goal with
    | deployed =>
      rw [hg] at hpending
      obtain ⟨r, hr, hpending⟩ := hpending
      by_cases hawaited : ∃ e ∈ r.targets, p.Awaited status e
      · -- an element that is named and not final: the node has an edge to it
        obtain ⟨e, he, x, g, hlookup, hfinal⟩ := hawaited
        obtain ⟨k, hk⟩ := h.edge_of_target hf hg hr he (h.sound.context_iff.1 hlookup).1
        have hlead : p.lead f = n := by
          rcases List.mem_cons.1 hmem with rfl | hmem
          · exact lead_of_free hl
          · exact lead_of_led (h.sound.mem_followersOf.1 hmem)
        exact .inl (.inr ⟨x, k, hlead ▸ hk, hfinal⟩)
      · refine h.attended_of_condition hstatus hl hhard hsplit hpre hf hg hr
          (hpending.2.resolve_left hawaited) fun e he => ?_
        exact (hpending.1 e he).resolve_right fun h' => hawaited ⟨e, he, h'⟩
    | destroyed =>
      rw [hg] at hpending
      obtain ⟨b, k, nb, r, hk, hnot, hb, hr, hpending⟩ := hpending
      rcases List.mem_cons.1 hmem with rfl | hmem
      · exact h.attended_of_inverse hstatus hf hg hk hnot hb hr hpending
      · -- A follower depends on its leader alone, and that has no relation.
        have hled := h.sound.mem_followersOf.1 hmem
        obtain rfl := h.edge_of_led hled hk
        obtain ⟨nl, hnl, hwork⟩ := h.sound.leader_work hled
        obtain rfl : nb = nl := Option.some.inj (hb.symm.trans hnl)
        rw [h.relation?_of_work hb hwork] at hr
        cases hr

end Plan

end Rollout
