import Mathlib.Logic.Relation
import Rollout.Proofs.Progress.Defects

/-!
# What a node's fate depends on

When relations ask no conditions, every edge of a relation starts at the element that has it, and
work has the goal of the elements it acts for, then the graph tells the whole truth: a node may
start as soon as every node that it has an edge to is at its goal, it fails only if one of the nodes
that it can reach has failed, and while it is held up one of them is not final.
-/

namespace Rollout

/-- No relation asks the environment. -/
def Deployment.Unconditional (d : Deployment) : Prop :=
  ∀ e ∈ d.mentioned, ∀ g r, e.relation g = some r → r.asks = false

namespace Plan

/-- Whoever leads a node has the goal of that node. -/
def SharesGoals (p : Plan) : Prop :=
  ∀ f l nf nl, p.leader? f = some l → p.nodes[f]? = some nf → p.nodes[l]? = some nl →
    nf.goal = nl.goal

/-- There is an edge from the one node to the other. -/
def Needs (p : Plan) (a b : NodeId) : Prop := ∃ k, p.graph.edge? a b = some k

/-- What the node needs is done, but the node is not final. -/
structure Ripe (p : Plan) (status : NodeId → NodeStatus) (n : NodeId) : Prop where
  lt : n < p.nodes.length
  not_final : (status n).isFinal = false
  needs : ∀ b, p.Needs n b → p.AtGoal status b

/-- Whatever a node at its goal needs is at its goal. -/
def Closed (p : Plan) (status : NodeId → NodeStatus) : Prop :=
  ∀ a b, p.Needs a b → p.AtGoal status a → p.AtGoal status b

variable {d : Deployment} {p : Plan} {n b y : NodeId} {k : EdgeKind} {node : Node}
  {status : NodeId → NodeStatus}

theorem SharesGoals.lead (h : p.SharesGoals) {ny nl : Node} (hy : p.nodes[y]? = some ny)
    (hl : p.nodes[p.lead y]? = some nl) : nl.goal = ny.goal := by
  cases hled : p.leader? y with
  | none =>
    rw [lead_of_free hled] at hl
    rw [Option.some.inj (hl.symm.trans hy)]
  | some l =>
    rw [lead_of_led hled] at hl
    exact (h y l ny nl hled hy hl).symm

theorem Sound.mem_of_lead (hp : p.Sound) (hy : p.lead y = n) : y ∈ n :: p.followersOf n := by
  cases hled : p.leader? y with
  | none => rw [← hy, lead_of_free hled]; exact List.mem_cons_self
  | some l =>
    rw [lead_of_led hled] at hy
    exact List.mem_cons_of_mem _ (hp.mem_followersOf.2 (hled.trans (congrArg some hy)))

/-- The node leads the other one, or is it, or it is led and the other one is its own. -/
theorem Sound.needs_of_lead (hp : p.Sound) (hy : y ∈ n :: p.followersOf n)
    (hb : p.Needs (p.lead y) b) : Relation.TransGen p.Needs n b := by
  rcases List.mem_cons.1 hy with rfl | hy
  · cases hled : p.leader? y with
    | none => exact .single (lead_of_free hled ▸ hb)
    | some l =>
      rw [lead_of_led hled] at hb
      exact .head ⟨_, hp.edge_leader hled⟩ (.single hb)
  · rw [lead_of_led (hp.mem_followersOf.1 hy)] at hb
    exact .single hb

/-- What an edge is there for. -/
theorem Built.edge_cases (h : p.Built d) (hown : d.OwnEdges) (hgoals : p.SharesGoals)
    (hn : p.nodes[n]? = some node) (hk : p.graph.edge? n b = some k) :
    k = .hard ∧ p.IsWork b ∨
      node.goal = .deployed ∧ (∃ y ∈ n :: p.followersOf n, p.Names y b) ∨
      node.goal = .destroyed ∧ ∃ nb eb r, p.nodes[b]? = some nb ∧ nb.element? = some eb ∧
        nb.relation? = some r ∧ eb.id ∈ r.inverse.targets := by
  rcases h.edge hk with ⟨hhard, hl | ⟨-, hwork⟩⟩ | ⟨y, ny, el, r, x, hy, hel, hr, ⟨e, he, hx⟩, hab⟩
  · exact .inl ⟨hhard, h.sound.leader_work hl⟩
  · exact .inl ⟨hhard, hwork⟩
  · have hrelation : ny.relation? = some r := by rw [h.relation?_of_element hy hel, hr]
    have htarget := Relation.mem_handles.1 he
    cases hg : ny.goal with
    | deployed =>
      rw [hg] at hab
      obtain ⟨rfl, rfl⟩ := hab
      exact .inr (.inl ⟨(hgoals.lead hy hn).trans hg, y, h.sound.mem_of_lead rfl, ny, r, e, hy, hg,
        hrelation, htarget, hx⟩)
    | destroyed =>
      rw [hg] at hab
      obtain ⟨rfl, rfl, nx, hnx, hgx⟩ := hab
      -- The relation has an edge, and so it has one that starts at its own element.
      obtain ⟨s, hs⟩ := Relation.exists_target_inverse htarget
      obtain rfl := hown el (h.mentioned hy hel) _ r hr s hs
      exact .inr (.inr ⟨(hgoals.lead hnx hn).trans hgx, ny, el, r, hy, hel, hrelation, hs⟩)

/-- A node whose dependencies are met needs nothing that is not at its goal. -/
theorem Built.atGoal_of_met (h : p.Built d) (hown : d.OwnEdges) (hgoals : p.SharesGoals)
    (hmet : p.Met status n) (hb : p.Needs n b) : p.AtGoal status b := by
  obtain ⟨k, hk⟩ := hb
  obtain ⟨node, hn⟩ := node_of_lt (h.sound.source_lt hk)
  rcases h.edge_cases hown hgoals hn hk with ⟨rfl, -⟩ | ⟨-, y, hy, hnames⟩ |
    ⟨hg, nb, eb, r, hnb, heb, hr, hmem⟩
  · exact hmet.hard b hk
  · exact atGoal_of_names h.sound hnames (hmet.soft y hy)
  · have hsoft := hmet.soft n List.mem_cons_self node hn
    rw [hg] at hsoft
    refine (hsoft b k hk).elim id fun hinverse => ?_
    exact atGoal_of_reached h.sound (hinverse nb r hnb hr eb.id hmem) (nodeOf?_self h.sound hnb heb)

/-- An element that is led, and is to be destroyed, waits for nobody but its leader. -/
theorem Built.eq_of_follower_edge (h : p.Built d) (hy : y ∈ p.followersOf n)
    (hk : p.graph.edge? y b = some k) : b = n :=
  h.edge_of_led (h.sound.mem_followersOf.1 hy) hk

/-- A node fails to start only if something that it can reach has failed. -/
theorem Built.exists_failed_of_foiled (h : p.Built d) (hown : d.OwnEdges)
    (hfoiled : p.Foiled status n) (hnot : (status n).isFinal = false) :
    ∃ x, Relation.TransGen p.Needs n x ∧ status x = .failed := by
  rcases hfoiled with ⟨b, hb, hfailed⟩ | ⟨-, y, hy, ny, hny, hsoft⟩
  · exact ⟨b, .single ⟨_, hb⟩, hfailed⟩
  · cases hg : ny.goal with
    | deployed =>
      rw [hg] at hsoft
      obtain ⟨r, e, hr, he, x, hx, hfailed⟩ := hsoft
      exact ⟨x, h.sound.needs_of_lead hy (h.edge_of_target hny hg hr he hx), hfailed⟩
    | destroyed =>
      rw [hg] at hsoft
      obtain ⟨b, k, nb, r, e, hk, hnb, hr, he, x, hx, hfailed⟩ := hsoft
      -- Seen from the other side, the relation names nothing but its own element.
      obtain ⟨eb, heb, hr'⟩ := h.element_of_relation? hnb hr
      obtain rfl := hown eb (h.mentioned hnb heb) _ r hr' e he
      obtain rfl : x = b := Option.some.inj (hx.symm.trans (nodeOf?_self h.sound hnb heb))
      rcases List.mem_cons.1 hy with rfl | hy
      · exact ⟨x, .single ⟨k, hk⟩, hfailed⟩
      · rw [h.eq_of_follower_edge hy hk] at hfailed
        rw [hfailed] at hnot
        cases hnot

/-- While a node is held up, something that it can reach is not final. -/
theorem Built.exists_unfinished_of_withheld (h : p.Built d) (hplain : d.Unconditional)
    (hwithheld : p.Withheld status n) :
    ∃ x, Relation.TransGen p.Needs n x ∧ ¬p.AtGoal status x := by
  have hopen : ∀ {x}, (status x).isFinal = false → ¬p.AtGoal status x := by
    intro x hfinal hgoal
    rw [hgoal.isFinal] at hfinal
    cases hfinal
  rcases hwithheld with ⟨b, hb, hfinal⟩ | ⟨-, pre, y, post, hsplit, -, ny, hny, hpending⟩
  · exact ⟨b, .single ⟨_, hb⟩, hopen hfinal⟩
  · have hy : y ∈ n :: p.followersOf n := by
      rw [hsplit]
      exact List.mem_append_right _ List.mem_cons_self
    cases hg : ny.goal with
    | deployed =>
      rw [hg] at hpending
      obtain ⟨r, hr, -, hawaited | hasks⟩ := hpending
      · obtain ⟨e, he, x, g, hlookup, hfinal⟩ := hawaited
        have hx := (h.sound.context_iff.1 hlookup).1
        exact ⟨x, h.sound.needs_of_lead hy (h.edge_of_target hny hg hr he hx), hopen hfinal⟩
      · obtain ⟨el, hel, hr'⟩ := h.element_of_relation? hny hr
        rw [hplain el (h.mentioned hny hel) _ r hr'] at hasks
        cases hasks
    | destroyed =>
      rw [hg] at hpending
      obtain ⟨b, k, nb, r, hk, hnot, hnb, hr, -⟩ := hpending
      rcases List.mem_cons.1 hy with rfl | hy
      · exact ⟨b, .single ⟨k, hk⟩, hnot⟩
      · -- The leader of an element has no relation.
        obtain rfl := h.eq_of_follower_edge hy hk
        obtain ⟨nl, hnl, hwork⟩ := h.sound.leader_work (h.sound.mem_followersOf.1 hy)
        obtain rfl : nb = nl := Option.some.inj (hnb.symm.trans hnl)
        rw [h.relation?_of_work hnb hwork] at hr
        cases hr

/-- Nothing is hidden from anybody. -/
theorem Built.not_masked (h : p.Built d) (hown : d.OwnEdges) (hplain : d.Unconditional)
    (hgoals : p.SharesGoals) : ¬p.Masked status n := by
  rintro (⟨-, f, -, nf, r, -, -, hf, -, hr, hasks, -⟩ |
    ⟨nn, b, k, nb, el, r, hn, hg, hk, hnb, hel, hr, hnot, -⟩)
  · obtain ⟨el, hel, hr'⟩ := h.element_of_relation? hf hr
    rw [hplain el (h.mentioned hf hel) _ r hr'] at hasks
    cases hasks
  · rcases h.edge_cases hown hgoals hn hk with ⟨-, nb', hnb', hwork⟩ | ⟨hg', -⟩ |
      ⟨-, nb', eb, r', hnb', heb, hr', hmem⟩
    · rw [← Option.some.inj (hnb.symm.trans hnb'), hel] at hwork
      cases hwork
    · rw [hg] at hg'
      cases hg'
    · obtain rfl : nb = nb' := Option.some.inj (hnb.symm.trans hnb')
      obtain rfl : r = r' := Option.some.inj (hr.symm.trans hr')
      obtain rfl : el = eb := Option.some.inj (hel.symm.trans heb)
      exact hnot hmem

/-! ## Closed statuses and ripe nodes -/

theorem Closed.reaches (h : p.Closed status) {a x : NodeId} (ha : p.AtGoal status a)
    (hx : Relation.ReflTransGen p.Needs a x) : p.AtGoal status x := by
  induction hx with
  | refl => exact ha
  | tail _ hb ih => exact h _ _ hb ih

theorem Ripe.reaches (h : p.Ripe status n) (hclosed : p.Closed status) {x : NodeId}
    (hx : Relation.TransGen p.Needs n x) : p.AtGoal status x := by
  obtain ⟨b, hb, hbx⟩ := Relation.TransGen.head'_iff.1 hx
  exact hclosed.reaches (h.needs b hb) hbx

theorem Ripe.not_withheld (h : p.Built d) (hplain : d.Unconditional) (hn : p.Ripe status n)
    (hclosed : p.Closed status) : ¬p.Withheld status n := fun hwithheld =>
  have ⟨_, hx, hnot⟩ := h.exists_unfinished_of_withheld hplain hwithheld
  hnot (hn.reaches hclosed hx)

end Plan

end Rollout
