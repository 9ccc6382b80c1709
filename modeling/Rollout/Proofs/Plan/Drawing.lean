import Rollout.Proofs.Plan.Operations

/-!
# The edges of a plan

Edges come into a plan in two ways: a dependency is asked for, and a node is put under a leader.
Both calls move edges about, so what one of them has done depends on what has been called before.
`Drawn` says what all of them together come to, without any order: an edge is there if a dependency
that has been asked for, or the group of a node, calls for it (`Due`), and it is hard if one of
those that call for it is.

Every operation that adds to a plan keeps `Drawn`, as long as nobody who leads is led (`Flat`).
-/

namespace Rollout

/-- An edge of kind `k` does for one of kind `j`. -/
def EdgeKind.Covers (k j : EdgeKind) : Prop := j = .hard → k = .hard

/-- Only a hard edge covers a hard one. -/
@[simp]
theorem EdgeKind.covers_hard_iff {k : EdgeKind} : k.Covers .hard ↔ k = .hard :=
  ⟨fun h => h rfl, fun h _ => h⟩

@[simp]
theorem EdgeKind.covers_soft (k : EdgeKind) : k.Covers .soft := nofun

@[simp]
theorem EdgeKind.hard_covers (j : EdgeKind) : EdgeKind.hard.Covers j := fun _ => rfl

/-- There is an edge that does for one of kind `j`. -/
def Digraph.Bears (g : Digraph) (a b : NodeId) (j : EdgeKind) : Prop :=
  ∃ k, g.edge? a b = some k ∧ k.Covers j

namespace Digraph

variable {g : Digraph} {a b : NodeId}

/-- To bear a hard edge is to have one. -/
theorem bears_hard_iff : g.Bears a b .hard ↔ g.edge? a b = some .hard := by
  unfold Bears
  simp

/-- To bear a soft edge is to have an edge. -/
theorem bears_soft_iff : g.Bears a b .soft ↔ (g.edge? a b).isSome = true := by
  unfold Bears
  simp [Option.isSome_iff_exists]

theorem bears_congr {g' : Digraph} (h : g'.edge? a b = g.edge? a b) (j : EdgeKind) :
    g'.Bears a b j ↔ g.Bears a b j := by
  unfold Bears
  rw [h]

/-- What an edge does for tells its kind. -/
theorem edge?_eq_some_iff_bears {k : EdgeKind} : g.edge? a b = some k ↔
    g.Bears a b k ∧ (k = .soft → ¬ g.Bears a b .hard) := by
  rw [bears_hard_iff]
  cases k with
  | hard => simp [bears_hard_iff]
  | soft =>
    rw [bears_soft_iff]
    cases h : g.edge? a b with
    | none => simp
    | some k => cases k <;> simp

/-- What the graph bears without an edge is what it bore otherwise. -/
theorem Coherent.bears_removeEdge (hg : g.Coherent) (c e : NodeId) (j : EdgeKind) :
    (g.removeEdge a b).Bears c e j ↔ g.Bears c e j ∧ ¬ (c = a ∧ e = b) := by
  unfold Bears
  simp only [hg.edge?_removeEdge]
  constructor
  · rintro ⟨k, ⟨hk, hne⟩, hcovers⟩
    exact ⟨⟨k, hk, hcovers⟩, hne⟩
  · rintro ⟨⟨k, hk, hcovers⟩, hne⟩
    exact ⟨k, ⟨hk, hne⟩, hcovers⟩

end Digraph

namespace Plan

variable {p p' q : Plan} {a b c e l n : NodeId} {j k : EdgeKind}

/-! ## Linking and handing over -/

/-- A link adds to what there is. -/
theorem bears_link : (p.link a b k).graph.Bears c e j ↔
    p.graph.Bears c e j ∨ c = a ∧ e = b ∧ k.Covers j := by
  unfold Digraph.Bears
  rw [edge?_link]
  by_cases hce : c = a ∧ e = b
  · obtain ⟨rfl, rfl⟩ := hce
    cases hold : p.graph.edge? c e with
    | none => simp
    | some old => cases old <;> cases k <;> cases j <;> simp
  · have hno : ¬ (c = a ∧ e = b ∧ k.Covers j) := fun h => hce ⟨h.1, h.2.1⟩
    rw [if_neg hce, or_iff_left hno]

/-- An edge that is handed over is borne by the leader, and no longer by the follower. -/
theorem bears_handOver (hp : p.graph.Coherent) (d : NodeId × EdgeKind) :
    (handOver n l p d).graph.Bears c e j ↔
      (p.graph.Bears c e j ∧ ¬ (c = n ∧ e = d.1)) ∨ c = l ∧ e = d.1 ∧ d.2.Covers j := by
  unfold handOver
  rw [bears_link, hp.bears_removeEdge]

theorem coherent_link (hp : p.graph.Coherent) : (p.link a b k).graph.Coherent :=
  hp.addEdge a b _

theorem coherent_handOver (hp : p.graph.Coherent) (d : NodeId × EdgeKind) :
    (handOver n l p d).graph.Coherent :=
  coherent_link (p := { p with graph := p.graph.removeEdge n d.1 }) (hp.removeEdge n d.1)

/-- A list of dependencies goes over to the leader. -/
theorem bears_foldl_handOver (hne : n ≠ l) (ds : List (NodeId × EdgeKind))
    (hp : p.graph.Coherent) : (ds.foldl (handOver n l) p).graph.Coherent ∧
      ∀ c e j, (ds.foldl (handOver n l) p).graph.Bears c e j ↔
        (p.graph.Bears c e j ∧ ¬ (c = n ∧ ∃ k, (e, k) ∈ ds)) ∨
          c = l ∧ ∃ k, (e, k) ∈ ds ∧ k.Covers j := by
  induction ds generalizing p with
  | nil => exact ⟨hp, by simp⟩
  | cons d ds ih =>
    obtain ⟨hcoherent, hbears⟩ := ih (coherent_handOver hp d)
    refine ⟨hcoherent, fun c e j => ?_⟩
    rw [List.foldl_cons, hbears, bears_handOver hp]
    obtain ⟨t, k⟩ := d
    -- An edge that the leader has got from the head of the list is not one of `n`.
    have hleader : c = l → c ≠ n := fun h hn => hne (hn.symm.trans h)
    simp only [List.mem_cons, Prod.mk.injEq]
    constructor
    · rintro (⟨⟨hold, hno⟩ | ⟨rfl, rfl, hcovers⟩, hrest⟩ | ⟨rfl, k', hmem, hcovers⟩)
      · refine .inl ⟨hold, ?_⟩
        rintro ⟨hc, k', ⟨he, -⟩ | hmem⟩
        · exact hno ⟨hc, he⟩
        · exact hrest ⟨hc, k', hmem⟩
      · exact .inr ⟨rfl, k, .inl ⟨rfl, rfl⟩, hcovers⟩
      · exact .inr ⟨rfl, k', .inr hmem, hcovers⟩
    · rintro (⟨hold, hno⟩ | ⟨rfl, k', ⟨rfl, rfl⟩ | hmem, hcovers⟩)
      · refine .inl ⟨.inl ⟨hold, ?_⟩, ?_⟩
        · rintro ⟨hc, he⟩
          exact hno ⟨hc, k, .inl ⟨he, rfl⟩⟩
        · rintro ⟨hc, k', hmem⟩
          exact hno ⟨hc, k', .inr hmem⟩
      · exact .inl ⟨.inr ⟨rfl, rfl, hcovers⟩, fun h => hleader rfl h.1⟩
      · exact .inr ⟨rfl, k', hmem, hcovers⟩

/-- Handing dependencies over changes the graph alone. -/
theorem foldl_handOver_eq (n l : NodeId) (ds : List (NodeId × EdgeKind)) (p : Plan) :
    ds.foldl (handOver n l) p = { p with graph := (ds.foldl (handOver n l) p).graph } :=
  List.foldlRecOn (motive := fun q : Plan => q = { p with graph := q.graph }) ds _ rfl
    fun _ hq _ _ => congrArg (fun q : Plan => handOver n l q _) hq

/-- What putting a node under a leader comes to, the edges apart. -/
theorem setGroup_eq (h : p.setGroup n l = .ok p') :
    p.leader? n = none ∧ p' = { p with graph := p'.graph }.enlist n l := by
  unfold setGroup at h
  cases hfree : p.leader? n with
  | some old => rw [hfree] at h; cases h
  | none =>
    rw [hfree] at h
    obtain rfl := Except.ok.inj h
    refine ⟨rfl, ?_⟩
    conv_lhs => rw [foldl_handOver_eq]
    rfl

/-- Who leads whom after a node has been put under a leader. -/
theorem leader?_setGroup (h : p.setGroup n l = .ok p') :
    p.leader? n = none ∧ ∀ f, p'.leader? f = if f = n then some l else p.leader? f := by
  obtain ⟨hfree, heq⟩ := setGroup_eq h
  refine ⟨hfree, fun f => ?_⟩
  rw [heq]
  exact leader?_enlist (p := { p with graph := p'.graph }) hfree l f

/-- Every dependency of a node goes over to its leader, on which alone it depends. -/
theorem bears_setGroup (hp : p.graph.Coherent) (hne : n ≠ l) (h : p.setGroup n l = .ok p') :
    p'.graph.Coherent ∧ ∀ c e j, p'.graph.Bears c e j ↔
      (c ≠ n ∧ p.graph.Bears c e j) ∨ (c = l ∧ p.graph.Bears n e j) ∨ c = n ∧ e = l := by
  have hfree := (leader?_setGroup h).1
  unfold setGroup at h
  rw [hfree] at h
  obtain rfl := Except.ok.inj h
  obtain ⟨hcoherent, hbears⟩ := bears_foldl_handOver hne (p.graph.outgoing n) hp
  -- what is handed over is what the node bore
  have hout : ∀ e j, (∃ k, (e, k) ∈ p.graph.outgoing n ∧ k.Covers j) ↔ p.graph.Bears n e j := by
    intro e j
    unfold Digraph.Bears
    simp only [hp.toTidy.edge?_eq_some]
  refine ⟨coherent_link hcoherent, fun c e j => ?_⟩
  refine bears_link.trans ?_
  rw [hbears, hout]
  have hmem : p.graph.Bears n e j → ∃ k, (e, k) ∈ p.graph.outgoing n := by
    rintro ⟨k, hk, -⟩
    exact ⟨k, hp.toTidy.edge?_eq_some.1 hk⟩
  constructor
  · rintro ((⟨hold, hno⟩ | hmoved) | ⟨hc, he, -⟩)
    · refine .inl ⟨?_, hold⟩
      rintro rfl
      exact hno ⟨rfl, hmem hold⟩
    · exact .inr (.inl hmoved)
    · exact .inr (.inr ⟨hc, he⟩)
  · rintro (⟨hc, hold⟩ | hmoved | ⟨hc, he⟩)
    · exact .inl (.inl ⟨hold, fun h => hc h.1⟩)
    · exact .inl (.inr hmoved)
    · exact .inr ⟨hc, he, EdgeKind.hard_covers j⟩

/-! ## Nodes -/

/-- Two plans have the same nodes. -/
structure Alike (p q : Plan) : Prop where
  nodes : p.nodes = q.nodes
  elementNodes : p.elementNodes = q.elementNodes
  nextWork : p.nextWork = q.nextWork

theorem Alike.refl (p : Plan) : p.Alike p := ⟨rfl, rfl, rfl⟩

theorem Alike.symm (h : p.Alike q) : q.Alike p :=
  ⟨h.nodes.symm, h.elementNodes.symm, h.nextWork.symm⟩

theorem Alike.trans {r : Plan} (h : p.Alike q) (h' : q.Alike r) : p.Alike r :=
  ⟨h.nodes.trans h'.nodes, h.elementNodes.trans h'.elementNodes, h.nextWork.trans h'.nextWork⟩

/-- A group makes no nodes. -/
theorem alike_setGroup {n : NodeId} (h : p.setGroup n l = .ok p') : p'.Alike p := by
  rw [(setGroup_eq h).2]
  exact ⟨rfl, rfl, rfl⟩

/-- A dependency changes nothing but the edges. -/
theorem addDependency_eq {m n : NodeId} {k : EdgeKind} (h : p.addDependency m n k = .ok p') :
    p' = { p with graph := p'.graph } := by
  unfold Plan.addDependency at h
  obtain ⟨edge, -, h⟩ := bind_eq_ok.1 h
  cases edge with
  | none =>
    obtain rfl := Except.ok.inj h
    rfl
  | some edge =>
    obtain rfl := Except.ok.inj h
    rfl

/-! ## Leaders -/

/-- Nobody who leads is led. -/
def Flat (p : Plan) : Prop := ∀ f l, p.leader? f = some l → p.leader? l = none

/-- Those who are led stay led by the same node. -/
def LeadsOn (p p' : Plan) : Prop := ∀ f l, p.leader? f = some l → p'.leader? f = some l

theorem LeadsOn.of_eq (h : ∀ f, p'.leader? f = p.leader? f) : p.LeadsOn p' :=
  fun f _ hf => (h f).trans hf

/-- Leaders stay from call to call. -/
theorem LeadsOn.trans {p'' : Plan} (h : p.LeadsOn p') (h' : p'.LeadsOn p'') : p.LeadsOn p'' :=
  fun f l hf => h' f l (h f l hf)

theorem Sound.flat (hp : p.Sound) : p.Flat := fun _ _ h => hp.leader_free h

/-- If nobody leads a leader in the end, nobody did before. -/
theorem Flat.of_leadsOn (hp : p'.Flat) (h : p.LeadsOn p') : p.Flat := by
  intro f l hf
  cases hl : p.leader? l with
  | none => rfl
  | some m =>
    have hnone := hp f l (h f l hf)
    rw [h l m hl] at hnone
    cases hnone

/-- A group takes no leader away. -/
theorem leadsOn_setGroup (h : p.setGroup n l = .ok p') : p.LeadsOn p' := by
  obtain ⟨hfree, hleader⟩ := leader?_setGroup h
  intro f m hf
  rw [hleader, if_neg ?_, hf]
  rintro rfl
  rw [hfree] at hf
  cases hf

theorem leader?_addWork (p : Plan) (w : Work) (goal : Goal) (f : NodeId) :
    (p.addWork w goal).1.leader? f = p.leader? f := rfl

/-- What holds before some elements are adopted holds afterwards if adding an element and putting
a node under the leader keep it. -/
theorem adopt_induction {motive : Plan → Prop} {cs : List ElementChange}
    (hadd : ∀ q, ∀ c ∈ cs, motive q → motive (q.addElement c.element c.kind.goal).1)
    (hgroup : ∀ q q' n, motive q → q.setGroup n l = .ok q' → motive q') (h : motive p) :
    motive (adopt l cs p).1 := by
  induction cs generalizing p with
  | nil => exact h
  | cons c cs ih =>
    have hadded := hadd p c List.mem_cons_self h
    have ih' : ∀ {q}, motive q → motive (adopt l cs q).1 := fun hq =>
      ih (fun q c' hc' => hadd q c' (List.mem_cons_of_mem c hc')) hq
    unfold adopt
    simp only
    split
    · -- a node with a leader stays with it, and ends the adoption if that is another one
      split
      · exact ih' hadded
      · exact hadded
    · split
      next hone => exact ih' (hgroup _ _ _ hadded hone)
      next => exact hadded

/-- The plan after an action has been added, whether or not it was refused. -/
theorem fst_addAction (p : Plan) (a : Action) : (p.addAction a).1 =
    (adopt p.nodes.length a.changes (p.addWork (workOf a) a.kind.goal).1).1 := by
  have hn : (p.addWork (workOf a) a.kind.goal).2 = p.nodes.length := rfl
  rw [← hn]
  unfold addAction
  obtain ⟨q, n⟩ := p.addWork (workOf a) a.kind.goal
  simp only
  cases adopt n a.changes q with
  | mk q fault => cases fault <;> rfl

/-- To adopt changes takes no leader away. -/
theorem leadsOn_adopt (l : NodeId) (cs : List ElementChange) (p : Plan) :
    p.LeadsOn (adopt l cs p).1 :=
  adopt_induction (motive := p.LeadsOn)
    (fun q c _ hq => hq.trans (.of_eq (leader?_addElement q c.element c.kind.goal)))
    (fun _ _ _ hq hgroup => hq.trans (leadsOn_setGroup hgroup)) fun _ _ h => h

/-- To add an action takes no leader away. -/
theorem leadsOn_addAction (p : Plan) (a : Action) : p.LeadsOn (p.addAction a).1 := by
  rw [fst_addAction]
  exact (LeadsOn.of_eq (leader?_addWork p (workOf a) a.kind.goal)).trans (leadsOn_adopt _ _ _)

/-! ## What the edges are due to -/

/-- A record of the dependencies that have been asked for: which node, on which, of what kind. -/
abbrev Asked := NodeId → NodeId → EdgeKind → Prop

/-- One more dependency. -/
def Asked.and (asked : Asked) (m n : NodeId) (k : EdgeKind) : Asked :=
  fun m' n' k' => asked m' n' k' ∨ m' = m ∧ n' = n ∧ k' = k

/-- Something calls for an edge. -/
inductive Due (asked : Asked) (p : Plan) (a b : NodeId) : EdgeKind → Prop where
  /-- A dependency has been asked for, which the direction rule has leave `s`; if `s` is led it
  has gone to the leader. -/
  | asked {m n s : NodeId} {k : EdgeKind} (hasked : asked m n k)
      (hdirection : p.direction m n = .ok (some (s, b))) (hlead : p.lead s = a) : Due asked p a b k
  /-- The node is led. -/
  | led (hled : p.leader? a = some b) : Due asked p a b .hard

/-- The edges of a plan are those that are due, each as hard as it has to be. -/
structure Drawn (asked : Asked) (p : Plan) : Prop where
  coherent : p.graph.Coherent
  known : ∀ {m n k}, asked m n k → m < p.nodes.length ∧ n < p.nodes.length
  bears : ∀ a b j, p.graph.Bears a b j ↔ ∃ k, p.Due asked a b k ∧ k.Covers j

variable {asked asked' : Asked} {m : NodeId}

/-- The kind of an edge is the hardest of those that are due. -/
theorem Drawn.edge?_eq_some_iff (h : Drawn asked p) : p.graph.edge? a b = some k ↔
    p.Due asked a b k ∧ (k = .soft → ¬ p.Due asked a b .hard) := by
  rw [Digraph.edge?_eq_some_iff_bears, h.bears, h.bears]
  cases k with
  | hard => simp
  | soft =>
    simp only [EdgeKind.covers_soft, and_true, EdgeKind.covers_hard_iff, exists_eq_right,
      forall_const]
    refine and_congr_left fun hno => ⟨?_, fun h => ⟨_, h⟩⟩
    rintro ⟨k, hk⟩
    cases k with
    | hard => exact absurd hk hno
    | soft => exact hk

/-- More dependencies asked for are more edges due. -/
theorem Due.of_asked (hasked : ∀ m n k, asked m n k → asked' m n k) (h : p.Due asked a b k) :
    p.Due asked' a b k := by
  cases h with
  | asked h hdirection hlead => exact .asked (hasked _ _ _ h) hdirection hlead
  | led hled => exact .led hled

theorem Drawn.congr (h : Drawn asked p) (hasked : ∀ m n k, asked' m n k ↔ asked m n k) :
    Drawn asked' p := by
  obtain rfl : asked' = asked := by
    funext m n k
    exact propext (hasked m n k)
  exact h

/-- The direction of a dependency is read off the nodes alone. -/
theorem direction_congr (h : p'.nodes = p.nodes) (m n : NodeId) :
    p'.direction m n = p.direction m n := by
  unfold direction Plan.node label
  rw [h]

/-- The direction rule looks at the goals of the two nodes. -/
theorem direction_eq_some_iff {s t : NodeId} : p.direction m n = .ok (some (s, t)) ↔
    ∃ nm nn, p.nodes[m]? = some nm ∧ p.nodes[n]? = some nn ∧
      ((nm.goal = .deployed ∧ nn.goal = .deployed ∧ s = m ∧ t = n) ∨
        (nm.goal = .destroyed ∧ nn.goal = .destroyed ∧ s = n ∧ t = m)) := by
  unfold direction Plan.node
  cases hm : p.nodes[m]? with
  | none => simp [bind, Except.bind]
  | some nm =>
    cases hn : p.nodes[n]? with
    | none => simp [bind, Except.bind]
    | some nn =>
      cases hgm : nm.goal <;> cases hgn : nn.goal <;>
        simp [bind, Except.bind, pure, Except.pure, throw, throwThe, MonadExceptOf.throw, hgm, hgn,
          eq_comm]

/-- The goals of nodes do not change, and so neither do directions. -/
theorem Grows.direction_eq_some_iff (h : p.Grows p') (hm : m < p.nodes.length)
    (hn : n < p.nodes.length) {s t : NodeId} :
    p'.direction m n = .ok (some (s, t)) ↔ p.direction m n = .ok (some (s, t)) := by
  obtain ⟨nm, hnm⟩ := node_of_lt hm
  obtain ⟨nn, hnn⟩ := node_of_lt hn
  obtain ⟨nm', hnm', hgm, -⟩ := h.node hnm
  obtain ⟨nn', hnn', hgn, -⟩ := h.node hnn
  rw [Plan.direction_eq_some_iff, Plan.direction_eq_some_iff, hnm, hnn, hnm', hnn']
  simp [hgm, hgn]

/-! ## What the operations make of it -/

theorem Drawn.empty (goal : Goal) (context : Context) :
    Drawn (fun _ _ _ => False) (.empty goal context) where
  coherent := .empty
  known := nofun
  bears a b j := by
    constructor
    · rintro ⟨k, hk, -⟩
      cases hk
    · rintro ⟨k, hdue, -⟩
      cases hdue with
      | asked h => exact h.elim
      | led h => cases h

/-- What is due depends on directions and leaders. -/
theorem due_congr (hdirection : ∀ {m n k s t}, asked m n k →
      (p'.direction m n = .ok (some (s, t)) ↔ p.direction m n = .ok (some (s, t))))
    (hleader : ∀ f, p'.leader? f = p.leader? f) : p'.Due asked a b k ↔ p.Due asked a b k := by
  have hlead : ∀ s, p'.lead s = p.lead s := fun s => by
    unfold lead
    rw [hleader]
  constructor
  · intro h
    cases h with
    | asked h hd hs => exact .asked h ((hdirection h).1 hd) ((hlead _).symm.trans hs)
    | led hled => exact .led ((hleader a).symm.trans hled)
  · intro h
    cases h with
    | asked h hd hs => exact .asked h ((hdirection h).2 hd) ((hlead _).trans hs)
    | led hled => exact .led ((hleader a).trans hled)

/-- Adding nodes changes no edge. -/
theorem Drawn.of_grows (h : Drawn asked p) (hgrows : p.Grows p') (hcoherent : p'.graph.Coherent)
    (hedge : ∀ a b, p'.graph.edge? a b = p.graph.edge? a b)
    (hleader : ∀ f, p'.leader? f = p.leader? f) : Drawn asked p' where
  coherent := hcoherent
  known hk := by
    obtain ⟨hm, hn⟩ := h.known hk
    obtain ⟨nm, hnm⟩ := node_of_lt hm
    obtain ⟨nn, hnn⟩ := node_of_lt hn
    obtain ⟨nm', hnm', -⟩ := hgrows.node hnm
    obtain ⟨nn', hnn', -⟩ := hgrows.node hnn
    exact ⟨lt_of_node hnm', lt_of_node hnn'⟩
  bears a b j := by
    rw [Digraph.bears_congr (hedge a b), h.bears]
    refine exists_congr fun k => and_congr_left fun _ => (due_congr (fun hasked => ?_) hleader).symm
    exact hgrows.direction_eq_some_iff (h.known hasked).1 (h.known hasked).2

/-- A new element has no edges, and none that are due. -/
theorem Drawn.addElement (h : Drawn asked p) (e : Element) (goal : Goal) :
    Drawn asked (p.addElement e goal).1 := by
  refine h.of_grows (grows_addElement p e goal) ?_ (edge?_addElement p e goal)
    (leader?_addElement p e goal)
  cases hnode : p.nodeOf? e.id with
  | some n =>
    rw [addElement_of_some hnode]
    exact h.coherent
  | none =>
    rw [addElement_of_none hnode]
    exact h.coherent.addNode _

/-- New work has no edges, and none that are due. -/
theorem Drawn.addWork (h : Drawn asked p) (w : Work) (goal : Goal) :
    Drawn asked (p.addWork w goal).1 :=
  h.of_grows (grows_addWork p w goal) (h.coherent.addNode _) (fun _ _ => Digraph.edge?_addNode ..)
    (leader?_addWork p w goal)

theorem Drawn.known_and (h : Drawn asked p) (hm : m < p.nodes.length) (hn : n < p.nodes.length)
    {m' n' : NodeId} {k' : EdgeKind} (hk : asked.and m n k m' n' k') :
    m' < p.nodes.length ∧ n' < p.nodes.length := by
  rcases hk with hk | ⟨rfl, rfl, rfl⟩
  · exact h.known hk
  · exact ⟨hm, hn⟩

/-- A dependency to which the direction rule gives an edge. -/
theorem Drawn.link (h : Drawn asked p) (hm : m < p.nodes.length) (hn : n < p.nodes.length)
    {s t : NodeId} (hdirection : p.direction m n = .ok (some (s, t))) (k : EdgeKind) :
    Drawn (asked.and m n k) (p.link (p.lead s) t k) := by
  refine ⟨coherent_link h.coherent, h.known_and hm hn, fun a b j => ?_⟩
  -- an edge changes neither directions nor leaders, so the same is due with it
  have hsame : ∀ {a b k'}, (p.link (p.lead s) t k).Due (asked.and m n k) a b k' ↔
      p.Due (asked.and m n k) a b k' := by
    refine due_congr (fun _ => ?_) fun _ => rfl
    have hnodes : (p.link (p.lead s) t k).nodes = p.nodes := rfl
    rw [direction_congr hnodes]
  rw [bears_link, h.bears]
  simp only [hsame]
  constructor
  · rintro (⟨k', hdue, hcovers⟩ | ⟨rfl, rfl, hcovers⟩)
    · exact ⟨k', hdue.of_asked fun _ _ _ => .inl, hcovers⟩
    · exact ⟨k, .asked (.inr ⟨rfl, rfl, rfl⟩) hdirection rfl, hcovers⟩
  · rintro ⟨k', hdue, hcovers⟩
    cases hdue with
    | asked hasked hd hs =>
      rcases hasked with hasked | ⟨rfl, rfl, rfl⟩
      · exact .inl ⟨k', .asked hasked hd hs, hcovers⟩
      · obtain ⟨rfl, rfl⟩ : s = _ ∧ t = b := by simpa [hdirection] using hd
        exact .inr ⟨hs.symm, rfl, hcovers⟩
    | led hled => exact .inl ⟨.hard, .led hled, hcovers⟩

/-- A dependency that the direction rule drops or refuses calls for nothing. -/
theorem Drawn.and_of_none (h : Drawn asked p) (hm : m < p.nodes.length) (hn : n < p.nodes.length)
    (hnone : ∀ s t, p.direction m n ≠ .ok (some (s, t))) (k : EdgeKind) :
    Drawn (asked.and m n k) p := by
  refine ⟨h.coherent, h.known_and hm hn, fun a b j => ?_⟩
  rw [h.bears]
  refine exists_congr fun k' => and_congr_left fun _ =>
    ⟨fun hdue => hdue.of_asked fun _ _ _ => .inl, fun hdue => ?_⟩
  cases hdue with
  | asked hasked hd hs =>
    rcases hasked with hasked | ⟨rfl, rfl, rfl⟩
    · exact .asked hasked hd hs
    · exact absurd hd (hnone _ _)
  | led hled => exact .led hled

/-- A dependency that has been asked for is recorded, whether or not the call is refused. -/
theorem Drawn.addDependency (h : Drawn asked p) (hm : m < p.nodes.length)
    (hn : n < p.nodes.length) (k : EdgeKind) :
    Drawn (asked.and m n k) ((p.addDependency m n k).toOption.getD p) := by
  unfold Plan.addDependency
  cases hdirection : p.direction m n with
  | error f => exact h.and_of_none hm hn (by simp [hdirection]) k
  | ok edge =>
    cases edge with
    | none => exact h.and_of_none hm hn (by simp [hdirection]) k
    | some edge => exact h.link hm hn hdirection k

section Grouping

variable (hflat : p'.Flat) (hgroup : p.setGroup n l = .ok p')

include hgroup in
/-- After the grouping, what would leave the node leaves its leader. -/
theorem lead_setGroup (s : NodeId) : p'.lead s = if s = n then l else p.lead s := by
  unfold lead
  rw [(leader?_setGroup hgroup).2]
  by_cases hs : s = n <;> simp [hs]

include hflat hgroup

/-- Whoever is put under a leader leads nobody, not even itself. -/
theorem leader?_ne_of_setGroup (s : NodeId) : p'.leader? s ≠ some n := fun hs => by
  have hnone := hflat s n hs
  rw [(leader?_setGroup hgroup).2, if_pos rfl] at hnone
  cases hnone

/-- Only the node itself had its dependencies before it was put under a leader. -/
theorem eq_of_lead_setGroup {s : NodeId} (hs : p.lead s = n) : s = n := by
  cases hl : p.leader? s with
  | none => exact (lead_of_free hl).symm.trans hs
  | some x =>
    obtain rfl := (lead_of_led hl).symm.trans hs
    exact absurd (leadsOn_setGroup hgroup s x hl) (leader?_ne_of_setGroup hflat hgroup s)

/-- What is due once a node has been put under a leader: the leader has taken over from the node. -/
theorem due_setGroup_iff : p'.Due asked a b k ↔ (a ≠ n ∧ p.Due asked a b k) ∨
    (a = l ∧ p.Due asked n b k) ∨ a = n ∧ b = l ∧ k = .hard := by
  obtain ⟨hfree, hleader⟩ := leader?_setGroup hgroup
  have hdirection : ∀ s t, p'.direction s t = p.direction s t :=
    direction_congr (setGroup_same hgroup).1
  have hlead := lead_setGroup hgroup
  constructor
  · intro hdue
    cases hdue with
    | @asked _ _ s _ hasked hd hs =>
      rw [hdirection] at hd
      rw [hlead] at hs
      by_cases hsn : s = n
      · -- what left the node leaves its leader now
        rw [if_pos hsn] at hs
        exact .inr (.inl ⟨hs.symm, .asked hasked hd (by rw [hsn, lead_of_free hfree])⟩)
      · rw [if_neg hsn] at hs
        refine .inl ⟨fun ha => hsn ?_, .asked hasked hd hs⟩
        exact eq_of_lead_setGroup hflat hgroup (hs.trans ha)
    | led hf =>
      rw [hleader] at hf
      by_cases ha : a = n
      · rw [if_pos ha] at hf
        exact .inr (.inr ⟨ha, (Option.some.inj hf).symm, rfl⟩)
      · rw [if_neg ha] at hf
        exact .inl ⟨ha, .led hf⟩
  · rintro (⟨ha, hdue⟩ | ⟨rfl, hdue⟩ | ⟨rfl, rfl, rfl⟩)
    · cases hdue with
      | @asked _ _ s _ hasked hd hs =>
        have hsn : s ≠ n := by
          rintro rfl
          exact ha (hs.symm.trans (lead_of_free hfree))
        exact .asked hasked ((hdirection ..).trans hd) (by rw [hlead, if_neg hsn, hs])
      | led hf => exact .led ((hleader a).trans ((if_neg ha).trans hf))
    · cases hdue with
      | @asked _ _ s _ hasked hd hs =>
        have hsn := eq_of_lead_setGroup hflat hgroup hs
        exact .asked hasked ((hdirection ..).trans hd) (by rw [hlead, if_pos hsn])
      | led hf =>
        rw [hfree] at hf
        cases hf
    · exact .led ((hleader a).trans (if_pos rfl))

/-- Putting a node under a leader moves what is due to it, as long as the node leads nobody and is
not its own leader. -/
theorem Drawn.setGroup (h : Drawn asked p) : Drawn asked p' := by
  -- a node that led itself would be a leader and a follower at the end
  have hne : n ≠ l := by
    rintro rfl
    refine leader?_ne_of_setGroup hflat hgroup n ?_
    rw [(leader?_setGroup hgroup).2, if_pos rfl]
  have hnodes := (setGroup_same hgroup).1
  obtain ⟨hcoherent, hbears⟩ := bears_setGroup h.coherent hne hgroup
  refine ⟨hcoherent, fun hk => by rw [hnodes]; exact h.known hk, fun c e j => ?_⟩
  rw [hbears, h.bears, h.bears]
  simp only [due_setGroup_iff hflat hgroup]
  constructor
  · rintro (⟨hc, k, hdue, hcovers⟩ | ⟨hc, k, hdue, hcovers⟩ | ⟨hc, he⟩)
    · exact ⟨k, .inl ⟨hc, hdue⟩, hcovers⟩
    · exact ⟨k, .inr (.inl ⟨hc, hdue⟩), hcovers⟩
    · exact ⟨.hard, .inr (.inr ⟨hc, he, rfl⟩), EdgeKind.hard_covers j⟩
  · rintro ⟨k, ⟨hc, hdue⟩ | ⟨hc, hdue⟩ | ⟨hc, he, -⟩, hcovers⟩
    · exact .inl ⟨hc, k, hdue, hcovers⟩
    · exact .inr (.inl ⟨hc, k, hdue, hcovers⟩)
    · exact .inr (.inr ⟨hc, he⟩)

end Grouping

/-- Edges are drawn as they are due when changes are adopted. -/
theorem Drawn.adopt (h : Drawn asked p) {cs : List ElementChange}
    (hflat : (adopt l cs p).1.Flat) : Drawn asked (adopt l cs p).1 := by
  refine adopt_induction (motive := fun q => q.Flat → Drawn asked q) (fun q c _ hq hf => ?_)
    (fun q q' n hq hgroup hf => ?_) (fun _ => h) hflat
  · exact (hq (hf.of_leadsOn (.of_eq (leader?_addElement q c.element c.kind.goal)))).addElement _ _
  · exact (hq (hf.of_leadsOn (leadsOn_setGroup hgroup))).setGroup hf hgroup

/-- Edges are drawn as they are due when an action is added. -/
theorem Drawn.addAction (h : Drawn asked p) {a : Action} (hflat : (p.addAction a).1.Flat) :
    Drawn asked (p.addAction a).1 := by
  rw [fst_addAction] at hflat ⊢
  exact (h.addWork (workOf a) a.kind.goal).adopt hflat

end Plan

end Rollout
