import Rollout.Proofs.Plan.Adoption
import Rollout.Proofs.Plan.Bookkeeping

/-!
# Nodes that are completed

A node that has reached its goal is taken out of the live graph.  But an edge brings its ends along,
so an operation that draws an edge at a completed node puts the node back.  Nothing else does: as
long as operations spare the completed nodes (`Op.Spares`), every node is either live or completed,
and one that has been taken out stays out (`completed_stay_completed`).

What an operation makes live is said by `Raised`, for each of the edits that it consists of.
-/

namespace Rollout.Plan

variable {p q r : Plan} {a b l n m : ℕ} {k : EdgeKind} {drawn drawn' : List NodeId}
  {c : ElementChange} {cs : List ElementChange} {op : Op} {ops more : List Op}

/-! ## Operations on nodes of the plan -/

namespace Op

/-- The nodes of the plan that an operation puts at the end of an edge. -/
def draws (p : Plan) : Op → List NodeId
  | call (.depend m n _) =>
    match p.direction m n with
    | .ok (some (s, t)) => [p.lead s, t]
    | _ => []
  | call (.group n l) => if p.leader? n = none then [n, l] else []
  -- the elements up to the first that another action leads
  | call (.action a) =>
    (a.changes.takeWhile fun c => !p.taken p.nodes.length c.element.id).filterMap
      fun c => p.nodeOf? c.element.id
  | _ => []

/-- No completed node is put at the end of an edge. -/
def Spares (p : Plan) (op : Op) : Prop := ∀ n ∈ op.draws p, p.isComplete n = false

/-- The plan has the nodes that the operation names. -/
def Knows (p : Plan) : Op → Prop
  | call c => c.Knows p
  | settle n _ | remove n => n < p.nodes.length

end Op

/-- The plan comes of operations each of which names nodes that are there, and spares those that are
completed. -/
inductive Spared (start : Plan) : List Op → Plan → Prop where
  | nil : Spared start [] start
  | snoc {ops : List Op} {p : Plan} (h : Spared start ops p) {op : Op} (hknows : op.Knows p)
      (hspares : op.Spares p) : Spared start (ops ++ [op]) (op.run p)

/-- Every node is either live or completed. -/
def Parted (p : Plan) : Prop := ∀ n < p.nodes.length, p.isLive n = !p.isComplete n

/-- The plan has all nodes that its graph and its other tables speak of. -/
structure SelfContained (p : Plan) : Prop where
  indexed : p.Indexed
  coherent : p.graph.Coherent
  leader_lt : ∀ {f l : ℕ}, p.leader? f = some l → f < p.nodes.length ∧ l < p.nodes.length
  live_lt : ∀ {n : ℕ}, p.isLive n = true → n < p.nodes.length
  complete_lt : ∀ {n : ℕ}, p.isComplete n = true → n < p.nodes.length

/-- A node that has still to come has no leader. -/
theorem SelfContained.leader?_length (h : p.SelfContained) : p.leader? p.nodes.length = none := by
  cases hl : p.leader? p.nodes.length with
  | none => rfl
  | some l => exact absurd (h.leader_lt hl).1 (Nat.lt_irrefl _)

theorem SelfContained.nodeOf?_lt (h : p.SelfContained) {e : ElementId} (hn : p.nodeOf? e = some n) :
    n < p.nodes.length := by
  obtain ⟨node, -, hnode, -⟩ := h.indexed.nodeOf?_eq_some_iff.1 hn
  exact lt_of_node hnode

/-! ## What becomes live -/

/-- Nodes are added, which are live, those that are drawn become so, and all others stay what they
were. -/
structure Raised (p : Plan) (drawn : List NodeId) (q : Plan) : Prop where
  contained : q.SelfContained
  length_le : p.nodes.length ≤ q.nodes.length
  completed : q.completed = p.completed
  live_iff : ∀ {n : ℕ}, q.isLive n = true ↔
    p.isLive n = true ∨ (p.nodes.length ≤ n ∧ n < q.nodes.length) ∨ n ∈ drawn

namespace Raised

theorem refl (h : p.SelfContained) : p.Raised [] p where
  contained := h
  length_le := Nat.le_refl _
  completed := rfl
  live_iff {n} := by
    have hnot : ¬(p.nodes.length ≤ n ∧ n < p.nodes.length) := fun h => absurd h.2 (Nat.not_lt.2 h.1)
    simp [hnot]

/-- What is drawn in two steps is drawn. -/
theorem trans (h : p.Raised drawn q) (h' : q.Raised drawn' r) : p.Raised (drawn ++ drawn') r where
  contained := h'.contained
  length_le := h.length_le.trans h'.length_le
  completed := h'.completed.trans h.completed
  live_iff {n} := by
    have hle := h.length_le
    have hle' := h'.length_le
    have hplaces : (p.nodes.length ≤ n ∧ n < r.nodes.length) ↔
        (p.nodes.length ≤ n ∧ n < q.nodes.length) ∨ q.nodes.length ≤ n ∧ n < r.nodes.length := by
      omega
    rw [h'.live_iff, h.live_iff, hplaces, List.mem_append]
    tauto

/-- What is live anyway need not be drawn. -/
theorem congr (h : p.Raised drawn q)
    (hsub : ∀ n ∈ drawn, p.isLive n = true ∨ (p.nodes.length ≤ n ∧ n < q.nodes.length) ∨ n ∈ drawn')
    (hsup : ∀ n ∈ drawn', q.isLive n = true) : p.Raised drawn' q where
  contained := h.contained
  length_le := h.length_le
  completed := h.completed
  live_iff {n} := by
    constructor
    · intro hn
      rcases h.live_iff.1 hn with hold | hnew | hdrawn
      · exact .inl hold
      · exact .inr (.inl hnew)
      · exact hsub n hdrawn
    · rintro (hold | hnew | hdrawn)
      · exact h.live_iff.2 (.inl hold)
      · exact h.live_iff.2 (.inr (.inl hnew))
      · exact hsup n hdrawn

theorem live (h : p.Raised drawn q) (hn : p.isLive n = true) : q.isLive n = true :=
  h.live_iff.2 (.inl hn)

/-- A new node is live. -/
theorem of_push (h : p.SelfContained) {node : Node} (hindexed : q.Indexed)
    (hnodes : q.nodes = p.nodes ++ [node]) (hgraph : q.graph = p.graph.addNode p.nodes.length)
    (hleader : ∀ f, q.leader? f = p.leader? f) (hcompleted : q.completed = p.completed) :
    p.Raised [] q := by
  have hlength : q.nodes.length = p.nodes.length + 1 := by rw [hnodes, List.length_append]; rfl
  -- the new node is live, and the others as before
  have hlive : ∀ {n : ℕ}, q.isLive n = true ↔ p.isLive n = true ∨ n = p.nodes.length := by
    intro n
    unfold isLive
    rw [hgraph, Digraph.contains_addNode, Bool.or_eq_true, beq_iff_eq]
  refine ⟨⟨hindexed, hgraph ▸ h.coherent.addNode _, fun {f l} hf => ?_, fun {n} hn => ?_,
    fun {n} hn => ?_⟩, by omega, hcompleted, fun {n} => ?_⟩
  · have hlt := h.leader_lt ((hleader f).symm.trans hf)
    omega
  · rcases hlive.1 hn with hn | hn
    · have hlt := h.live_lt hn
      omega
    · omega
  · unfold isComplete at hn
    rw [hcompleted] at hn
    have hlt := h.complete_lt hn
    omega
  · rw [hlive, hlength]
    have hplace : (p.nodes.length ≤ n ∧ n < p.nodes.length + 1) ↔ n = p.nodes.length := by omega
    simp only [hplace, List.not_mem_nil, or_false]

/-- To add an element draws no node back. -/
theorem addElement (h : p.SelfContained) (e : Element) (goal : Goal) :
    p.Raised [] (p.addElement e goal).1 := by
  cases hn : p.nodeOf? e.id with
  | some n =>
    rw [addElement_of_some hn]
    exact .refl h
  | none =>
    rw [addElement_of_none hn]
    exact .of_push h (h.indexed.withElement hn goal) rfl rfl (fun _ => rfl) rfl

/-- To add work draws no node back. -/
theorem addWork (h : p.SelfContained) (w : Work) (goal : Goal) : p.Raised [] (p.addWork w goal).1 :=
  .of_push h (h.indexed.addWork w goal) rfl rfl (fun _ => rfl) rfl

/-- An edge draws both its ends into the live graph. -/
theorem link (h : p.SelfContained) (ha : a < p.nodes.length) (hb : b < p.nodes.length)
    (k : EdgeKind) : p.Raised [a, b] (p.link a b k) := by
  have hlive : ∀ {n}, (p.link a b k).isLive n = true ↔ p.isLive n = true ∨ n = a ∨ n = b :=
    fun {n} => by
      show (p.graph.addEdge a b _).contains n = true ↔ _
      rw [h.coherent.contains_addEdge, Bool.or_eq_true, Bool.or_eq_true, beq_iff_eq, beq_iff_eq,
        or_assoc]
      rfl
  refine ⟨⟨⟨h.indexed.id_eq, h.indexed.nodeOf?_eq_some_iff, h.indexed.mem_followersOf⟩,
    coherent_link h.coherent, h.leader_lt, fun {n} hn => ?_, h.complete_lt⟩, Nat.le_refl _, rfl,
    fun {n} => ?_⟩
  · rcases hlive.1 hn with hn | rfl | rfl
    · exact h.live_lt hn
    · exact ha
    · exact hb
  · rw [hlive]
    have hnot : ¬(p.nodes.length ≤ n ∧ n < (p.link a b k).nodes.length) :=
      fun h => absurd h.2 (Nat.not_lt.2 h.1)
    simp [hnot]

/-- A dependency draws in the ends of its edge, if it has one. -/
theorem addDependency (h : p.SelfContained) (hm : m < p.nodes.length) (hn : n < p.nodes.length)
    (hadd : p.addDependency m n k = .ok q) : p.Raised (Op.draws p (.call (.depend m n k))) q := by
  unfold Plan.addDependency at hadd
  obtain ⟨edge, hdirection, hadd⟩ := bind_eq_ok.1 hadd
  show p.Raised (match p.direction m n with
    | .ok (some (s, t)) => [p.lead s, t]
    | _ => []) q
  rw [hdirection]
  -- nodes with opposite goals get no edge, or the call fails
  cases edge with
  | none => exact Except.ok.inj hadd ▸ .refl h
  | some edge =>
    obtain ⟨s, t⟩ := edge
    obtain rfl := Except.ok.inj hadd
    obtain ⟨_, _, -, -, hends⟩ := direction_eq_some_iff.1 hdirection
    have hst : s < p.nodes.length ∧ t < p.nodes.length := by
      rcases hends with ⟨-, -, rfl, rfl⟩ | ⟨-, -, rfl, rfl⟩
      · exact ⟨hm, hn⟩
      · exact ⟨hn, hm⟩
    refine .link h ?_ hst.2 k
    show p.lead s < p.nodes.length
    cases hl : p.leader? s with
    | none =>
      rw [lead_of_free hl]
      exact hst.1
    | some l =>
      rw [lead_of_led hl]
      exact (h.leader_lt hl).2

/-- Handing dependencies over makes at most the leader live. -/
theorem foldl_handOver (h : p.graph.Coherent) {ds : List (NodeId × EdgeKind)}
    (hds : ∀ d ∈ ds, p.isLive d.1 = true) :
    (ds.foldl (handOver n l) p).graph.Coherent ∧ ∀ x,
      (p.isLive x = true → (ds.foldl (handOver n l) p).isLive x = true) ∧
        ((ds.foldl (handOver n l) p).isLive x = true → p.isLive x = true ∨ x = l) := by
  refine List.foldlRecOn (motive := fun q : Plan => q.graph.Coherent ∧ ∀ x,
    (p.isLive x = true → q.isLive x = true) ∧ (q.isLive x = true → p.isLive x = true ∨ x = l)) ds _
    ⟨h, fun x => ⟨id, .inl⟩⟩ fun q ⟨hq, hlive⟩ d hd => ⟨coherent_handOver hq d, fun x => ?_⟩
  have hcontains : (handOver n l q d).isLive x = true ↔ q.isLive x = true ∨ x = l ∨ x = d.1 := by
    show ((q.graph.removeEdge n d.1).addEdge l d.1 _).contains x = true ↔ _
    rw [(hq.removeEdge n d.1).contains_addEdge, Digraph.contains_removeEdge, Bool.or_eq_true,
      Bool.or_eq_true, beq_iff_eq, beq_iff_eq, or_assoc]
    rfl
  rw [hcontains]
  refine ⟨fun hx => .inl ((hlive x).1 hx), ?_⟩
  rintro (hx | hx | hx)
  · exact (hlive x).2 hx
  · exact .inr hx
  · exact .inl (hx ▸ hds d hd)

/-- To set criteria draws no node back. -/
theorem withCriteria (h : p.SelfContained) (n : NodeId) (c : Criteria) :
    p.Raised [] (Deployment.withCriteria p n c) := by
  have hlength : (Deployment.withCriteria p n c).nodes.length = p.nodes.length :=
    List.length_modify ..
  refine ⟨⟨h.indexed.withCriteria n c, h.coherent, fun hf => ?_, fun hx => ?_, fun hx => ?_⟩,
    hlength.ge, rfl, fun {x} => ?_⟩
  · rw [hlength]
    exact h.leader_lt hf
  · rw [hlength]
    exact h.live_lt hx
  · rw [hlength]
    exact h.complete_lt hx
  · rw [hlength]
    exact (Raised.refl h).live_iff

/-- A group draws in the follower and its leader. -/
theorem setGroup (h : p.SelfContained) (hn : n < p.nodes.length) (hl : l < p.nodes.length)
    (hgroup : p.setGroup n l = .ok q) : p.Raised [n, l] q := by
  obtain ⟨hfree, hleader⟩ := leader?_setGroup hgroup
  have hnodes := (alike_setGroup hgroup).nodes
  have heq := (setGroup_eq hgroup).2
  have hindexed : q.Indexed := by
    rw [heq]
    have hgraph : { p with graph := q.graph }.Indexed :=
      ⟨h.indexed.id_eq, h.indexed.nodeOf?_eq_some_iff, h.indexed.mem_followersOf⟩
    exact hgraph.enlist hfree l
  have hlive : ∀ {x}, q.isLive x = true ↔ p.isLive x = true ∨ x = n ∨ x = l := fun {x} => by
    have houtgoing : ∀ d ∈ p.graph.outgoing n, p.isLive d.1 = true := fun d hd =>
      h.coherent.contains_target (List.mem_map_of_mem hd)
    obtain ⟨hcoherent, hover⟩ := foldl_handOver (n := n) (l := l) h.coherent houtgoing
    unfold Plan.setGroup at hgroup
    rw [hfree] at hgroup
    obtain rfl := Except.ok.inj hgroup
    show (Digraph.addEdge _ n l _).contains x = true ↔ _
    rw [hcoherent.contains_addEdge, Bool.or_eq_true, Bool.or_eq_true, beq_iff_eq, beq_iff_eq,
      or_assoc]
    refine ⟨?_, Or.imp_left (hover x).1⟩
    rintro (hx | hx)
    · exact ((hover x).2 hx).imp_right .inr
    · exact .inr hx
  have hcompleted : q.completed = p.completed := by rw [heq]; rfl
  refine ⟨⟨hindexed, coherent_setGroup h.coherent hgroup, fun {f m} hf => ?_, fun {x} hx => ?_,
    fun {x} hx => ?_⟩, by rw [hnodes], hcompleted, fun {x} => ?_⟩
  · rw [hleader] at hf
    rw [hnodes]
    split at hf
    next hfn => exact ⟨hfn ▸ hn, Option.some.inj hf ▸ hl⟩
    next => exact h.leader_lt hf
  · rw [hnodes]
    rcases hlive.1 hx with hx | rfl | rfl
    · exact h.live_lt hx
    · exact hn
    · exact hl
  · unfold isComplete at hx
    rw [hcompleted] at hx
    rw [hnodes]
    exact h.complete_lt hx
  · rw [hlive, hnodes]
    have hnot : ¬(p.nodes.length ≤ x ∧ x < p.nodes.length) :=
      fun h => absurd h.2 (Nat.not_lt.2 h.1)
    simp [hnot]

end Raised

/-! ## Adopting elements -/

/-- An element that another node leads is refused, and nothing is done about it. -/
theorem adopt_of_taken (htaken : p.taken l c.element.id = true) :
    adopt l (c :: cs) p = (p, some (.duplicateAction c.element.id)) := by
  unfold taken at htaken
  cases hn : p.nodeOf? c.element.id with
  | none =>
    rw [hn] at htaken
    cases htaken
  | some n =>
    rw [adopt_cons_def, addElement_of_some hn]
    rw [hn] at htaken
    replace htaken : (p.leader? n).any (· != l) = true := htaken
    simp only
    cases hl : p.leader? n with
    | none =>
      rw [hl] at htaken
      cases htaken
    | some m =>
      rw [hl] at htaken
      have hne : m ≠ l := by simpa using htaken
      simp [hne]

/-- An element has a node already, or it gets the next one. -/
theorem addElement_cases (p : Plan) (e : Element) (goal : Goal) :
    p.nodeOf? e.id = some (p.addElement e goal).2 ∨
      p.nodeOf? e.id = none ∧ (p.addElement e goal).2 = p.nodes.length := by
  cases hn : p.nodeOf? e.id with
  | some n => exact .inl (by rw [addElement_of_some hn])
  | none => exact .inr ⟨rfl, by rw [addElement_of_none hn]⟩

/-- An element that is adopted becomes live. -/
theorem SelfContained.adopt_singleton (h : p.SelfContained) (hl : p.isLive l = true)
    (hled : ∀ f, p.leader? f = some l → p.isLive f = true)
    (hfree : p.taken l c.element.id = false) :
    ∃ q, adopt l [c] p = (q, none) ∧ Joins l c p q ∧
      p.Raised (p.nodeOf? c.element.id).toList q := by
  rcases Plan.adopt_singleton h.leader?_length l c with ⟨htaken, -⟩ | ⟨-, q, hone, hjoins⟩
  · rw [hfree] at htaken
    cases htaken
  refine ⟨q, hone, hjoins, ?_⟩
  have hadded := Raised.addElement h c.element c.kind.goal
  have hnodeOf := nodeOf?_addElement p c.element c.kind.goal
  have hnew := addElement_cases p c.element c.kind.goal
  have hleader := leader?_addElement p c.element c.kind.goal
  have hlt := hadded.contained.nodeOf?_lt hnodeOf
  rw [adopt_cons_def] at hone
  generalize p.addElement c.element c.kind.goal = added at *
  obtain ⟨p₁, n⟩ := added
  simp only at *
  cases hn : p₁.leader? n with
  | some m =>
    -- it has joined the group before
    simp only [hn] at hone
    split at hone
    next hm =>
      obtain rfl : p₁ = q := (Prod.mk.inj hone).1
      have hold : p.leader? n = some l := by rw [← hleader, hn, hm]
      have hsome : p.nodeOf? c.element.id = some n := hnew.resolve_right fun ⟨_, heq⟩ =>
        absurd (h.leader_lt hold).1 (heq ▸ Nat.lt_irrefl _)
      rw [hsome]
      refine hadded.congr nofun fun x hx => ?_
      obtain rfl := List.mem_singleton.1 hx
      exact hadded.live (hled x hold)
    next => cases (Prod.mk.inj hone).2
  | none =>
    simp only [hn] at hone
    cases hgroup : p₁.setGroup n l with
    | error f =>
      rw [hgroup] at hone
      cases (Prod.mk.inj hone).2
    | ok q' =>
      rw [hgroup] at hone
      obtain rfl : q' = q := (Prod.mk.inj hone).1
      have hraised := hadded.trans
        (.setGroup hadded.contained hlt (hadded.contained.live_lt (hadded.live hl)) hgroup)
      refine hraised.congr (fun x hx => ?_) fun x hx => ?_
      · rcases List.mem_pair.1 hx with rfl | rfl
        · rcases hnew with hsome | ⟨-, heq⟩
          · exact .inr (.inr (by rw [hsome]; exact List.mem_singleton_self _))
          · refine .inr (.inl ⟨heq.ge, ?_⟩)
            exact hraised.contained.live_lt (hraised.live_iff.2 (.inr (.inr List.mem_cons_self)))
        · exact .inl hl
      · rcases hnew with hsome | ⟨hnone, -⟩
        · rw [hsome] at hx
          obtain rfl := List.mem_singleton.1 hx
          exact hraised.live_iff.2 (.inr (.inr List.mem_cons_self))
        · rw [hnone] at hx
          cases hx

/-- The elements that an action changes are adopted, up to the first that another one leads. -/
theorem SelfContained.adopt (h : p.SelfContained) (hl : p.isLive l = true)
    (hled : ∀ f, p.leader? f = some l → p.isLive f = true) :
    p.Raised ((cs.takeWhile fun c => !p.taken l c.element.id).filterMap
      fun c => p.nodeOf? c.element.id) (adopt l cs p).1 := by
  induction cs generalizing p with
  | nil => exact .refl h
  | cons c cs ih =>
    cases hfree : p.taken l c.element.id with
    | true =>
      rw [adopt_of_taken hfree, List.takeWhile_cons_of_neg (by simp [hfree])]
      exact .refl h
    | false =>
      obtain ⟨q, hone, hjoins, hraised⟩ := h.adopt_singleton hl hled hfree
      obtain ⟨n, hn, -, hother⟩ := hjoins.leader
      have hsome : p.nodeOf? c.element.id = some n ∨ p.nodes.length ≤ n := by
        rw [hjoins.nodeOf?_eq, nodeOf?_addElement] at hn
        exact Option.some.inj hn ▸ (addElement_cases p c.element c.kind.goal).imp_right
          fun ⟨_, heq⟩ => heq.ge
      -- the element's node is new, or it has been drawn in by the group
      have hlive : q.isLive n = true := hraised.live_iff.2 <| .inr <| by
        rcases hsome with hold | hle
        · exact .inr (Option.mem_toList.2 hold)
        · exact .inl ⟨hle, hraised.contained.nodeOf?_lt hn⟩
      have hrest := ih hraised.contained (hraised.live hl) fun f hf => by
        by_cases hfn : f = n
        · exact hfn ▸ hlive
        · exact hraised.live (hled f ((hother f hfn).symm.trans hf))
      have hboth := hraised.trans hrest
      rw [adopt_cons_eq, hone, List.takeWhile_cons_of_pos (by simp [hfree])]
      simp only [hjoins.taken_eq hraised.contained.indexed hfree] at hboth
      refine hboth.congr (fun x hx => ?_) fun x hx => ?_
      · rcases List.mem_append.1 hx with hx | hx
        · exact .inr (.inr (List.mem_filterMap.2
            ⟨c, List.mem_cons_self, Option.mem_toList.1 hx⟩))
        · obtain ⟨c', hc', hx⟩ := List.mem_filterMap.1 hx
          by_cases he : c'.element.id = c.element.id
          · obtain rfl : n = x := Option.some.inj (hn.symm.trans (he ▸ hx))
            rcases hsome with hold | hle
            · exact .inr (.inr (List.mem_filterMap.2 ⟨c, List.mem_cons_self, hold⟩))
            · exact .inr (.inl ⟨hle, hrest.contained.live_lt (hrest.live hlive)⟩)
          · rw [hjoins.nodeOf?_eq, nodeOf?_addElement_eq, if_neg he] at hx
            exact .inr (.inr (List.mem_filterMap.2 ⟨c', List.mem_cons_of_mem c hc', hx⟩))
      · refine hboth.live_iff.2 (.inr (.inr ?_))
        obtain ⟨c', hc', hold⟩ := List.mem_filterMap.1 hx
        rcases List.mem_cons.1 hc' with rfl | hc'
        · exact List.mem_append_left _ (Option.mem_toList.2 hold)
        · have hgrown := (grows_addElement p c.element c.kind.goal).nodeOf? hold
          rw [← hjoins.nodeOf?_eq] at hgrown
          exact List.mem_append_right _ (List.mem_filterMap.2 ⟨c', hc', hgrown⟩)

/-! ## Operations -/

/-- An operation that takes nothing out makes live what it draws an edge at, and what is new. -/
theorem SelfContained.run (h : p.SelfContained) (hknows : op.Knows p) (hop : ∀ n, op ≠ .remove n) :
    p.Raised (op.draws p) (op.run p) := by
  cases op with
  | call c =>
    cases c with
    | element e goal => exact .addElement h e goal
    | work w goal => exact .addWork h w goal
    | action a =>
      show p.Raised _ (p.addAction a).1
      have hwork := Raised.addWork h (workOf a) a.kind.goal
      have hnew : (p.addWork (workOf a) a.kind.goal).1.isLive p.nodes.length = true :=
        hwork.live_iff.2 (.inr (.inl ⟨Nat.le_refl _, Nat.lt_of_lt_of_eq (Nat.lt_succ_self _)
          (by simp [Plan.addWork, pushNode])⟩))
      rw [fst_addAction]
      -- the node of work is new, so that nobody is led by it so far
      refine hwork.trans (hwork.contained.adopt hnew fun f hf => ?_)
      exact absurd (h.leader_lt hf).2 (Nat.lt_irrefl _)
    | depend m n k =>
      show p.Raised _ ((p.addDependency m n k).toOption.getD p)
      cases hadd : p.addDependency m n k with
      | ok q => exact .addDependency h hknows.1 hknows.2 hadd
      | error f =>
        show p.Raised (match p.direction m n with
          | .ok (some (s, t)) => [p.lead s, t]
          | _ => []) p
        unfold Plan.addDependency at hadd
        cases hdirection : p.direction m n with
        | error f => exact .refl h
        | ok edge =>
          rw [hdirection] at hadd
          cases edge <;> cases hadd
    | group n l =>
      show p.Raised (if p.leader? n = none then [n, l] else []) ((p.setGroup n l).toOption.getD p)
      cases hgroup : p.setGroup n l with
      | ok q =>
        rw [if_pos (leader?_setGroup hgroup).1]
        exact .setGroup h hknows.1 hknows.2 hgroup
      | error f =>
        unfold Plan.setGroup at hgroup
        cases hl : p.leader? n with
        | none =>
          rw [hl] at hgroup
          cases hgroup
        | some old => exact .refl h
  | settle n c =>
    show p.Raised [] ((Deployment.setCriteria p n c).toOption.getD p)
    rcases toOption_getD_cases (Deployment.setCriteria p n c) p with heq | hok
    · rw [heq]
      exact .refl h
    · rw [(setCriteria_eq_ok_iff.1 hok).2]
      exact .withCriteria h n c
  | remove n => exact absurd rfl (hop n)

/-- A live node that is taken out is completed, and nothing else changes. -/
theorem SelfContained.removeNode (h : p.SelfContained) (hremove : p.removeNode n = .ok q) :
    q.SelfContained ∧ q.nodes = p.nodes ∧ (∀ x, q.isLive x = (p.isLive x && x != n)) ∧
      ∀ x, q.isComplete x = (p.isComplete x || x == n) := by
  obtain ⟨hn, rfl⟩ := removeNode_eq hremove
  have hlive : ∀ x, (p.graph.removeNode n).contains x = (p.graph.contains x && x != n) :=
    fun x => h.coherent.contains_removeNode n x
  -- a node is listed as completed once, however often it is removed
  have hcomplete : ∀ x, (if p.completed.contains n then p.completed
      else p.completed ++ [n]).contains x = (p.completed.contains x || x == n) := by
    intro x
    by_cases hx : x = n
    · split
      next hin => rw [hx, hin, Bool.true_or]
      next => simp [hx]
    · split <;> simp [hx]
  refine ⟨⟨⟨h.indexed.id_eq, h.indexed.nodeOf?_eq_some_iff, h.indexed.mem_followersOf⟩,
    h.coherent.removeNode n, h.leader_lt, fun {x} hx => ?_, fun {x} hx => ?_⟩, rfl, hlive,
    hcomplete⟩
  · exact h.live_lt (Bool.and_eq_true_iff.1 ((hlive x).symm.trans hx)).1
  · rcases (Bool.or_eq_true ..).mp ((hcomplete x).symm.trans hx) with hx | hx
    · exact h.complete_lt hx
    · exact h.live_lt (beq_iff_eq.1 hx ▸ hn)

/-- To complete a live node keeps live and completed nodes apart. -/
theorem SelfContained.parted_removeNode (h : p.SelfContained) (hparted : p.Parted)
    (hremove : p.removeNode n = .ok q) : q.Parted := by
  obtain ⟨-, hnodes, hlive, hcomplete⟩ := h.removeNode hremove
  intro x hx
  rw [hlive, hcomplete, hparted x (hnodes ▸ hx), Bool.not_or]
  rfl

/-- After an operation every node is still either live or completed, if and only if the operation
spares the completed nodes. -/
theorem SelfContained.parted_run_iff (h : p.SelfContained) (hparted : p.Parted)
    (hknows : op.Knows p) : (op.run p).Parted ↔ op.Spares p := by
  by_cases hop : ∃ n, op = .remove n
  · obtain ⟨n, rfl⟩ := hop
    refine iff_of_true ?_ nofun
    show Parted ((p.removeNode n).toOption.getD p)
    cases hremove : p.removeNode n with
    | error f => exact hparted
    | ok q => exact h.parted_removeNode hparted hremove
  · have hraised := h.run hknows fun n heq => hop ⟨n, heq⟩
    have hsame : ∀ x, (op.run p).isComplete x = p.isComplete x := fun x => by
      unfold isComplete
      rw [hraised.completed]
    constructor
    · intro hafter n hn
      have hlive := hraised.live_iff.2 (.inr (.inr hn))
      rw [hafter n (hraised.contained.live_lt hlive), hsame] at hlive
      exact Bool.not_eq_true' _ ▸ hlive
    · intro hspares x hx
      rw [hsame]
      cases hcomplete : p.isComplete x with
      -- a completed node is not live before the call, and does not become so unless it is drawn in
      | true =>
        have hlt := h.complete_lt hcomplete
        have hnot : p.isLive x = false := by rw [hparted x hlt, hcomplete]; rfl
        rw [Bool.not_true, ← Bool.not_eq_true, hraised.live_iff, hnot]
        rintro (hold | hnew | hdrawn)
        · cases hold
        · omega
        · rw [hspares x hdrawn] at hcomplete
          cases hcomplete
      | false =>
        refine hraised.live_iff.2 ?_
        by_cases hlt : x < p.nodes.length
        · exact .inl (by rw [hparted x hlt, hcomplete]; rfl)
        · exact .inr (.inl ⟨Nat.le_of_not_lt hlt, hx⟩)

/-- Operations that name nodes of a plan leave it self-contained, and what is completed stays so. -/
theorem SelfContained.run_contained (h : p.SelfContained) (hknows : op.Knows p) :
    (op.run p).SelfContained ∧ ∀ x, p.isComplete x = true → (op.run p).isComplete x = true := by
  by_cases hop : ∃ n, op = .remove n
  · obtain ⟨n, rfl⟩ := hop
    show SelfContained ((p.removeNode n).toOption.getD p) ∧
      ∀ x, p.isComplete x = true → ((p.removeNode n).toOption.getD p).isComplete x = true
    cases hremove : p.removeNode n with
    | error f => exact ⟨h, fun x hx => hx⟩
    | ok q =>
      obtain ⟨hcontained, -, -, hcomplete⟩ := h.removeNode hremove
      exact ⟨hcontained, fun x hx => by
        show q.isComplete x = true
        rw [hcomplete, hx, Bool.true_or]⟩
  · have hraised := h.run hknows fun n heq => hop ⟨n, heq⟩
    refine ⟨hraised.contained, fun x hx => ?_⟩
    unfold isComplete at hx ⊢
    rwa [hraised.completed]

theorem SelfContained.empty (goal : Goal) (context : Context) :
    (empty goal context).SelfContained where
  indexed := (Kept.empty goal context).toIndexed
  coherent := .empty
  leader_lt := nofun
  live_lt := nofun
  complete_lt := nofun

/-! ## Whole runs -/

/-- Calls that spare completed nodes keep live and completed nodes apart, and what is completed
stays so. -/
theorem Spared.parted (h : Spared p ops q) (hp : p.SelfContained) (hparted : p.Parted) :
    q.SelfContained ∧ q.Parted ∧ ∀ x, p.isComplete x = true → q.isComplete x = true := by
  induction h with
  | nil => exact ⟨hp, hparted, fun x hx => hx⟩
  | snoc _ hknows hspares ih =>
    obtain ⟨hcontained, hparted, hcomplete⟩ := ih
    obtain ⟨hcontained', hcomplete'⟩ := hcontained.run_contained hknows
    exact ⟨hcontained', (hcontained.parted_run_iff hparted hknows).2 hspares,
      fun x hx => hcomplete' x (hcomplete x hx)⟩

/-- As long as operations spare the completed nodes, every node is either live or completed, and a
node that has been taken out is not in the graph again, as a node, as a leaf or as the end of an
edge.  And they must spare them: an operation that does not leaves a node that is both. -/
theorem completed_stay_completed {goal : Goal} {context : Context}
    (h : Spared (.empty goal context) ops p) :
    (∀ n < p.nodes.length, p.isLive n = !p.isComplete n) ∧
    (∀ {n q more r}, p.removeNode n = .ok q → Spared q more r →
      n ∉ r.graph.nodes ∧ n ∉ r.leaves ∧
        ∀ m, r.graph.edge? n m = none ∧ r.graph.edge? m n = none) ∧
    ∀ op : Op, op.Knows p →
      ((∀ n < (op.run p).nodes.length, (op.run p).isLive n = !(op.run p).isComplete n) ↔
        op.Spares p) := by
  obtain ⟨hcontained, hparted, -⟩ := h.parted (.empty goal context) nofun
  refine ⟨hparted, fun {n q more r} hremove hmore => ?_,
    fun op hknows => hcontained.parted_run_iff hparted hknows⟩
  obtain ⟨hq, -, -, hcomplete⟩ := hcontained.removeNode hremove
  obtain ⟨hr, hrparted, hstays⟩ := hmore.parted hq (hcontained.parted_removeNode hparted hremove)
  have hdone : r.isComplete n = true := hstays n (by rw [hcomplete]; simp)
  have hnot : r.graph.contains n = false :=
    (hrparted n (hr.complete_lt hdone)).trans (by rw [hdone]; rfl)
  have habsent : ¬r.graph.contains n = true := by rw [hnot]; exact nofun
  exact ⟨fun hmem => habsent ((Digraph.contains_iff _ n).2 hmem),
    fun hmem => habsent (Digraph.mem_leaves.1 hmem).1, hr.coherent.edge?_of_absent hnot⟩

/-- Two elements are added. -/
def addTwo : List Op :=
  ["a", "b"].map fun e => .call (.element ⟨e, "test", true, fun _ => none, none⟩ .deployed)

/-- The plan of two elements. -/
def twoElements : Plan := after (.empty .deployed {}) addTwo

theorem spared_addTwo : Spared (.empty .deployed {}) addTwo twoElements := by
  show Spared _ ([] ++ [_] ++ [_]) _
  refine .snoc (.snoc .nil ?_ ?_) ?_ ?_
  · exact trivial
  · exact nofun
  · exact trivial
  · exact nofun

/-- A piece of work is added, and the first of the two elements made to depend on it. -/
def addWorkForFirst : List Op :=
  [.call (.work { description := "more" } .deployed), .call (.depend 0 2 .hard)]

theorem spared_addWorkForFirst : Spared (Op.run twoElements (.remove 1)) addWorkForFirst
    (after (Op.run twoElements (.remove 1)) addWorkForFirst) := by
  show Spared _ ([] ++ [_] ++ [_]) _
  refine .snoc (.snoc .nil ?_ ?_) ?_ ?_
  · exact trivial
  · exact nofun
  · exact ⟨by decide, by decide⟩
  · unfold Op.Spares
    decide

/-- The second element is taken out, and what is done for the first one does not bring it back. -/
theorem second_stays_out : Spared (.empty .deployed {}) addTwo twoElements ∧
    ∃ q, twoElements.removeNode 1 = .ok q ∧ Spared q addWorkForFirst (q.after addWorkForFirst) ∧
      (q.after addWorkForFirst).graph.edge? 0 2 = some .hard ∧
      1 ∉ (q.after addWorkForFirst).graph.nodes :=
  ⟨spared_addTwo, _, rfl, spared_addWorkForFirst, rfl,
    ((completed_stay_completed spared_addTwo).2.1 rfl spared_addWorkForFirst).1⟩

/-- The second element is taken out, and the first one is made to depend on it: it is completed, and
live again. -/
theorem second_comes_back :
    ∃ q r, twoElements.removeNode 1 = .ok q ∧ q.addDependency 0 1 .hard = .ok r ∧
      r.isComplete 1 = true ∧ r.isLive 1 = true ∧ 1 ∈ r.graph.nodes ∧ 1 ∈ r.leaves ∧
      r.graph.edge? 0 1 = some .hard :=
  ⟨_, _, rfl, rfl, rfl, rfl, by decide, by decide, rfl⟩

end Rollout.Plan
