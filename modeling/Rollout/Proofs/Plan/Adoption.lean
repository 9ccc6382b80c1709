import Rollout.Proofs.Plan.Roster

/-!
# Adopting elements

An action leads the elements that it changes.  It is refused at the first of them that another
action leads already, and otherwise all of them are led by it, and nothing else about the plan has
changed (`adopt_outcome`).
-/

namespace Rollout.Plan

variable {d : Deployment} {p p' q : Plan} {l n : NodeId} {c : ElementChange}
  {cs : List ElementChange}

/-- The element is led, by another node than `l`. -/
def taken (p : Plan) (l : NodeId) (e : ElementId) : Bool :=
  ((p.nodeOf? e).bind p.leader?).any (· != l)

/-- Adding an element gives it a node, and leaves the nodes of the others. -/
theorem nodeOf?_addElement_eq (p : Plan) (el : Element) (goal : Goal) (e : ElementId) :
    (p.addElement el goal).1.nodeOf? e =
      if e = el.id then some (p.addElement el goal).2 else p.nodeOf? e := by
  cases hn : p.nodeOf? el.id with
  | some n =>
    rw [addElement_of_some hn]
    by_cases he : e = el.id
    · rw [if_pos he, he, hn]
    · rw [if_neg he]
  | none =>
    rw [addElement_of_none hn]
    exact nodeOf?_withElement hn goal e

/-- What adopting one element comes to: it has a node, which is led, and nobody else's leader
changes. -/
structure Joins (l : NodeId) (c : ElementChange) (p q : Plan) : Prop where
  alike : q.Alike (p.addElement c.element c.kind.goal).1
  leader : ∃ n, q.nodeOf? c.element.id = some n ∧ q.leader? n = some l ∧
    ∀ f, f ≠ n → q.leader? f = p.leader? f

/-- How one change is adopted: its element gets a node and, if that has no leader yet, this one. -/
theorem adopt_cons_def (l : NodeId) (c : ElementChange) (cs : List ElementChange) (p : Plan) :
    adopt l (c :: cs) p =
      match (p.addElement c.element c.kind.goal).1.leader?
        (p.addElement c.element c.kind.goal).2 with
      | some m =>
        if m = l then adopt l cs (p.addElement c.element c.kind.goal).1
        else ((p.addElement c.element c.kind.goal).1, some (.duplicateAction c.element.id))
      | none =>
        match (p.addElement c.element c.kind.goal).1.setGroup
          (p.addElement c.element c.kind.goal).2 l with
        | .ok q => adopt l cs q
        | .error f => ((p.addElement c.element c.kind.goal).1, some f) := rfl

/-- Elements are adopted one after the other, up to the first that is refused. -/
theorem adopt_cons_eq (l : NodeId) (c : ElementChange) (cs : List ElementChange) (p : Plan) :
    adopt l (c :: cs) p =
      match adopt l [c] p with
      | (q, none) => adopt l cs q
      | (q, some f) => (q, some f) := by
  rw [adopt_cons_def, adopt_cons_def]
  cases (p.addElement c.element c.kind.goal).1.leader? (p.addElement c.element c.kind.goal).2 with
  | some m => by_cases hm : m = l <;> simp [hm, adopt]
  | none =>
    cases (p.addElement c.element c.kind.goal).1.setGroup
      (p.addElement c.element c.kind.goal).2 l <;> rfl

/-- The next node is not led before it is there. -/
theorem Sound.leader?_length (hp : p.Sound) : p.leader? p.nodes.length = none := by
  cases hl : p.leader? p.nodes.length with
  | none => rfl
  | some m => exact absurd (hp.source_lt (hp.edge_leader hl)) (Nat.lt_irrefl _)

/-- An element is adopted unless another node leads it. -/
theorem adopt_singleton (hp : p.leader? p.nodes.length = none) (l : NodeId) (c : ElementChange) :
    (p.taken l c.element.id = true ∧
      (adopt l [c] p).2 = some (.duplicateAction c.element.id)) ∨
    (p.taken l c.element.id = false ∧ ∃ q, adopt l [c] p = (q, none) ∧ Joins l c p q) := by
  have hnodeOf := nodeOf?_addElement p c.element c.kind.goal
  have hleader := leader?_addElement p c.element c.kind.goal
  rw [adopt_cons_def]
  -- The leader of the element is the same before and after it is added.
  have htaken : p.taken l c.element.id =
      (p.leader? (p.addElement c.element c.kind.goal).2).any (· != l) := by
    unfold taken
    cases hn : p.nodeOf? c.element.id with
    | some n => rw [addElement_of_some hn]; rfl
    | none =>
      rw [addElement_of_none hn, hp]
      rfl
  rw [htaken, hleader]
  cases hl : p.leader? (p.addElement c.element c.kind.goal).2 with
  | some m =>
    by_cases hm : m = l
    · have hjoins : Joins l c p (p.addElement c.element c.kind.goal).1 :=
        ⟨.refl _, _, hnodeOf, by rw [hleader, hl, hm], fun f _ => hleader f⟩
      exact .inr ⟨by simp [hm], _, by simp [hm, adopt], hjoins⟩
    · exact .inl ⟨by simp [hm], by simp [hm]⟩
  | none =>
    refine .inr ⟨rfl, ?_⟩
    have hfree := (hleader _).trans hl
    cases hgroup : (p.addElement c.element c.kind.goal).1.setGroup
        (p.addElement c.element c.kind.goal).2 l with
    | error f =>
      unfold setGroup at hgroup
      rw [hfree] at hgroup
      cases hgroup
    | ok q =>
      have halike := alike_setGroup hgroup
      have hq := (leader?_setGroup hgroup).2
      refine ⟨q, rfl, halike, _, ?_, (hq _).trans (if_pos rfl), fun f hf => ?_⟩
      · unfold nodeOf? at hnodeOf ⊢
        rw [halike.elementNodes, hnodeOf]
      · rw [hq, if_neg hf, hleader]

/-- To join a leader changes no element's node. -/
theorem Joins.nodeOf?_eq (h : Joins l c p q) (e : ElementId) : q.nodeOf? e =
    (p.addElement c.element c.kind.goal).1.nodeOf? e := by
  unfold nodeOf?
  rw [h.alike.elementNodes]

/-- Adopting an element that is free makes no other one taken, and none free. -/
theorem Joins.taken_eq (h : Joins l c p q) (hq : q.Indexed)
    (hfree : p.taken l c.element.id = false) (e : ElementId) : q.taken l e = p.taken l e := by
  obtain ⟨n, hn, hl, hother⟩ := h.leader
  by_cases he : e = c.element.id
  · rw [he, hfree]
    unfold taken
    rw [hn]
    show (q.leader? n).any (· != l) = false
    rw [hl]
    simp
  · unfold taken
    rw [h.nodeOf?_eq, nodeOf?_addElement_eq, if_neg he]
    cases hf : p.nodeOf? e with
    | none => rfl
    | some f =>
      have hne : f ≠ n := by
        -- A node stands for one element.
        rintro rfl
        refine he (hq.eq_of_nodeOf? ?_ hn)
        rw [h.nodeOf?_eq, nodeOf?_addElement_eq, if_neg he, hf]
      show (q.leader? f).any (· != l) = (p.leader? f).any (· != l)
      rw [hother f hne]

/-- What adopting some elements comes to, the edges apart. -/
structure Gathers (d : Deployment) (l : NodeId) (cs : List ElementChange) (p q : Plan) : Prop
    extends Adopted d l cs p q where
  roster : ∀ {es}, p.roster = firsts es →
    q.roster = firsts (es ++ cs.map fun c => (c.element, c.kind.goal))
  labelled : p.Labelled → q.Labelled
  nextWork : q.nextWork = p.nextWork
  newlyLed : ∀ {f m}, q.leader? f = some m →
    p.leader? f = some m ∨ m = l ∧ ∃ c ∈ cs, q.nodeOf? c.element.id = some f

/-- Elements take no numbers of work. -/
theorem nextWork_addElement (p : Plan) (e : Element) (goal : Goal) :
    (p.addElement e goal).1.nextWork = p.nextWork := by
  cases hn : p.nodeOf? e.id with
  | some n => rw [addElement_of_some hn]
  | none => rw [addElement_of_none hn]; rfl

/-- To adopt one change gathers its element. -/
theorem Joins.gathers (h : Joins l c p q) (hp : p.Sound) (hadopted : Adopted d l [c] p q) :
    Gathers d l [c] p q where
  toAdopted := hadopted
  roster hes := by
    rw [roster_congr h.alike.nodes]
    exact hp.roster_addElement hes c.element c.kind.goal
  labelled hp := (hp.addElement c.element c.kind.goal).of_alike h.alike
  nextWork := by
    rw [h.alike.nextWork, nextWork_addElement]
  -- only the node of the element has a new leader
  newlyLed {f m} hf := by
    obtain ⟨n, hn, hl, hother⟩ := h.leader
    by_cases hfn : f = n
    · rw [hfn, hl] at hf
      exact .inr ⟨(Option.some.inj hf).symm, c, List.mem_singleton_self c, hfn ▸ hn⟩
    · rw [hother f hfn] at hf
      exact .inl hf

/-- Changes are gathered one after another. -/
theorem Gathers.cons (h : Gathers d l [c] p q) (h' : Gathers d l cs q p') :
    Gathers d l (c :: cs) p p' where
  toAdopted := h.toAdopted.cons h'.toAdopted
  roster hes := by
    rw [h'.roster (h.roster hes), List.append_assoc]
    rfl
  labelled hp := h'.labelled (h.labelled hp)
  nextWork := h'.nextWork.trans h.nextWork
  newlyLed hf := by
    rcases h'.newlyLed hf with hf | ⟨hm, c', hc', hnodeOf⟩
    · rcases h.newlyLed hf with hf | ⟨hm, c', hc', hnodeOf⟩
      · exact .inl hf
      · exact .inr ⟨hm, c', List.mem_cons.2 (.inl (List.mem_singleton.1 hc')),
          h'.grows.nodeOf? hnodeOf⟩
    · exact .inr ⟨hm, c', List.mem_cons_of_mem c hc', hnodeOf⟩

/-- Adopting some elements succeeds unless one of them is taken, and then it is the first of these
that is refused. -/
theorem adopt_outcome (h : Bare d p) (hl : p.IsWork l)
    (hcs : ∀ c ∈ cs, c.element ∈ d.mentioned) :
    match adopt l cs p with
    | (q, none) => (∀ c ∈ cs, p.taken l c.element.id = false) ∧ Gathers d l cs p q
    | (_, some f) => ∃ c, cs.find? (fun c => p.taken l c.element.id) = some c ∧
        f = .duplicateAction c.element.id := by
  induction cs generalizing p with
  | nil => exact ⟨nofun, ⟨h, .refl p, rfl, nofun, .inl⟩, fun hes => by simpa using hes,
      fun h => h, rfl, .inl⟩
  | cons c cs ih =>
    rw [adopt_cons_eq]
    rcases adopt_singleton h.sound.leader?_length l c with
      ⟨htaken, hfault⟩ | ⟨hfree, q, hone, hjoins⟩
    · cases hone : adopt l [c] p with
      | mk q fault =>
        rw [hone] at hfault
        obtain rfl : fault = some _ := hfault
        exact ⟨c, by rw [List.find?_cons, htaken], rfl⟩
    · have hadopted : Adopted d l [c] p q := by
        obtain ⟨q', hq', hrest⟩ := adopt_cons h hl (hcs c List.mem_cons_self) hone
        obtain rfl : q' = q := (Prod.mk.inj hrest).1
        exact hq'
      have hgathers := hjoins.gathers h.sound hadopted
      have htaken := hjoins.taken_eq hadopted.bare.sound.indexed hfree
      have hrest := ih hadopted.bare (hl.grows hadopted.grows)
        fun c' hc' => hcs c' (List.mem_cons_of_mem c hc')
      rw [hone]
      -- Whether the others are taken has not changed.
      simp only [htaken] at hrest ⊢
      split at hrest
      next =>
        refine ⟨fun c' hc' => ?_, hgathers.cons hrest.2⟩
        rcases List.mem_cons.1 hc' with rfl | hc'
        · exact hfree
        · exact hrest.1 c' hc'
      next =>
        rw [List.find?_cons, hfree]
        exact hrest

end Rollout.Plan
