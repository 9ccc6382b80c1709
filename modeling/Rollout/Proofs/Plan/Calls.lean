import Rollout.Proofs.Plan.Drawing

/-!
# Grouping and dependencies commute

A plan is put together by calls, in any order: a node may be put under a leader before or after its
dependencies are asked for, and a call may be refused.  The edges of the plan depend on none of
this.  They are those that are due in the end (`edges_in_closed_form`), so calls in another order
draw the same graph, as long as they leave every node with the same leader.
-/

namespace Rollout.Plan

variable {start p p' q : Plan} {cs cs' : List Call} {l : NodeId}

/-- A call that adds to a plan. -/
inductive Call where
  | element (e : Element) (goal : Goal)
  | work (w : Work) (goal : Goal)
  | action (a : Action)
  | depend (dependent dependency : NodeId) (k : EdgeKind)
  | group (n leader : NodeId)

namespace Call

/-- The plan after a call.  An action that is refused leaves what it has done, and any other call
that is refused leaves the plan as it was. -/
def run (p : Plan) : Call → Plan
  | element e goal => (p.addElement e goal).1
  | work w goal => (p.addWork w goal).1
  | action a => (p.addAction a).1
  | depend m n k => (p.addDependency m n k).toOption.getD p
  | group n l => (p.setGroup n l).toOption.getD p

/-- The call makes nodes. -/
def creates : Call → Bool
  | element _ _ | work _ _ | action _ => true
  | depend _ _ _ | group _ _ => false

/-- The plan has the nodes that the call names. -/
def Knows (p : Plan) : Call → Prop
  | element _ _ | work _ _ | action _ => True
  | depend m n _ => m < p.nodes.length ∧ n < p.nodes.length
  | group n l => n < p.nodes.length ∧ l < p.nodes.length

end Call

/-- The plan comes of a sequence of calls, each naming nodes that were there when it was made. -/
inductive Called (start : Plan) : List Call → Plan → Prop where
  | nil : Called start [] start
  | snoc {cs : List Call} {p : Plan} (h : Called start cs p) {c : Call} (hc : c.Knows p) :
      Called start (cs ++ [c]) (c.run p)

/-- The dependencies that some calls ask for. -/
def askedBy (cs : List Call) : Asked := fun m n k => .depend m n k ∈ cs

/-! ## The edges -/

/-- A call that may be refused leaves the plan as it was, or its result. -/
theorem toOption_getD_cases (x : Except Fault Plan) (p : Plan) :
    x.toOption.getD p = p ∨ x = .ok (x.toOption.getD p) := by
  cases x with
  | error f => exact .inl rfl
  | ok p' => exact .inr rfl

/-- No call takes a leader away. -/
theorem leadsOn_run (p : Plan) (c : Call) : p.LeadsOn (c.run p) := by
  cases c with
  | element e goal => exact .of_eq (leader?_addElement p e goal)
  | work w goal => exact .of_eq (leader?_addWork p w goal)
  | action a => exact leadsOn_addAction p a
  | depend m n k =>
    show p.LeadsOn ((p.addDependency m n k).toOption.getD p)
    rcases toOption_getD_cases (p.addDependency m n k) p with heq | hok
    · rw [heq]
      exact .of_eq fun _ => rfl
    · rw [addDependency_eq hok]
      exact .of_eq fun _ => rfl
  | group n l =>
    show p.LeadsOn ((p.setGroup n l).toOption.getD p)
    rcases toOption_getD_cases (p.setGroup n l) p with heq | hok
    · rw [heq]
      exact .of_eq fun _ => rfl
    · exact leadsOn_setGroup hok

theorem askedBy_snoc (cs : List Call) (c : Call) (m n : NodeId) (k : EdgeKind) :
    askedBy (cs ++ [c]) m n k ↔ askedBy cs m n k ∨ c = .depend m n k := by
  unfold askedBy
  rw [List.mem_append, List.mem_singleton, eq_comm (a := c)]

/-- One call keeps the edges to those that are due. -/
theorem Drawn.run (h : Drawn (askedBy cs) p) {c : Call} (hc : c.Knows p)
    (hflat : (c.run p).Flat) : Drawn (askedBy (cs ++ [c])) (c.run p) := by
  -- Only a dependency is recorded.
  have hsame : c.creates = true ∨ (∃ n l, c = .group n l) →
      ∀ m n k, askedBy (cs ++ [c]) m n k ↔ askedBy cs m n k := by
    intro hkind m n k
    rw [askedBy_snoc, or_iff_left]
    rintro rfl
    rcases hkind with hkind | ⟨_, _, hkind⟩ <;> cases hkind
  cases c with
  | element e goal => exact (h.addElement e goal).congr (hsame (.inl rfl))
  | work w goal => exact (h.addWork w goal).congr (hsame (.inl rfl))
  | action a => exact (h.addAction hflat).congr (hsame (.inl rfl))
  | depend m n k =>
    refine (h.addDependency hc.1 hc.2 k).congr fun m' n' k' => ?_
    rw [askedBy_snoc]
    simp [Asked.and, eq_comm]
  | group n l =>
    refine Drawn.congr ?_ (hsame (.inr ⟨n, l, rfl⟩))
    rcases toOption_getD_cases (p.setGroup n l) p with heq | hok
    · show Drawn (askedBy cs) ((p.setGroup n l).toOption.getD p)
      rw [heq]
      exact h
    · exact h.setGroup hflat hok

/-- Calls keep the edges to those that are due, as long as nobody who leads in the end is led. -/
theorem Called.drawn (h : Called start cs p) (hstart : Drawn (fun _ _ _ => False) start)
    (hflat : p.Flat) : Drawn (askedBy cs) p := by
  induction h with
  | nil => exact hstart.congr fun m n k => by simp [askedBy]
  | @snoc cs p _ c hc ih => exact (ih (hflat.of_leadsOn (leadsOn_run p c))).run hc hflat

/-- All that a follower depends on is its leader. -/
theorem Drawn.edge?_of_led {asked : Asked} (h : Drawn asked p) (hflat : p.Flat) {f : NodeId}
    (hf : p.leader? f = some l) {b : NodeId} {k : EdgeKind} :
    p.graph.edge? f b = some k ↔ b = l ∧ k = .hard := by
  have hdue : ∀ {k}, p.Due asked f b k ↔ b = l ∧ k = .hard := by
    intro k
    constructor
    · intro hdue
      cases hdue with
      | @asked _ _ s _ _ _ hs =>
        -- an edge that was asked for starts at a leader or at a free node, and `f` is neither
        cases hl : p.leader? s with
        | none =>
          rw [lead_of_free hl] at hs
          rw [hs, hf] at hl
          cases hl
        | some x =>
          rw [lead_of_led hl] at hs
          have hnone := hflat s x hl
          rw [hs, hf] at hnone
          cases hnone
      | led hled =>
        rw [hf] at hled
        exact ⟨(Option.some.inj hled).symm, rfl⟩
    · rintro ⟨rfl, rfl⟩
      exact .led hf
  rw [h.edge?_eq_some_iff, hdue, hdue]
  cases k <;> simp

/-! ## The nodes

Which nodes there are depends on the order of the calls only through the groups: an action that
comes upon an element of another group adds no further ones. -/

/-- An element that is added to plans with the same nodes gets the same node. -/
theorem Alike.addElement (h : p.Alike q) (e : Element) (goal : Goal) :
    (p.addElement e goal).1.Alike (q.addElement e goal).1 ∧
      (p.addElement e goal).2 = (q.addElement e goal).2 := by
  have hnodeOf : p.nodeOf? e.id = q.nodeOf? e.id := by
    unfold nodeOf?
    rw [h.elementNodes]
  -- both plans know the element, or neither does
  cases hn : p.nodeOf? e.id with
  | some n =>
    rw [addElement_of_some hn, addElement_of_some (hnodeOf ▸ hn)]
    exact ⟨h, rfl⟩
  | none =>
    rw [addElement_of_none hn, addElement_of_none (hnodeOf ▸ hn)]
    refine ⟨⟨?_, ?_, h.nextWork⟩, congrArg List.length h.nodes⟩
    · show p.nodes ++ [⟨p.nodes.length, _, _, _⟩] = q.nodes ++ [⟨q.nodes.length, _, _, _⟩]
      rw [h.nodes]
    · show p.elementNodes ++ [(_, p.nodes.length)] = q.elementNodes ++ [(_, q.nodes.length)]
      rw [h.elementNodes, h.nodes]

/-- Work that is added to plans with the same nodes gets the same node. -/
theorem Alike.addWork (h : p.Alike q) (w : Work) (goal : Goal) :
    (p.addWork w goal).1.Alike (q.addWork w goal).1 := by
  refine ⟨?_, h.elementNodes, congrArg (· + 1) h.nextWork⟩
  show p.nodes ++ [⟨p.nodes.length, "W:" ++ toString p.nextWork, _, _⟩] =
    q.nodes ++ [⟨q.nodes.length, "W:" ++ toString q.nextWork, _, _⟩]
  rw [h.nodes, h.nextWork]

/-- Add the elements of an action, up to the first that another node leads in the end. -/
def gather (led : NodeId → Option NodeId) (l : NodeId) : List ElementChange → Plan → Plan
  | [], p => p
  | c :: cs, p =>
    let (p, n) := p.addElement c.element c.kind.goal
    if led n = some l then gather led l cs p else p

/-- Add the nodes that a call makes, given who leads whom in the end. -/
def Call.raise (led : NodeId → Option NodeId) (p : Plan) : Call → Plan
  | element e goal => (p.addElement e goal).1
  | work w goal => (p.addWork w goal).1
  | action a => gather led p.nodes.length a.changes (p.addWork (workOf a) a.kind.goal).1
  | depend _ _ _ | group _ _ => p

variable {led : NodeId → Option NodeId}

/-- Whether an element is adopted shows in who leads it in the end. -/
theorem Alike.adopt (h : p.Alike q) {cs : List ElementChange}
    (hled : ∀ f m, (Plan.adopt l cs p).1.leader? f = some m → led f = some m) :
    (Plan.adopt l cs p).1.Alike (gather led l cs q) := by
  induction cs generalizing p q with
  | nil => exact h
  | cons c cs ih =>
    obtain ⟨hadded, hsnd⟩ := h.addElement c.element c.kind.goal
    unfold Plan.adopt at hled ⊢
    unfold gather
    simp only [← hsnd] at hled ⊢
    generalize p.addElement c.element c.kind.goal = added at *
    obtain ⟨p₁, n⟩ := added
    cases hn : p₁.leader? n with
    | some m =>
      simp only [hn] at hled ⊢
      by_cases hm : m = l
      · subst hm
        simp only [if_true] at hled ⊢
        rw [if_pos (hled n m (leadsOn_adopt m cs p₁ n m hn))]
        exact ih hadded hled
      · simp only [if_neg hm] at hled ⊢
        rw [if_neg]
        · exact hadded
        · rw [hled n m hn]
          exact fun heq => hm (Option.some.inj heq)
    | none =>
      simp only [hn] at hled ⊢
      -- a node without a leader can be grouped, so there is no error to stop at
      cases hgroup : p₁.setGroup n l with
      | error f =>
        unfold setGroup at hgroup
        rw [hn] at hgroup
        cases hgroup
      | ok p₂ =>
        simp only [hgroup] at hled ⊢
        have hl : p₂.leader? n = some l := ((leader?_setGroup hgroup).2 n).trans (if_pos rfl)
        rw [if_pos (hled n l (leadsOn_adopt l cs p₂ n l hl))]
        exact ih ((alike_setGroup hgroup).trans hadded) hled

/-- A call makes the nodes that it makes on its own, given who leads whom in the end. -/
theorem Alike.run (h : p.Alike q) {c : Call}
    (hled : ∀ f m, (c.run p).leader? f = some m → led f = some m) :
    (c.run p).Alike (c.raise led q) := by
  cases c with
  | element e goal => exact (h.addElement e goal).1
  | work w goal => exact h.addWork w goal
  | action a =>
    have hlength := congrArg List.length h.nodes
    have hsame : (Call.action a).run p =
        (Plan.adopt q.nodes.length a.changes (p.addWork (workOf a) a.kind.goal).1).1 := by
      rw [← hlength]
      exact fst_addAction p a
    rw [hsame] at hled ⊢
    exact (h.addWork (workOf a) a.kind.goal).adopt hled
  -- dependencies and groups make no nodes
  | depend m n k =>
    refine Alike.trans ?_ h
    show Plan.Alike ((p.addDependency m n k).toOption.getD p) p
    rcases toOption_getD_cases (p.addDependency m n k) p with heq | hok
    · rw [heq]
      exact .refl p
    · rw [addDependency_eq hok]
      exact ⟨rfl, rfl, rfl⟩
  | group n l =>
    refine Alike.trans ?_ h
    show Plan.Alike ((p.setGroup n l).toOption.getD p) p
    rcases toOption_getD_cases (p.setGroup n l) p with heq | hok
    · rw [heq]
      exact .refl p
    · exact alike_setGroup hok

/-- Calls that create nothing raise nothing. -/
theorem raise_of_not_creates {c : Call} (h : c.creates = false) (p : Plan) :
    c.raise led p = p := by
  cases c with
  | element e goal => cases h
  | work w goal => cases h
  | action a => cases h
  | depend m n k => rfl
  | group n l => rfl

/-- The nodes are those of the calls that make nodes. -/
theorem Called.alike (h : Called start cs p) (hled : ∀ f m, p.leader? f = some m → led f = some m) :
    p.Alike ((cs.filter Call.creates).foldl (Call.raise led) start) := by
  induction h with
  | nil => exact .refl start
  | @snoc cs p _ c _ ih =>
    have hrun := (ih fun f m hf => hled f m (leadsOn_run p c f m hf)).run hled
    rw [List.filter_append, List.foldl_append]
    cases hc : c.creates with
    | true => simpa [hc] using hrun
    | false =>
      rw [raise_of_not_creates hc] at hrun
      simpa [hc] using hrun

/-- Calls in another order make the same nodes, if those that make nodes keep theirs and every node
has the same leader in the end. -/
theorem Called.nodes_eq (h : Called start cs p) (h' : Called start cs' p')
    (hcreates : cs'.filter Call.creates = cs.filter Call.creates)
    (hleader : ∀ n, p'.leader? n = p.leader? n) : p'.nodes = p.nodes := by
  have hled : ∀ f m, p.leader? f = some m → p.leader? f = some m := fun _ _ hf => hf
  have hled' : ∀ f m, p'.leader? f = some m → p.leader? f = some m :=
    fun f _ hf => (hleader f).symm.trans hf
  have halike := h.alike hled
  have halike' := h'.alike hled'
  rw [hcreates] at halike'
  exact (halike'.trans halike.symm).nodes

/-! ## Any order -/

/-- The edges of a plan, whatever calls it comes of and in whatever order, as long as nobody who
leads in the end is led.  There is an edge from `a` to `b` for every dependency that was asked for
and that the direction rule has leave `a`, or a node that `a` leads, for `b`, and a hard one from
every follower to its leader; it is hard if anything calls for a hard one.  So a follower depends on
its leader alone, and calls in another order that leave every node with the same leader draw the
same edges. -/
theorem edges_in_closed_form {goal : Goal} {context : Context}
    (h : Called (.empty goal context) cs p) (hflat : p.Flat) :
    (∀ a b k, p.graph.edge? a b = some k ↔
      p.Due (askedBy cs) a b k ∧ (k = .soft → ¬ p.Due (askedBy cs) a b .hard)) ∧
    (∀ f l, p.leader? f = some l →
      ∀ b k, p.graph.edge? f b = some k ↔ b = l ∧ k = .hard) ∧
    ∀ cs' p', Called (.empty goal context) cs' p' → cs'.Perm cs →
      cs'.filter Call.creates = cs.filter Call.creates →
      (∀ n, p'.leader? n = p.leader? n) →
      ∀ a b, p'.graph.edge? a b = p.graph.edge? a b := by
  have hdrawn := h.drawn (Drawn.empty goal context) hflat
  refine ⟨fun a b k => hdrawn.edge?_eq_some_iff,
    fun f l hf b k => hdrawn.edge?_of_led hflat hf, ?_⟩
  intro cs' p' h' hperm hcreates hleader a b
  -- the same nodes are made, in the same order, by calls that create them in the same order
  have hnodes := h.nodes_eq h' hcreates hleader
  have hflat' : p'.Flat := fun f l hf => by
    rw [hleader] at hf ⊢
    exact hflat f l hf
  have hdrawn' : Drawn (askedBy cs) p' :=
    (h'.drawn (Drawn.empty goal context) hflat').congr fun _ _ _ => hperm.symm.mem_iff
  have hdue : ∀ {k}, p'.Due (askedBy cs) a b k ↔ p.Due (askedBy cs) a b k :=
    due_congr (fun _ => by rw [direction_congr hnodes]) hleader
  refine Option.ext fun k => ?_
  rw [hdrawn'.edge?_eq_some_iff, hdrawn.edge?_eq_some_iff, hdue, hdue]

/-! ## An example -/

/-- It is enough to look at the table of leaders to see that none is a follower. -/
theorem flat_of_leaders (h : ∀ row ∈ p.leaders, p.leader? row.2 = none) : p.Flat := by
  intro f l hf
  obtain ⟨before, after, heq, -⟩ := List.lookup_eq_some_iff.1 hf
  refine h (f, l) ?_
  rw [heq]
  exact List.mem_append_right _ List.mem_cons_self

/-- Two elements and two pieces of work are made, and two more calls follow. -/
def fourThen (c c' : Call) : List Call :=
  [.element ⟨"a", "test", true, fun _ => none, none⟩ .deployed,
    .element ⟨"b", "test", true, fun _ => none, none⟩ .deployed,
    .work { description := "one" } .deployed, .work { description := "two" } .deployed, c, c']

/-- The plan of those calls. -/
def drawn (c c' : Call) : Plan := (fourThen c c').foldl Call.run (.empty .deployed {})

theorem called_fourThen {c c' : Call}
    (hc : c.Knows (((fourThen c c').take 4).foldl Call.run (.empty .deployed {})))
    (hc' : c'.Knows (((fourThen c c').take 5).foldl Call.run (.empty .deployed {}))) :
    Called (.empty .deployed {}) (fourThen c c') (drawn c c') := by
  show Called _ ([] ++ [_] ++ [_] ++ [_] ++ [_] ++ [c] ++ [c']) _
  refine .snoc (.snoc (.snoc (.snoc (.snoc (.snoc .nil ?_) ?_) ?_) ?_) ?_) ?_
  · exact trivial
  · exact trivial
  · exact trivial
  · exact trivial
  · exact hc
  · exact hc'

theorem fourThen_swap (c c' : Call) : (fourThen c' c).Perm (fourThen c c') :=
  (List.Perm.swap c c' []).append_left ((fourThen c c').take 4)

/-- The first element joins the group of the first piece of work before or after it is made to
depend on the second element, and either way it is the work that depends on that one. -/
theorem grouped_draws_alike :
    Called (.empty .deployed {}) (fourThen (.depend 0 1 .soft) (.group 0 2))
      (drawn (.depend 0 1 .soft) (.group 0 2)) ∧
    (drawn (.depend 0 1 .soft) (.group 0 2)).Flat ∧
    (drawn (.depend 0 1 .soft) (.group 0 2)).graph.edge? 2 1 = some .soft ∧
    ∀ a b, (drawn (.group 0 2) (.depend 0 1 .soft)).graph.edge? a b =
      (drawn (.depend 0 1 .soft) (.group 0 2)).graph.edge? a b := by
  have hcalled : Called (.empty .deployed {}) (fourThen (.depend 0 1 .soft) (.group 0 2))
      (drawn (.depend 0 1 .soft) (.group 0 2)) :=
    called_fourThen ⟨by decide, by decide⟩ ⟨by decide, by decide⟩
  have hflat : (drawn (.depend 0 1 .soft) (.group 0 2)).Flat := flat_of_leaders (by decide)
  obtain ⟨-, -, hany⟩ := edges_in_closed_form hcalled hflat
  refine ⟨hcalled, hflat, rfl, hany (fourThen (.group 0 2) (.depend 0 1 .soft)) _ ?_
    (fourThen_swap _ _) rfl fun _ => rfl⟩
  exact called_fourThen ⟨by decide, by decide⟩ ⟨by decide, by decide⟩

/-- The order does matter to a node that is to join two groups: it stays in the first. -/
theorem regrouped_draws_otherwise :
    Called (.empty .deployed {}) (fourThen (.group 0 2) (.group 0 3))
      (drawn (.group 0 2) (.group 0 3)) ∧
    Called (.empty .deployed {}) (fourThen (.group 0 3) (.group 0 2))
      (drawn (.group 0 3) (.group 0 2)) ∧
    (fourThen (.group 0 3) (.group 0 2)).Perm (fourThen (.group 0 2) (.group 0 3)) ∧
    (fourThen (.group 0 3) (.group 0 2)).filter Call.creates =
      (fourThen (.group 0 2) (.group 0 3)).filter Call.creates ∧
    (drawn (.group 0 2) (.group 0 3)).Flat ∧ (drawn (.group 0 3) (.group 0 2)).Flat ∧
    (drawn (.group 0 2) (.group 0 3)).graph.edge? 0 2 = some .hard ∧
    (drawn (.group 0 3) (.group 0 2)).graph.edge? 0 2 = none :=
  ⟨called_fourThen ⟨by decide, by decide⟩ ⟨by decide, by decide⟩,
    called_fourThen ⟨by decide, by decide⟩ ⟨by decide, by decide⟩, fourThen_swap _ _, rfl,
    flat_of_leaders (by decide), flat_of_leaders (by decide), rfl, rfl⟩

end Rollout.Plan
