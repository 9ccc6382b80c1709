import Rollout.Proofs.Plan.Settling

/-!
# When a deployment has no plan

There are five things that can be wrong with a deployment.  `Problem.Holds` says of each what it is
in terms of what the deployment lists, and `Deployment.problems` lists exactly those that hold.  No
plan is built if one of them holds, and what is reported is the first.
-/

namespace Rollout

namespace Deployment

/-! ## What can be wrong -/

/-- The action changes the element. -/
def Changes (a : Action) (e : ElementId) : Prop := ∃ c ∈ a.changes, c.element.id = e

/-- The actions at the place `i` and after it are neighbours in a series. -/
def Neighbours (d : Deployment) (i : ℕ) : Prop :=
  ∃ pre group post j, d.series = pre ++ group :: post ∧ j + 1 < group.length ∧
    i = d.actions.length + pre.flatten.length + j

/-- Some element with the name is to be there, and some element with the name is to go. -/
def BothWays (d : Deployment) (e : ElementId) : Prop :=
  (∃ el ∈ d.present, el.id = e) ∧ ∃ el ∈ d.deleted, el.id = e

/-- Two actions change the element. -/
def ChangedTwice (d : Deployment) (e : ElementId) : Prop :=
  ∃ (i j : ℕ) (a b : Action), i < j ∧ d.allActions[i]? = some a ∧ d.allActions[j]? = some b ∧
    Changes a e ∧ Changes b e

/-- Of two neighbours in a series the first destroys and the second deploys. -/
def TurnsBackAt (d : Deployment) (i : ℕ) : Prop :=
  d.Neighbours i ∧ ∃ a b, d.allActions[i]? = some a ∧ d.allActions[i + 1]? = some b ∧
    a.kind.goal = .destroyed ∧ b.kind.goal = .deployed

/-- The element, which stands for its name, has a relation for the goal of its node, and the
relation names `h`. -/
def NamesUnder (d : Deployment) (e : Element) (goal : Goal) (r : Relation) (h : ElementId) : Prop :=
  d.find? e.id = some e ∧ d.goalOf? e.id = some goal ∧ e.relation goal = some r ∧ h ∈ r.handles

/-- The relation of an element names one that is not mentioned. -/
def NamesUnknown (d : Deployment) (e : Element) (r : Relation) (h : ElementId) : Prop :=
  (∃ goal, d.NamesUnder e goal r h) ∧ ∀ el ∈ d.mentioned, el.id ≠ h

/-- An element whose node is to be deployed names one whose node is to be destroyed. -/
def HoldsOnTo (d : Deployment) (e h : ElementId) : Prop :=
  (∃ el r, el.id = e ∧ d.NamesUnder el .deployed r h) ∧ d.goalOf? h = some .destroyed

end Deployment

/-- What the problem is about is so. -/
def Problem.Holds (d : Deployment) : Problem → Prop
  | .bothWays e => d.BothWays e
  | .changedAgain e => d.ChangedTwice e
  | .turnsBack i => d.TurnsBackAt i
  | .unknown e r h => d.NamesUnknown e r h
  | .doomed e h => d.HoldsOnTo e h

namespace Deployment

variable {d : Deployment} {before more : List (Bool × Action)} {s : Bool × Action}
  {problem : Problem}

/-! ## Series -/

/-- In a series every action but the first follows. -/
theorem follows_chain (group : List Action) (k : ℕ) :
    ((chain group)[k]?).map (·.1) = some true ↔ 0 < k ∧ k < group.length := by
  cases group with
  | nil => simp [chain]
  | cons a as =>
    cases k with
    | zero => simp [chain]
    | succ k =>
      rw [chain, List.getElem?_cons_succ, List.getElem?_map, List.length_cons]
      by_cases hk : k < as.length
      · rw [List.getElem?_eq_getElem hk]
        simpa using hk
      · rw [List.getElem?_eq_none (Nat.le_of_not_lt hk)]
        simpa using Nat.le_of_not_lt hk

theorem length_chain (group : List Action) : (chain group).length = group.length := by
  have := congrArg List.length (map_snd_chain group)
  simpa using this

/-- An action follows if it is in a series and not the first one there. -/
theorem follows_flatMap (groups : List (List Action)) (k : ℕ) :
    ((groups.flatMap chain)[k]?).map (·.1) = some true ↔
      ∃ pre group post j, groups = pre ++ group :: post ∧ j + 1 < group.length ∧
        k = pre.flatten.length + j + 1 := by
  induction groups generalizing k with
  | nil => simp
  | cons first groups ih =>
    rw [List.flatMap_cons]
    -- the place is in the first series, or it is one of the rest
    by_cases hk : k < first.length
    · rw [List.getElem?_append_left (by rw [length_chain]; exact hk), follows_chain]
      constructor
      · rintro ⟨hpos, -⟩
        exact ⟨[], first, groups, k - 1, rfl, by omega, by simp; omega⟩
      · rintro ⟨pre, group, post, j, -, -, rfl⟩
        exact ⟨by omega, hk⟩
    · rw [List.getElem?_append_right (by rw [length_chain]; omega), length_chain, ih]
      constructor
      · rintro ⟨pre, group, post, j, rfl, hj, hk'⟩
        refine ⟨first :: pre, group, post, j, rfl, hj, ?_⟩
        rw [List.flatten_cons, List.length_append]
        omega
      · rintro ⟨pre, group, post, j, heq, hj, hk'⟩
        cases pre with
        | nil =>
          obtain ⟨rfl, -⟩ := List.cons.inj heq
          simp at hk'
          omega
        | cons first' pre =>
          obtain ⟨rfl, hrest⟩ := List.cons.inj heq
          refine ⟨pre, group, post, j, hrest, hj, ?_⟩
          rw [List.flatten_cons, List.length_append] at hk'
          omega

/-- The steps that follow another one are the second ones of neighbours. -/
theorem follows_iff (d : Deployment) (i : ℕ) :
    (d.steps[i + 1]?).map (·.1) = some true ↔ d.Neighbours i := by
  unfold steps Neighbours
  by_cases hi : i + 1 < d.actions.length
  · rw [List.getElem?_append_left (by simpa using hi), List.getElem?_map,
      List.getElem?_eq_getElem hi]
    refine ⟨fun h => ?_, ?_⟩
    · cases h
    · rintro ⟨pre, group, post, j, -, -, rfl⟩
      omega
  · rw [List.getElem?_append_right (by simpa using hi), List.length_map, follows_flatMap]
    refine exists_congr fun pre => exists_congr fun group => exists_congr fun post =>
      exists_congr fun j => and_congr_right fun _ => and_congr_right fun _ => ?_
    omega

/-! ## Problems are what is wrong -/

/-- A contradiction is an element on both sides of the diff. -/
theorem mem_contradictions_iff :
    problem ∈ d.contradictions ↔ ∃ e, problem = .bothWays e ∧ d.BothWays e := by
  unfold contradictions BothWays
  simp only [List.mem_map, List.mem_filter, List.any_eq_true, beq_iff_eq]
  constructor
  · rintro ⟨el, ⟨hel, el', hel', hid⟩, rfl⟩
    exact ⟨el.id, rfl, ⟨el', hel', hid⟩, el, hel, rfl⟩
  · rintro ⟨e, rfl, ⟨el', hel', hid⟩, el, hel, rfl⟩
    exact ⟨el, ⟨hel, el', hel', hid⟩, rfl⟩

theorem changedBy_iff {e : ElementId} :
    changedBy before e = true ↔ ∃ s ∈ before, Changes s.2 e := by
  unfold changedBy Changes
  simp only [List.any_eq_true, beq_iff_eq]

/-- A step has a problem if it changes what an earlier one changes, or turns back on the one before.
-/
theorem mem_stepProblems_iff : problem ∈ stepProblems before s ↔
    (∃ e, problem = .changedAgain e ∧ Changes s.2 e ∧ changedBy before e = true) ∨
      problem = .turnsBack (before.length - 1) ∧ TurnsBack before s := by
  unfold stepProblems changeProblems Changes
  rw [List.mem_append, List.mem_map]
  refine or_congr ?_ ?_
  · simp only [List.mem_filter]
    constructor
    · rintro ⟨c, ⟨hc, hbefore⟩, rfl⟩
      exact ⟨c.element.id, rfl, ⟨c, hc, rfl⟩, hbefore⟩
    · rintro ⟨e, rfl, ⟨c, hc, rfl⟩, hbefore⟩
      exact ⟨c, ⟨hc, hbefore⟩, rfl⟩
  · split
    next h => simp [h]
    next h => simp [h]

/-- A problem of the steps is the problem of one of them, with those before it. -/
theorem mem_stepsProblems_iff : problem ∈ stepsProblems before more ↔
    ∃ i s, more[i]? = some s ∧ problem ∈ stepProblems (before ++ more.take i) s := by
  induction more generalizing before with
  | nil => simp [stepsProblems]
  | cons s more ih =>
    rw [stepsProblems, List.mem_append, ih]
    -- the steps before the later ones include the head, on both sides
    constructor
    · rintro (hfirst | ⟨i, s', hs', hlater⟩)
      · exact ⟨0, s, rfl, by simpa using hfirst⟩
      · exact ⟨i + 1, s', hs', by simpa using hlater⟩
    · rintro ⟨i, s', hs', hmem⟩
      cases i with
      | zero =>
        obtain rfl : s = s' := by simpa using hs'
        exact .inl (by simpa using hmem)
      | succ i => exact .inr ⟨i, s', by simpa using hs', by simpa using hmem⟩

/-- A step has the number of its action. -/
theorem action_of_step {i : ℕ} (hs : d.steps[i]? = some s) : d.allActions[i]? = some s.2 := by
  rw [← map_snd_steps, List.getElem?_map, hs]
  rfl

theorem step_of_action {i : ℕ} {a : Action} (ha : d.allActions[i]? = some a) :
    ∃ follows, d.steps[i]? = some (follows, a) := by
  rw [← map_snd_steps, List.getElem?_map] at ha
  obtain ⟨s, hs, rfl⟩ := Option.map_eq_some_iff.1 ha
  exact ⟨s.1, hs⟩

/-- A step is changed before at a lower place. -/
theorem changedBy_take_iff {j : ℕ} {e : ElementId} (hj : j < d.steps.length) :
    changedBy (d.steps.take j) e = true ↔
      ∃ i a, i < j ∧ d.allActions[i]? = some a ∧ Changes a e := by
  rw [changedBy_iff]
  constructor
  · rintro ⟨s, hs, hchanges⟩
    obtain ⟨i, hi⟩ := List.mem_iff_getElem?.1 hs
    have hlt : i < j := by
      have := (List.getElem?_eq_some_iff.1 hi).1
      rw [List.length_take] at this
      omega
    rw [List.getElem?_take_of_lt hlt] at hi
    exact ⟨i, s.2, hlt, action_of_step hi, hchanges⟩
  · rintro ⟨i, a, hlt, ha, hchanges⟩
    obtain ⟨follows, hs⟩ := step_of_action ha
    refine ⟨(follows, a), List.mem_of_getElem? (i := i) ?_, hchanges⟩
    rw [List.getElem?_take_of_lt hlt, hs]

/-- The step after the one at `i` turns back. -/
theorem turnsBack_take_iff {j : ℕ} (hs : d.steps[j]? = some s) :
    TurnsBack (d.steps.take j) s ↔ ∃ i, j = i + 1 ∧ d.TurnsBackAt i := by
  have hj := (List.getElem?_eq_some_iff.1 hs).1
  unfold TurnsBack TurnsBackAt
  cases j with
  | zero => simp
  | succ i =>
    -- the step before place `i + 1` is the one at place `i`
    have hlast : (d.steps.take (i + 1)).getLast? = d.steps[i]? := by
      rw [List.getLast?_eq_getElem?, List.length_take, Nat.min_eq_left (by omega)]
      exact List.getElem?_take_of_lt (by omega)
    rw [hlast]
    constructor
    · rintro ⟨hfollows, hprevious, hgoal⟩
      obtain ⟨s', hs', hgoal'⟩ := Option.map_eq_some_iff.1 hprevious
      refine ⟨i, rfl, (follows_iff d i).1 (by rw [hs, Option.map_some, hfollows]), s'.2, s.2,
        action_of_step hs', action_of_step hs, hgoal', hgoal⟩
    · rintro ⟨i', heq, hneighbours, a, b, ha, hb, hgoal, hgoal'⟩
      obtain rfl : i = i' := by omega
      have hfollows := (follows_iff d i).2 hneighbours
      rw [hs] at hfollows
      rw [action_of_step hs] at hb
      obtain rfl := Option.some.inj hb
      obtain ⟨follows, hs'⟩ := step_of_action ha
      exact ⟨Option.some.inj hfollows, by rw [hs', Option.map_some, hgoal], hgoal'⟩

/-- The problems of the steps are the elements that are changed twice and the series that turn back.
-/
theorem mem_problems_of_steps_iff : problem ∈ stepsProblems [] d.steps ↔
    (∃ e, problem = .changedAgain e ∧ d.ChangedTwice e) ∨
      ∃ i, problem = .turnsBack i ∧ d.TurnsBackAt i := by
  rw [mem_stepsProblems_iff]
  simp only [mem_stepProblems_iff, List.nil_append]
  constructor
  · rintro ⟨j, s, hs, ⟨e, rfl, hchanges, hbefore⟩ | ⟨rfl, hturns⟩⟩
    · have hj := (List.getElem?_eq_some_iff.1 hs).1
      obtain ⟨i, a, hlt, ha, hchanges'⟩ := (changedBy_take_iff hj).1 hbefore
      exact .inl ⟨e, rfl, i, j, a, s.2, hlt, ha, action_of_step hs, hchanges', hchanges⟩
    · have hj := (List.getElem?_eq_some_iff.1 hs).1
      obtain ⟨i, rfl, hat⟩ := (turnsBack_take_iff hs).1 hturns
      refine .inr ⟨i, ?_, hat⟩
      rw [List.length_take, Nat.min_eq_left (by omega), Nat.add_sub_cancel]
  · rintro (⟨e, rfl, i, j, a, b, hlt, ha, hb, hchanges, hchanges'⟩ | ⟨i, rfl, hat⟩)
    · obtain ⟨follows, hs⟩ := step_of_action hb
      have hj := (List.getElem?_eq_some_iff.1 hs).1
      exact ⟨j, (follows, b), hs, .inl ⟨e, rfl, hchanges',
        (changedBy_take_iff hj).2 ⟨i, a, hlt, ha, hchanges⟩⟩⟩
    · have ⟨_, _, b, _, hb, _⟩ := hat
      obtain ⟨follows, hs⟩ := step_of_action hb
      have hj := (List.getElem?_eq_some_iff.1 hs).1
      refine ⟨i + 1, (follows, b), hs, .inr ⟨?_, (turnsBack_take_iff hs).2 ⟨i, rfl, hat⟩⟩⟩
      rw [List.length_take, Nat.min_eq_left (by omega), Nat.add_sub_cancel]

/-- The first entries are the elements that stand for their names, with the goals of their
nodes. -/
theorem mem_firsts_listed_iff {e : Element} {goal : Goal} : (e, goal) ∈ firsts d.listed ↔
    d.find? e.id = some e ∧ d.goalOf? e.id = some goal := by
  rw [mem_firsts_iff, Plan.find?_eq, goalOf?_eq]
  cases d.listed.find? (·.1.id == e.id) with
  | none => simp
  | some x => simp [Prod.ext_iff]

/-- An element has no goal if and only if it is not mentioned. -/
theorem goalOf?_eq_none_iff {h : ElementId} :
    d.goalOf? h = none ↔ ∀ el ∈ d.mentioned, el.id ≠ h := by
  rw [goalOf?_eq, Option.map_eq_none_iff, List.find?_eq_none, ← map_fst_listed]
  simp

/-- A handle has a problem if it names nothing, or what is to go while the element is to be there.
-/
theorem handleProblem?_eq_some_iff {e : Element} {goal : Goal} {r : Relation} {h : ElementId} :
    d.handleProblem? e goal r h = some problem ↔
      (problem = .unknown e r h ∧ ∀ el ∈ d.mentioned, el.id ≠ h) ∨
        problem = .doomed e.id h ∧ goal = .deployed ∧ d.goalOf? h = some .destroyed := by
  rw [← goalOf?_eq_none_iff]
  unfold handleProblem?
  cases d.goalOf? h with
  | none => simp [eq_comm]
  | some g => cases goal <;> cases g <;> simp [eq_comm]

/-- The problems of a relation are those of its handles. -/
theorem mem_relationProblems_iff {e : Element} {goal : Goal} :
    problem ∈ d.relationProblems (e, goal) ↔ ∃ r h, e.relation goal = some r ∧ h ∈ r.handles ∧
      d.handleProblem? e goal r h = some problem := by
  unfold relationProblems
  cases hr : e.relation goal with
  | none => simp
  | some r => simp

/-- The problems of the relations are the handles that name nothing and those that hold on to what
is to go. -/
theorem mem_problems_of_relations_iff :
    problem ∈ (firsts d.listed).flatMap d.relationProblems ↔
      (∃ e r h, problem = .unknown e r h ∧ d.NamesUnknown e r h) ∨
        ∃ e h, problem = .doomed e h ∧ d.HoldsOnTo e h := by
  rw [List.mem_flatMap]
  constructor
  · rintro ⟨⟨e, goal⟩, hfirst, hmem⟩
    obtain ⟨hfind, hgoal⟩ := mem_firsts_listed_iff.1 hfirst
    obtain ⟨r, h, hr, hh, hproblem⟩ := mem_relationProblems_iff.1 hmem
    rcases handleProblem?_eq_some_iff.1 hproblem with ⟨rfl, hunknown⟩ | ⟨rfl, rfl, hdoomed⟩
    · exact .inl ⟨e, r, h, rfl, ⟨goal, hfind, hgoal, hr, hh⟩, hunknown⟩
    · exact .inr ⟨e.id, h, rfl, ⟨e, r, rfl, hfind, hgoal, hr, hh⟩, hdoomed⟩
  · rintro (⟨e, r, h, rfl, ⟨goal, hfind, hgoal, hr, hh⟩, hunknown⟩ |
      ⟨_, h, rfl, ⟨e, r, rfl, hfind, hgoal, hr, hh⟩, hdoomed⟩)
    · exact ⟨(e, goal), mem_firsts_listed_iff.2 ⟨hfind, hgoal⟩, mem_relationProblems_iff.2
        ⟨r, h, hr, hh, handleProblem?_eq_some_iff.2 (.inl ⟨rfl, hunknown⟩)⟩⟩
    · exact ⟨(e, .deployed), mem_firsts_listed_iff.2 ⟨hfind, hgoal⟩, mem_relationProblems_iff.2
        ⟨r, h, hr, hh, handleProblem?_eq_some_iff.2 (.inr ⟨rfl, rfl, hdoomed⟩)⟩⟩

/-- The problems of a deployment are those that hold. -/
theorem mem_problems_iff : problem ∈ d.problems ↔ problem.Holds d := by
  unfold problems
  rw [List.mem_append, List.mem_append, mem_contradictions_iff, mem_problems_of_steps_iff,
    mem_problems_of_relations_iff]
  cases problem <;> simp [Problem.Holds]

/-! ## Refusals -/

/-- A deployment has no plan if and only if an element is to be there and to go, or two actions
change one element, or a series destroys and then deploys, or a relation names what is not
mentioned, or an element to be deployed names one to be destroyed.  What is reported is the first
of the problems that hold, in the order in which the plan is built, and it is never a defect. -/
theorem plan_fails_exactly (d : Deployment) :
    ((∃ f, d.plan = .error f) ↔ (∃ e, d.BothWays e) ∨ (∃ e, d.ChangedTwice e) ∨
      (∃ i, d.TurnsBackAt i) ∨ (∃ e r h, d.NamesUnknown e r h) ∨ ∃ e h, d.HoldsOnTo e h) ∧
    (∀ problem, problem ∈ d.problems ↔ problem.Holds d) ∧
    ∀ f, d.plan = .error f →
      (∃ problem, d.problems.head? = some problem ∧ f = problem.fault) ∧ f.isDefect = false := by
  have hmeets := Plan.plan_meets d
  refine ⟨?_, fun problem => mem_problems_iff, fun f hf => ?_⟩
  · rw [hmeets.fails_iff]
    constructor
    · intro hne
      obtain ⟨problem, hmem⟩ := List.exists_mem_of_ne_nil _ hne
      have hholds := mem_problems_iff.1 hmem
      cases problem with
      | bothWays e => exact .inl ⟨e, hholds⟩
      | changedAgain e => exact .inr (.inl ⟨e, hholds⟩)
      | turnsBack i => exact .inr (.inr (.inl ⟨i, hholds⟩))
      | unknown e r h => exact .inr (.inr (.inr (.inl ⟨e, r, h, hholds⟩)))
      | doomed e h => exact .inr (.inr (.inr (.inr ⟨e, h, hholds⟩)))
    · intro hbad
      obtain ⟨problem, hholds⟩ : ∃ problem : Problem, problem.Holds d := by
        rcases hbad with ⟨e, h⟩ | ⟨e, h⟩ | ⟨i, h⟩ | ⟨e, r, x, h⟩ | ⟨e, x, h⟩
        · exact ⟨.bothWays e, h⟩
        · exact ⟨.changedAgain e, h⟩
        · exact ⟨.turnsBack i, h⟩
        · exact ⟨.unknown e r x, h⟩
        · exact ⟨.doomed e x, h⟩
      exact List.ne_nil_of_mem (mem_problems_iff.2 hholds)
  · rw [hf] at hmeets
    -- the fault is that of the first problem, and no problem's fault is a defect
    obtain ⟨problem, hhead, rfl⟩ := hmeets
    refine ⟨⟨problem, hhead, rfl⟩, ?_⟩
    cases problem <;> rfl

/-- An element is to be there and to go, and two actions change it. -/
def torn : Deployment :=
  let el : Element := { id := "torn", component := "test" }
  { added := [el]
    deleted := [el]
    actions := [⟨.create, "mend", [⟨.create, el, "mend"⟩], 0⟩,
      ⟨.delete, "tear", [⟨.delete, el, "tear"⟩], 1⟩] }

/-- It is refused for the first of its two problems. -/
theorem torn_is_refused : torn.BothWays "torn" ∧ torn.ChangedTwice "torn" ∧
    torn.plan = .error (Problem.bothWays "torn").fault := by
  have hboth : torn.BothWays "torn" := ⟨⟨_, List.mem_singleton_self _, rfl⟩,
    _, List.mem_singleton_self _, rfl⟩
  have htwice : torn.ChangedTwice "torn" := ⟨0, 1, _, _, Nat.zero_lt_one, rfl, rfl,
    ⟨_, List.mem_singleton_self _, rfl⟩, _, List.mem_singleton_self _, rfl⟩
  obtain ⟨hrefused, -, hfirst⟩ := plan_fails_exactly torn
  obtain ⟨f, hf⟩ := hrefused.2 (.inl ⟨_, hboth⟩)
  obtain ⟨⟨problem, hhead, rfl⟩, -⟩ := hfirst f hf
  have hproblem : torn.problems.head? = some (.bothWays "torn") := rfl
  obtain rfl := Option.some.inj (hproblem.symm.trans hhead)
  exact ⟨hboth, htwice, hf⟩

end Deployment

end Rollout
