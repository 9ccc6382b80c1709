import Rollout.Proofs.Plan.Roster

/-!
# What can be wrong with a deployment

`Deployment.problems` lists everything that is wrong with a deployment, in the order in which the
construction of its plan comes upon it, and without building anything.  An attempt `Meets` a list
of problems if it fails with the fault of the first of them, and succeeds if there is none.
-/

namespace Rollout

/-- The fault of a node to be deployed that depends on one to be destroyed, by their labels. -/
def backwards (dependent dependency : String) : Fault :=
  .invalidGoalPair (Goal.deployed.name ++ "," ++ Goal.destroyed.name ++ " (" ++ dependent ++
    " -> " ++ dependency ++ ")")

/-- Something that is wrong with a deployment. -/
inductive Problem where
  /-- An element is to be there and to go. -/
  | bothWays (e : ElementId)
  /-- An element that an earlier action changes is changed by another one. -/
  | changedAgain (e : ElementId)
  /-- The action at a place destroys, and the next one, which is to follow it, deploys. -/
  | turnsBack (i : ℕ)
  /-- The relation of an element names one that is not mentioned. -/
  | unknown (e : Element) (r : Relation) (h : ElementId)
  /-- An element to be deployed names one to be destroyed. -/
  | doomed (e h : ElementId)

namespace Problem

/-- The fault that reports the problem. -/
def fault : Problem → Fault
  | bothWays e => .config ("Element '" ++ e ++ "' is both kept and deleted by this diff")
  | changedAgain e => .duplicateAction e
  | turnsBack i => backwards ("W:" ++ toString (i + 1)) ("W:" ++ toString i)
  | unknown e r h =>
    .config ("Element '" ++ e.id ++ "' depends on '" ++ h ++ "' (" ++ r.description ++
      "), which is not part of this deployment")
  | doomed e h => backwards ("E:" ++ e) ("E:" ++ h)

/-- An attempt comes to what a list of problems says: to the fault of the first, or to a result
with some property. -/
def Meets {α : Type} (problems : List Problem) (post : α → Prop) : Except Fault α → Prop
  | .ok a => problems = [] ∧ post a
  | .error f => ∃ problem, problems.head? = some problem ∧ f = problem.fault

variable {α β : Type} {ps ps' : List Problem} {post : α → Prop} {post' : β → Prop}

/-- Attempts one after the other meet their problems one after the other. -/
theorem Meets.bind {x : Except Fault α} {k : α → Except Fault β} (h : Meets ps post x)
    (hk : ∀ a, post a → Meets ps' post' (k a)) : Meets (ps ++ ps') post' (x >>= k) := by
  cases x with
  | error f =>
    obtain ⟨problem, hhead, hf⟩ := h
    refine ⟨problem, ?_, hf⟩
    rw [List.head?_append, hhead]
    rfl
  | ok a =>
    obtain ⟨rfl, ha⟩ := h
    exact hk a ha

/-- What is made of a result does not bear on the problems. -/
theorem Meets.map {x : Except Fault α} {f : α → β} (h : Meets ps post x)
    (hf : ∀ a, post a → post' (f a)) : Meets ps post' (f <$> x) := by
  cases x with
  | error f => exact h
  | ok a => exact ⟨h.1, hf a h.2⟩

theorem Meets.mono {post'' : α → Prop} {x : Except Fault α} (h : Meets ps post x)
    (hpost : ∀ a, post a → post'' a) : Meets ps post'' x := by
  cases x with
  | error f => exact h
  | ok a => exact ⟨h.1, hpost a h.2⟩

/-- An attempt that meets some problems fails if there are any. -/
theorem Meets.fails_iff {x : Except Fault α} (h : Meets ps post x) :
    (∃ f, x = .error f) ↔ ps ≠ [] := by
  cases x with
  | error f =>
    obtain ⟨problem, hhead, -⟩ := h
    refine ⟨fun _ hnil => ?_, fun _ => ⟨f, rfl⟩⟩
    rw [hnil] at hhead
    cases hhead
  | ok a =>
    refine ⟨?_, fun hne => absurd h.1 hne⟩
    rintro ⟨f, hx⟩
    cases hx

end Problem

namespace Deployment

/-! ## Steps -/

/-- The actions of a series, all but the first marked as following. -/
def chain : List Action → List (Bool × Action)
  | [] => []
  | a :: as => (false, a) :: as.map (true, ·)

/-- The actions in order, each with whether it follows the one before it in a series. -/
def steps (d : Deployment) : List (Bool × Action) :=
  d.actions.map (false, ·) ++ d.series.flatMap chain

/-- The steps of a series are its actions. -/
theorem map_snd_chain (as : List Action) : (chain as).map (·.2) = as := by
  cases as with
  | nil => rfl
  | cons a as => simp [chain, Function.comp_def]

/-- The steps of a deployment are its actions, in the order in which they are numbered. -/
theorem map_snd_steps (d : Deployment) : d.steps.map (·.2) = d.allActions := by
  unfold steps allActions
  rw [List.map_append, List.map_flatMap]
  simp [map_snd_chain, Function.comp_def, List.flatMap_id']

/-! ## Problems -/

/-- One of the steps changes the element. -/
def changedBy (before : List (Bool × Action)) (e : ElementId) : Bool :=
  before.any fun s => s.2.changes.any (·.element.id == e)

/-- The step is to follow one that destroys, and deploys. -/
def TurnsBack (before : List (Bool × Action)) (s : Bool × Action) : Prop :=
  s.1 = true ∧ before.getLast?.map (·.2.kind.goal) = some .destroyed ∧ s.2.kind.goal = .deployed

instance (before : List (Bool × Action)) (s : Bool × Action) : Decidable (TurnsBack before s) :=
  inferInstanceAs (Decidable (_ ∧ _ ∧ _))

/-- The problems of changes: those of elements that an earlier step changes. -/
def changeProblems (before : List (Bool × Action)) (a : Action) : List Problem :=
  (a.changes.filter fun c => changedBy before c.element.id).map fun c =>
    .changedAgain c.element.id

/-- The problems of a step after some others. -/
def stepProblems (before : List (Bool × Action)) (s : Bool × Action) : List Problem :=
  changeProblems before s.2 ++
    if TurnsBack before s then [.turnsBack (before.length - 1)] else []

/-- The problems of some steps after some others. -/
def stepsProblems (before : List (Bool × Action)) : List (Bool × Action) → List Problem
  | [] => []
  | s :: rest => stepProblems before s ++ stepsProblems (before ++ [s]) rest

/-- The goal of the node of an element: that of its list, or else that of its first change. -/
def goalOf? (d : Deployment) (e : ElementId) : Option Goal :=
  if d.present.any (·.id == e) then some .deployed
  else if d.deleted.any (·.id == e) then some .destroyed
  else ((d.allActions.flatMap (·.changes)).find? (·.element.id == e)).map (·.kind.goal)

/-- The goal of an element is that of its first entry. -/
theorem goalOf?_eq (d : Deployment) (e : ElementId) :
    d.goalOf? e = (d.listed.find? (·.1.id == e)).map (·.2) := by
  have hchanges : d.allActions.flatMap listedBy =
      (d.allActions.flatMap (·.changes)).map fun c => (c.element, c.kind.goal) := by
    rw [List.map_flatMap]
    rfl
  have hlist : ∀ (xs : List Element) (goal : Goal),
      (xs.map (·, goal)).find? (·.1.id == e) = (xs.find? (·.id == e)).map (·, goal) :=
    fun xs goal => List.find?_map ..
  have hany : ∀ xs : List Element, xs.any (·.id == e) = (xs.find? (·.id == e)).isSome :=
    fun xs => List.isSome_find?.symm
  unfold goalOf? listed
  rw [List.find?_append, List.find?_append, hlist, hlist, hchanges, List.find?_map, hany, hany]
  -- both sides look at what is present, then at what is deleted, then at the changes
  cases d.present.find? (·.id == e) with
  | some x => rfl
  | none =>
    cases d.deleted.find? (·.id == e) with
    | some x => rfl
    | none =>
      simp [Function.comp_def]

/-- The problem with an element, whose node has a goal, that names another one. -/
def handleProblem? (d : Deployment) (e : Element) (goal : Goal) (r : Relation) (h : ElementId) :
    Option Problem :=
  match d.goalOf? h with
  | none => some (.unknown e r h)
  | some g => if goal = .deployed ∧ g = .destroyed then some (.doomed e.id h) else none

/-- The problems with what an element names. -/
def relationProblems (d : Deployment) (x : Element × Goal) : List Problem :=
  match x.1.relation x.2 with
  | none => []
  | some r => r.handles.filterMap (d.handleProblem? x.1 x.2 r)

/-- The elements that are to be there and to go. -/
def contradictions (d : Deployment) : List Problem :=
  (d.deleted.filter fun e => d.present.any (·.id == e.id)).map fun e => .bothWays e.id

/-- Everything that is wrong with a deployment. -/
def problems (d : Deployment) : List Problem :=
  d.contradictions ++ (stepsProblems [] d.steps ++ (firsts d.listed).flatMap d.relationProblems)

end Deployment

end Rollout
