import Rollout.Proofs.Relation.Footprint

/-!
# The course of an evaluation

To evaluate a relation, however deep, is to go through its leaves once from left to right: an edge
is passed if the element at its end can be waited for, a condition is asked, and the first edge
whose element cannot be waited for ends it (`ready_eq_goThrough`).  What is pending on the way makes
no difference.  The inverse goes through the same leaves and looks at the other ends of the edges
(`goes_through_leaves`).

An environment is passed from question to question, and so it can also keep a record of them
(`recording`); the conditions that an evaluation asks are those on the record.
-/

namespace Rollout.Relation

/-- The condition at a leaf. -/
def condition? : Relation → Option Condition
  | condition c => some c
  | none | edge _ _ | all _ => Option.none

/-- The fault that an outcome is, if it is one. -/
def fault? {α : Type} : Except Fault α → Option Fault
  | .ok _ => Option.none
  | .error f => some f

theorem fault?_eq_some_iff {α : Type} {x : Except Fault α} {f : Fault} :
    fault? x = some f ↔ x = .error f := by
  cases x <;> simp [fault?]

/-- The leaf lets an evaluation pass that looks at the ends of edges given by `end?`. -/
def Passes (view : View) (end? : Relation → Option ElementId) (leaf : Relation) : Prop :=
  ∀ e, end? leaf = some e → ∃ b, view e = .ok b

/-! ## Going through a list of leaves -/

section Leaves

variable {ω : Type} (view : View) (ask : Condition → ω → Readiness × ω)
  (end? : Relation → Option ElementId)

/-- The fault at a leaf. -/
def faultAt (leaf : Relation) : Option Fault := (end? leaf).bind fun e => fault? (view e)

/-- The environment behind a leaf. -/
def askAt (leaf : Relation) (w : ω) : ω :=
  match leaf.condition? with
  | some c => (ask c w).2
  | Option.none => w

/-- Go through leaves until one has a fault. -/
def goThrough : List Relation → ω → Option Fault × ω
  | [], w => (Option.none, w)
  | l :: ls, w =>
    match faultAt view end? l with
    | some f => (some f, w)
    | Option.none => goThrough ls (askAt ask l w)

end Leaves

variable {ω : Type} {view : View} {ask : Condition → ω → Readiness × ω}
  {end? : Relation → Option ElementId}

theorem faultAt_eq_none_iff {l : Relation} : faultAt view end? l = Option.none ↔
    Passes view end? l := by
  unfold faultAt Passes
  cases end? l with
  | none => simp
  | some e => cases hv : view e <;> simp [fault?, hv]

theorem faultAt_eq_some_iff {l : Relation} {f : Fault} : faultAt view end? l = some f ↔
    ∃ e, end? l = some e ∧ view e = .error f := by
  unfold faultAt
  rw [Option.bind_eq_some_iff]
  simp only [fault?_eq_some_iff]

theorem goThrough_cons_of_fault {l : Relation} {f : Fault} (h : faultAt view end? l = some f)
    (ls : List Relation) (w : ω) : goThrough view ask end? (l :: ls) w = (some f, w) := by
  unfold goThrough
  rw [h]

theorem goThrough_cons_of_passes {l : Relation} (h : Passes view end? l) (ls : List Relation)
    (w : ω) :
    goThrough view ask end? (l :: ls) w = goThrough view ask end? ls (askAt ask l w) := by
  rw [goThrough, faultAt_eq_none_iff.2 h]

/-- The second part of a list is gone through if the first has no fault. -/
theorem goThrough_append (ls ms : List Relation) (w : ω) :
    goThrough view ask end? (ls ++ ms) w =
      match goThrough view ask end? ls w with
      | (some f, w') => (some f, w')
      | (Option.none, w') => goThrough view ask end? ms w' := by
  induction ls generalizing w with
  | nil => rfl
  | cons l ls ih =>
    cases h : faultAt view end? l with
    | some f => rw [List.cons_append, goThrough_cons_of_fault h, goThrough_cons_of_fault h]
    | none =>
      have hpass := faultAt_eq_none_iff.1 h
      rw [List.cons_append, goThrough_cons_of_passes hpass, goThrough_cons_of_passes hpass, ih]

/-- Leaves that all can be passed are all gone through. -/
theorem goThrough_of_passes {ls : List Relation} (h : ∀ l ∈ ls, Passes view end? l) (w : ω) :
    goThrough view ask end? ls w = (Option.none, ls.foldl (fun w l => askAt ask l w) w) := by
  induction ls generalizing w with
  | nil => rfl
  | cons l ls ih =>
    rw [goThrough_cons_of_passes (h l List.mem_cons_self),
      ih fun l' hl' => h l' (List.mem_cons_of_mem _ hl')]
    rfl

/-- A fault is found if and only if one of the leaves has one. -/
theorem exists_fault_goThrough_iff (ls : List Relation) (w : ω) :
    (∃ f, (goThrough view ask end? ls w).1 = some f) ↔
      ∃ l ∈ ls, ∃ f, faultAt view end? l = some f := by
  induction ls generalizing w with
  | nil => simp [goThrough]
  | cons l ls ih =>
    cases h : faultAt view end? l with
    | some f =>
      rw [goThrough_cons_of_fault h]
      exact iff_of_true ⟨f, rfl⟩ ⟨l, List.mem_cons_self, f, h⟩
    | none =>
      rw [goThrough_cons_of_passes (faultAt_eq_none_iff.1 h), ih]
      simp [h]

/-! ## Evaluations -/

mutual

/-- To evaluate a relation is to go through its leaves. -/
theorem ready_eq_goThrough (r : Relation) (w : ω) :
    (fault? (r.ready view ask w).1, (r.ready view ask w).2) =
      goThrough view ask target? r.leaves w := by
  cases r with
  | none => rfl
  | condition c => rfl
  | edge source target =>
    show (fault? (edgeReady view target), w) = goThrough view ask target? [edge source target] w
    unfold goThrough faultAt edgeReady
    cases hv : view target with
    | error f => simp [target?, hv, fault?]; rfl
    | ok b => cases b <;> simp [target?, hv, fault?] <;> rfl
  | all rs =>
    unfold ready leaves
    rw [← pendingOf_eq_goThrough rs w]
    rcases pendingOf view ask rs w with ⟨f | pending, w'⟩ <;> rfl

theorem pendingOf_eq_goThrough (rs : List Relation) (w : ω) :
    (fault? (pendingOf view ask rs w).1, (pendingOf view ask rs w).2) =
      goThrough view ask target? (leavesAll rs) w := by
  cases rs with
  | nil => rfl
  | cons r rs =>
    unfold leavesAll pendingOf
    rw [goThrough_append, ← ready_eq_goThrough r w]
    rcases r.ready view ask w with ⟨f | answer, w'⟩
    · rfl
    · simp only [fault?]
      rw [← pendingOf_eq_goThrough rs w']
      rcases pendingOf view ask rs w' with ⟨f | pending, w''⟩ <;> rfl

end

theorem condition?_inverse (r : Relation) : r.inverse.condition? = r.condition? := by
  cases r <;> rfl

/-- Seen from the other side, the leaves are the same and the other ends are looked at. -/
theorem goThrough_map_inverse (ls : List Relation) (w : ω) :
    goThrough view ask target? (ls.map inverse) w = goThrough view ask source? ls w := by
  induction ls generalizing w with
  | nil => rfl
  | cons l ls ih =>
    have hfault : faultAt view target? l.inverse = faultAt view source? l := by
      unfold faultAt
      rw [target?_inverse]
    have hask : askAt ask l.inverse w = askAt ask l w := by
      unfold askAt
      rw [condition?_inverse]
    rw [List.map_cons, goThrough, goThrough, hfault, hask]
    cases faultAt view source? l with
    | some f => rfl
    | none => exact ih _

theorem ready_inverse_eq_goThrough (r : Relation) (w : ω) :
    (fault? (r.inverse.ready view ask w).1, (r.inverse.ready view ask w).2) =
      goThrough view ask source? r.leaves w := by
  rw [ready_eq_goThrough, leaves_inverse, goThrough_map_inverse]

/-! ## The record of an evaluation -/

/-- An environment that keeps a record of the conditions it is asked. -/
def recording (ask : Condition → ω → Readiness × ω) (c : Condition) (x : ω × List Condition) :
    Readiness × ω × List Condition :=
  ((ask c x.1).1, (ask c x.1).2, x.2 ++ [c])

/-- The conditions that an evaluation asks, in order. -/
def calls (view : View) (ask : Condition → ω → Readiness × ω) (r : Relation) (w : ω) :
    List Condition :=
  (r.ready view (recording ask) (w, [])).2.2

/-- The record makes no difference to the evaluation. -/
theorem ready_recording (r : Relation) (w : ω) :
    (r.ready view (recording ask) (w, [])).1 = (r.ready view ask w).1 := by
  have hask : AnswerAlike r.leaves ask (recording ask) fun w x => x.1 = w := by
    rintro c - w x rfl
    exact ⟨rfl, rfl⟩
  exact (ready_alike r (fun _ _ => rfl) hask rfl).1.symm

theorem record_of_leaves (ls : List Relation) (x : ω × List Condition) :
    (ls.foldl (fun x l => askAt (recording ask) l x) x).2 = x.2 ++ ls.filterMap condition? := by
  induction ls generalizing x with
  | nil => simp
  | cons l ls ih =>
    rw [List.foldl_cons, ih, List.filterMap_cons]
    unfold askAt
    cases l.condition? with
    | none => rfl
    | some c => simp [recording]

/-! ## What comes of an evaluation -/

/-- The evaluation of `r` goes through the leaves `ls` and looks at the ends of edges given by
`end?`.  It fails if and only if an element at one of these ends has a fault; the fault is then the
first one, and the conditions asked are those before it.  That they are recorded changes nothing
about the outcome. -/
structure Traverses (view : View) (ask : Condition → ω → Readiness × ω) (r : Relation) (w : ω)
    (ls : List Relation) (end? : Relation → Option ElementId) : Prop where
  fails_iff : (∃ f, (r.ready view ask w).1 = .error f) ↔
    ∃ l ∈ ls, ∃ e f, end? l = some e ∧ view e = .error f
  first_fault : ∀ {before after : List Relation} {l : Relation} {e : ElementId} {f : Fault},
    ls = before ++ l :: after → (∀ l' ∈ before, Passes view end? l') → end? l = some e →
      view e = .error f →
        (r.ready view ask w).1 = .error f ∧ r.calls view ask w = before.filterMap condition?
  no_fault : (∀ l ∈ ls, Passes view end? l) → r.calls view ask w = ls.filterMap condition?
  unobserved : (r.ready view (recording ask) (w, [])).1 = (r.ready view ask w).1

theorem traverses_of_goThrough {r : Relation} {ls : List Relation}
    (h : ∀ {ω : Type} (ask : Condition → ω → Readiness × ω) (w : ω),
      (fault? (r.ready view ask w).1, (r.ready view ask w).2) = goThrough view ask end? ls w)
    (ask : Condition → ω → Readiness × ω) (w : ω) : r.Traverses view ask w ls end? := by
  have hfault : fault? (r.ready view ask w).1 = (goThrough view ask end? ls w).1 :=
    congrArg Prod.fst (h ask w)
  have hrecord : r.calls view ask w = (goThrough view (recording ask) end? ls (w, [])).2.2 :=
    congrArg (·.2.2) (h (recording ask) (w, []))
  refine ⟨?_, fun {before after l e f} hls hbefore hend hview => ?_, fun hall => ?_,
    ready_recording r w⟩
  · simp only [← fault?_eq_some_iff, hfault, exists_fault_goThrough_iff, faultAt_eq_some_iff]
    exact exists_congr fun l => and_congr_right fun _ => exists_comm
  · have hat : faultAt view end? l = some f := faultAt_eq_some_iff.2 ⟨e, hend, hview⟩
    subst hls
    rw [goThrough_append, goThrough_of_passes hbefore] at hfault hrecord
    simp only [goThrough_cons_of_fault hat] at hfault hrecord
    rw [record_of_leaves] at hrecord
    exact ⟨fault?_eq_some_iff.1 hfault, hrecord⟩
  · rw [goThrough_of_passes hall, record_of_leaves] at hrecord
    exact hrecord

/-- To evaluate a relation is to go through its leaves and to look at the targets of its edges, and
to evaluate its inverse is to go through the same leaves and to look at the sources. -/
theorem goes_through_leaves (view : View) (ask : Condition → ω → Readiness × ω) (r : Relation)
    (w : ω) :
    r.Traverses view ask w r.leaves target? ∧ r.inverse.Traverses view ask w r.leaves source? :=
  ⟨traverses_of_goThrough (fun _ w => ready_eq_goThrough r w) ask w,
    traverses_of_goThrough (fun _ w => ready_inverse_eq_goThrough r w) ask w⟩

/-- An element that has failed is not masked by what is pending before it, and the condition behind
it is not asked.  Nothing is wrong with the element that waits, and so the inverse asks both. -/
theorem failure_is_not_masked :
    let r := all [edge "app" "db", condition ⟨"gate", 0⟩,
      all [edge "app" "cache", condition ⟨"door", 1⟩]]
    let view : View := fun e => if e = "cache" then .error .dependencyFailed else .ok false
    let ask : Condition → Unit → Readiness × Unit := fun _ _ => (.waitingFor "closed", ())
    (r.ready view ask ()).1 = .error .dependencyFailed ∧ r.calls view ask () = [⟨"gate", 0⟩] ∧
      r.inverse.calls view ask () = [⟨"gate", 0⟩, ⟨"door", 1⟩] := by
  intro r view ask
  obtain ⟨hown, hinverse⟩ := goes_through_leaves view ask r ()
  have hbefore : ∀ l ∈ [edge "app" "db", condition ⟨"gate", 0⟩], Passes view target? l := by
    intro l hl e he
    obtain rfl | rfl : l = edge "app" "db" ∨ l = condition ⟨"gate", 0⟩ := by simpa using hl
    · cases he
      exact ⟨false, rfl⟩
    · cases he
  have hsources : ∀ l ∈ r.leaves, Passes view source? l := by
    intro l hl e he
    have happ : e = "app" := by
      have hmem := List.mem_filterMap.2 ⟨l, hl, he⟩
      rw [← targets_inverse_eq_leaves] at hmem
      simpa [r, inverse, inverseAll, targets, targetsAll] using hmem
    exact ⟨false, by rw [happ]; rfl⟩
  have hleaves : r.leaves = [edge "app" "db", condition ⟨"gate", 0⟩] ++
      edge "app" "cache" :: [condition ⟨"door", 1⟩] := rfl
  obtain ⟨hfault, hcalls⟩ := hown.first_fault hleaves hbefore rfl rfl
  exact ⟨hfault, hcalls, hinverse.no_fault hsources⟩

end Rollout.Relation
