import Rollout.Proofs.Digraph.Acyclic
import Rollout.Proofs.Plan.Bookkeeping

/-!
# What a check reports

A plan is accepted if its live graph has no cycle.  Otherwise the report has one line for each
strongly connected component that holds a cycle (`check_reports_cycles`).
-/

namespace Rollout.Plan

variable {p : Plan}

/-- The line for a component: its members, and the first one again. -/
def loopOf (p : Plan) (c : List NodeId) : String :=
  "  " ++ " -> ".intercalate ((c ++ c.take 1).map p.label)

theorem cycleLine_eq (p : Plan) (c : List NodeId) : p.cycleLine c = p.loopOf c := by
  unfold cycleLine loopOf
  rw [List.map_append, List.map_take]

/-- The text has a line for each of the components, which are those that hold a cycle, each of them
once.  The lines can be told apart unless there is a line feed in a label. -/
structure Reports (p : Plan) (components : List (List NodeId)) (text : String) : Prop where
  isComponent : ∀ c ∈ components, p.graph.IsComponent c ∧ p.graph.HoldsCycle c
  once : ∀ c, p.graph.IsComponent c → p.graph.HoldsCycle c →
    ∃! i : ℕ, ∃ c', components[i]? = some c' ∧ c'.Perm c
  mem_iff : ∀ n, n ∈ components.flatten ↔ Relation.TransGen p.graph.Edge n n
  label_iff : ∀ n < p.nodes.length,
    p.label n ∈ components.flatten.map p.label ↔ Relation.TransGen p.graph.Edge n n
  text_eq : text = "\n".intercalate (components.map p.loopOf)
  lines_eq : (∀ n, '\n' ∉ (p.label n).toList) →
    text.toList.splitOn '\n' = components.map fun c => (p.loopOf c).toList

/-- A character of a text that is put together comes from the separator or from a part. -/
theorem mem_of_mem_intercalate {x : Char} {sep : List Char} {ls : List (List Char)}
    (h : x ∈ sep.intercalate ls) : x ∈ sep ∨ ∃ l ∈ ls, x ∈ l := by
  induction ls with
  | nil => cases h
  | cons l ls ih =>
    by_cases hls : ls = []
    · rw [hls, List.intercalate_singleton] at h
      exact .inr ⟨l, List.mem_cons_self, h⟩
    · rw [List.intercalate_cons_of_ne_nil hls] at h
      rcases List.mem_append.1 h with h | h
      · rcases List.mem_append.1 h with h | h
        · exact .inr ⟨l, List.mem_cons_self, h⟩
        · exact .inl h
      · exact (ih h).imp_right fun ⟨l', hl', hx⟩ => ⟨l', List.mem_cons_of_mem _ hl', hx⟩

/-- The line of a cycle is one line if the labels are. -/
theorem newline_not_mem_loopOf (h : ∀ n, '\n' ∉ (p.label n).toList) (c : List NodeId) :
    '\n' ∉ (p.loopOf c).toList := by
  unfold loopOf
  rw [String.toList_append, String.toList_intercalate, List.mem_append]
  rintro (hmem | hmem)
  · exact absurd hmem (by decide)
  · rcases mem_of_mem_intercalate hmem with hmem | ⟨l, hl, hmem⟩
    · exact absurd hmem (by decide)
    · rw [List.map_map] at hl
      obtain ⟨n, -, rfl⟩ := List.mem_map.1 hl
      exact h n hmem

/-- A plan is accepted if and only if its live graph has no cycle.  Otherwise the report has one
line for each component that holds a cycle. -/
theorem check_reports_cycles (h : p.Made) : (p.check = .ok () ↔ ¬p.graph.Cyclic) ∧
    (p.graph.Cyclic →
      ∃ components text, p.check = .error (.cycle text) ∧ p.Reports components text) := by
  have hcoherent := h.coherent
  refine ⟨check_eq_ok_iff hcoherent, fun hcyclic => ?_⟩
  have hsome : p.graph.cycleGroups ≠ [] := fun hnil =>
    (Digraph.cycleGroups_eq_nil_iff hcoherent).1 hnil hcyclic
  obtain ⟨hcomponent, -, hall⟩ := Digraph.cycleGroups_spec hcoherent
  refine ⟨p.graph.cycleGroups, "\n".intercalate (p.graph.cycleGroups.map p.loopOf), ?_, hcomponent,
    fun c hc hholds => Digraph.existsUnique_cycleGroup hcoherent hc hholds, hall, fun n hn => ?_,
    rfl, fun hlabel => ?_⟩
  · unfold Plan.check
    split
    next hnil => exact absurd hnil hsome
    next => rw [funext (cycleLine_eq p)]
  · rw [← hall, List.mem_map]
    constructor
    · rintro ⟨m, hm, hsame⟩
      -- labels tell nodes apart, so a label is on a line if and only if its node is
      exact h.kept.label_injective hn hsame ▸ hm
    · exact fun hmem => ⟨n, hmem, rfl⟩
  · rw [String.toList_intercalate, List.map_map]
    -- the lines can be told apart again, as no label breaks a line
    refine List.splitOn_intercalate '\n' (fun l hl => ?_) (by simpa using hsome)
    obtain ⟨c, -, rfl⟩ := List.mem_map.1 hl
    exact newline_not_mem_loopOf hlabel c

/-- Two elements that depend on each other, and one that depends on itself and on one of them. -/
def looped : Plan := after (.empty .deployed {}) <|
  (["a", "b", "c"].map fun e =>
    .call (.element ⟨e, "test", true, fun _ => none, none⟩ .deployed)) ++
    [.call (.depend 0 1 .hard), .call (.depend 1 0 .soft), .call (.depend 2 0 .soft),
      .call (.depend 2 2 .soft)]

/-- Its report has two lines, and it is not a report of anything else. -/
theorem looped_is_reported : looped.Made ∧
    (looped.check = .ok () ↔ ¬looped.graph.Cyclic) ∧
    (∃ components text, looped.check = .error (.cycle text) ∧ looped.Reports components text) ∧
    looped.check = .error (.cycle "  E:b -> E:a -> E:b\n  E:c -> E:c") := by
  have hmade : looped.Made := made_iff_after.2 ⟨_, _, _, rfl⟩
  obtain ⟨hiff, hreport⟩ := check_reports_cycles hmade
  refine ⟨hmade, hiff, hreport ⟨2, .single ?_⟩, by rfl⟩
  exact Digraph.mem_successors_of_edge (k := .soft) rfl

end Rollout.Plan
