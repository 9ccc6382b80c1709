import Rollout.PlanFile.Reading
import Rollout.Proofs.Toml.Keys

/-!
# The sections of a draft are in order

A plan file may give its sections in any order, and no name twice.  A draft that has been read has
them in the order of their names (`ordered_of_text`).
-/

namespace Rollout

namespace Toml.Decode

variable {α : Type} {item : Value → Option α} {v : Value} {es : Table} {xs : List (String × α)}

/-- To decode the entries of a table keeps their keys. -/
theorem keys_of_mapM (h : (es.mapM fun e => do return (e.1, ← item e.2)) = some xs) :
    xs.map (·.1) = es.map (·.1) := by
  induction es generalizing xs with
  | nil =>
    obtain rfl := Option.some.inj h
    rfl
  | cons e es ih =>
    rw [List.mapM_cons] at h
    obtain ⟨x, hx, h⟩ := Option.bind_eq_some_iff.1 h
    obtain ⟨rest, hrest, h⟩ := Option.bind_eq_some_iff.1 h
    obtain ⟨a, -, hx⟩ := Option.bind_eq_some_iff.1 hx
    obtain rfl := Option.some.inj h
    obtain rfl := Option.some.inj hx
    rw [List.map_cons, List.map_cons, ih hrest]

/-- The entries of a table come in the order of their keys. -/
theorem pairwise_entries (hv : v.Keyed) (h : entries item v = some xs) :
    (xs.map (·.1)).Pairwise (· < ·) := by
  unfold entries at h
  split at h
  next es =>
    obtain ⟨ys, hys, h⟩ := Option.bind_eq_some_iff.1 h
    obtain rfl := Option.some.inj h
    cases hv with
    | table hkeys _ =>
      rw [← keys_of_mapM hys] at hkeys
      have hsorted :
          (ys.mergeSort fun a b => a.1 ≤ b.1).Pairwise fun a b => decide (a.1 ≤ b.1) :=
        List.pairwise_mergeSort
          (fun a b c hab hbc => by
            rw [decide_eq_true_eq] at *
            exact String.le_trans hab hbc)
          (fun a b => by simpa using String.le_total a.1 b.1) ys
      have hle : ((ys.mergeSort fun a b => a.1 ≤ b.1).map (·.1)).Pairwise (· ≤ ·) :=
        List.pairwise_map.2 (hsorted.imp of_decide_eq_true)
      -- a sorted list without duplicates is strictly sorted, and keys of a table are no duplicates
      have hne : ((ys.mergeSort fun a b => a.1 ≤ b.1).map (·.1)).Nodup :=
        ((List.mergeSort_perm ys _).map (·.1)).nodup_iff.2 hkeys
      refine (hle.and hne).imp fun {k k'} hk => ?_
      by_contra hlt
      exact hk.2 (String.le_antisymm hk.1 (String.not_lt.1 hlt))
  next => cases h

/-- What stands in the fields of a record has different keys as well. -/
theorem keyed_of_fields {names : List String} {fs : List (Option Value)} (hv : v.Keyed)
    (h : fields names v = some fs) : ∀ field ∈ fs, ∀ w, field = some w → w.Keyed := by
  unfold fields at h
  split at h
  next es =>
    simp only at h
    split at h
    · obtain rfl := Option.some.inj h
      cases hv with
      | table hkeys hall =>
        intro field hfield w hw
        obtain ⟨name, -, rfl⟩ := List.mem_map.1 hfield
        exact hall (name, w) ((lookup_eq_some_iff_mem hkeys).1 hw)
    · cases h
  -- a record may be written as a list of its fields in order
  next vs =>
    obtain rfl := Option.some.inj h
    cases hv with
    | array hall =>
      intro field hfield w hw
      obtain ⟨name, -, rfl⟩ := List.mem_map.1 hfield
      exact hall w (List.mem_of_getElem? hw)
  next =>
    obtain rfl := Option.some.inj h
    intro field hfield w hw
    obtain ⟨name, -, rfl⟩ := List.mem_map.1 hfield
    cases hw
  next => cases h

/-- A field of a record that may be missing comes in the order of its keys. -/
theorem pairwise_orElse {field : Option Value} (hfield : ∀ v, field = some v → v.Keyed)
    (h : orElse [] (entries item) field = some xs) : (xs.map (·.1)).Pairwise (· < ·) := by
  cases field with
  | none =>
    obtain rfl := Option.some.inj h
    exact .nil
  | some v => exact pairwise_entries (hfield v rfl) h

end Toml.Decode

namespace PlanFile

/-- The sections of a draft are in the order of their names, and no two have the same name. -/
structure Draft.Ordered (d : Draft) : Prop where
  elements : (d.elements.map (·.1)).Pairwise (· < ·)
  actions : (d.actions.map (·.1)).Pairwise (· < ·)

open Toml in
/-- A file that is decoded lists elements and actions in the order of their names. -/
theorem ordered_of_table {t : Table} {d : Draft} (ht : (Value.table t).Keyed)
    (h : Draft.ofTable t = some d) : d.Ordered := by
  unfold Draft.ofTable at h
  obtain ⟨fields, hfields, h⟩ := Option.bind_eq_some_iff.1 h
  have hkeyed := Decode.keyed_of_fields ht hfields
  split at h
  next series options elements actions =>
    obtain ⟨series', -, h⟩ := Option.bind_eq_some_iff.1 h
    obtain ⟨options', -, h⟩ := Option.bind_eq_some_iff.1 h
    obtain ⟨elements', helements, h⟩ := Option.bind_eq_some_iff.1 h
    obtain ⟨actions', hactions, h⟩ := Option.bind_eq_some_iff.1 h
    obtain rfl := Option.some.inj h
    exact ⟨Decode.pairwise_orElse (hkeyed elements (by simp)) helements,
      Decode.pairwise_orElse (hkeyed actions (by simp)) hactions⟩
  next => cases h

/-- The sections of a plan file that has been read are in the order of their names. -/
theorem ordered_of_text {text : String} {d : Draft} (h : Draft.ofText text = .ok d) :
    d.Ordered := by
  unfold Draft.ofText at h
  split at h
  next d' hd =>
    obtain rfl := Except.ok.inj h
    obtain ⟨t, ht, hd⟩ := Option.bind_eq_some_iff.1 hd
    exact ordered_of_table (Toml.keyed_of_parse ht) hd
  next => cases h

end PlanFile

end Rollout
