import Mathlib.Data.List.Basic
import Mathlib.Tactic.Common
import Rollout.Relation.Readiness

/-!
# Diagnostics as lines

The text of a forest of diagnostics is put together line by line, and a line feed is set in front of
a line if there is some text before it.  So the text has a line for each diagnostic, in pre-order,
if the first one has a text of its own or is the only one (`lines_of_text_iff`).  A first line that
is empty is not closed: the next line takes its place (`toList_text`).
-/

namespace Rollout

namespace Diagnostic

mutual

/-- A diagnostic and everything below it, in pre-order: the texts with their levels. -/
def outline (depth : ℕ) : Diagnostic → List (ℕ × String)
  | mk status related => (depth, status) :: outlineAll (depth + 1) related

/-- The outline of several diagnostics of one level. -/
def outlineAll (depth : ℕ) : List Diagnostic → List (ℕ × String)
  | [] => []
  | d :: ds => outline depth d ++ outlineAll depth ds

end

/-- A line: the text behind two blanks per level. -/
def line (entry : ℕ × String) : List Char := List.replicate (2 * entry.1) ' ' ++ entry.2.toList

/-- Append a line to what has been written.  It starts on a new line unless nothing has. -/
def appendLine (out line : List Char) : List Char :=
  (if out.isEmpty then out else out ++ ['\n']) ++ line

theorem toList_indent (depth : ℕ) : (indent depth).toList = List.replicate (2 * depth) ' ' := by
  unfold indent
  generalize 2 * depth = n
  rw [String.pushn_eq_repeat_push]
  induction n with
  | zero => rfl
  | succ n ih => rw [Nat.repeat, String.toList_push, ih, List.replicate_succ']

mutual

/-- To write a diagnostic is to append the lines of its outline. -/
theorem toList_write (out : String) (depth : ℕ) (d : Diagnostic) :
    (write out depth d).toList = ((outline depth d).map line).foldl appendLine out.toList := by
  cases d with
  | mk status related =>
    have hline : ((if out.isEmpty then out else out ++ "\n") ++ indent depth ++ status).toList =
        appendLine out.toList (line (depth, status)) := by
      unfold appendLine line
      by_cases hout : out = ""
      · simp [hout, toList_indent]
      · have hlist : out.toList ≠ [] := by simpa using hout
        simp [hout, hlist, toList_indent]
    unfold write outline
    rw [toList_writeAll, hline, List.map_cons, List.foldl_cons]

theorem toList_writeAll (out : String) (depth : ℕ) (ds : List Diagnostic) :
    (writeAll out depth ds).toList =
      ((outlineAll depth ds).map line).foldl appendLine out.toList := by
  cases ds with
  | nil => rfl
  | cons d ds =>
    unfold writeAll outlineAll
    rw [toList_writeAll, toList_write, List.map_append, List.foldl_append]

end

/-! ## Putting lines together -/

/-- Behind some text every line starts on a line of its own. -/
theorem foldl_appendLine_of_ne_nil {out : List Char} (h : out ≠ []) (ls : List (List Char)) :
    ls.foldl appendLine out = ['\n'].intercalate (out :: ls) := by
  induction ls generalizing out with
  | nil => simp
  | cons l ls ih =>
    have happend : appendLine out l = out ++ ['\n'] ++ l := by
      unfold appendLine
      rw [if_neg (by simpa using h)]
    rw [List.foldl_cons, happend, ih (by simp), List.intercalate_cons_cons]
    cases ls with
    | nil => simp
    | cons l' ls => simp [List.intercalate_cons_cons]

/-- Empty lines at the front leave no trace. -/
theorem foldl_appendLine_nil (ls : List (List Char)) :
    ls.foldl appendLine [] = ['\n'].intercalate (ls.dropWhile List.isEmpty) := by
  induction ls with
  | nil => rfl
  | cons l ls ih =>
    by_cases hl : l = []
    · subst hl
      exact ih
    · rw [List.foldl_cons, List.dropWhile_cons_of_neg (by simpa using hl)]
      exact foldl_appendLine_of_ne_nil hl ls

/-- The lines of a forest, before they are put together. -/
def linesOf (ds : List Diagnostic) : List (List Char) := (outlineAll 0 ds).map line

/-- The text consists of the lines from the first one on that is not empty. -/
theorem toList_text (ds : List Diagnostic) : (Readiness.waiting ds).text.toList =
    ['\n'].intercalate ((linesOf ds).dropWhile List.isEmpty) := by
  show (writeAll "" 0 ds).toList = _
  rw [toList_writeAll]
  exact foldl_appendLine_nil _

/-- Lines without line feeds can be told apart again, but for empty ones at the front. -/
theorem splitOn_text {ds : List Diagnostic} (h : ∀ l ∈ linesOf ds, '\n' ∉ l) :
    (Readiness.waiting ds).text.toList.splitOn '\n' =
      if (linesOf ds).dropWhile List.isEmpty = [] then [[]]
      else (linesOf ds).dropWhile List.isEmpty := by
  rw [toList_text]
  split
  next hnil => rw [hnil]; rfl
  next hsome =>
    exact List.splitOn_intercalate '\n' (fun l hl => h l (List.dropWhile_subset _ hl)) hsome

/-- No line is missing if and only if the first one is not empty or is the only one. -/
theorem no_line_dropped_iff (l : List Char) (ls : List (List Char)) :
    (if (l :: ls).dropWhile List.isEmpty = [] then [[]] else (l :: ls).dropWhile List.isEmpty) =
      l :: ls ↔ l ≠ [] ∨ ls = [] := by
  cases l with
  | cons c l => simp
  | nil =>
    have hlength := (List.dropWhile_sublist List.isEmpty (l := ls)).length_le
    show (if ls.dropWhile List.isEmpty = [] then [[]] else ls.dropWhile List.isEmpty) =
      [] :: ls ↔ _
    constructor
    · intro heq
      split at heq
      next => exact .inr (List.cons.inj heq).2.symm
      next =>
        -- One line is gone, and no other has come in its place.
        have hmore := congrArg List.length heq
        rw [List.length_cons] at hmore
        omega
    · rintro (hne | rfl)
      · exact absurd rfl hne
      · rfl

theorem newline_not_mem_line {entry : ℕ × String} (h : '\n' ∉ entry.2.toList) :
    '\n' ∉ line entry := by
  unfold line
  rw [List.mem_append, List.mem_replicate]
  rintro (⟨-, hblank⟩ | htext)
  · exact absurd hblank (by decide)
  · exact h htext

/-- If no text has a line feed in it then splitting at line feeds gives one line for each diagnostic
of a forest, in pre-order, exactly if the first one has a text or is the only one. -/
theorem lines_of_text_iff {ds : List Diagnostic} (hne : ds ≠ [])
    (hfeed : ∀ entry ∈ outlineAll 0 ds, '\n' ∉ entry.2.toList) :
    (Readiness.waiting ds).text.toList.splitOn '\n' = (outlineAll 0 ds).map line ↔
      (∃ d, ds.head? = some d ∧ d.status ≠ "") ∨ (outlineAll 0 ds).length = 1 := by
  have hlines : ∀ l ∈ linesOf ds, '\n' ∉ l := by
    intro l hl
    obtain ⟨entry, hentry, rfl⟩ := List.mem_map.1 hl
    exact newline_not_mem_line (hfeed entry hentry)
  rw [splitOn_text hlines]
  obtain ⟨d, ds, rfl⟩ := List.exists_cons_of_ne_nil hne
  obtain ⟨rest, hrest⟩ : ∃ rest, outlineAll 0 (d :: ds) = (0, d.status) :: rest := by
    cases d
    exact ⟨_, rfl⟩
  have hof : linesOf (d :: ds) = d.status.toList :: rest.map line := by
    unfold linesOf
    rw [hrest]
    rfl
  show _ = linesOf (d :: ds) ↔ _
  rw [hof, hrest, no_line_dropped_iff]
  simp

/-- Texts may be empty, and trees as deep and as wide as one likes, if the first line has a text. -/
theorem nested_text_has_all_lines :
    let ds : List Diagnostic := [.mk "two" [.leaf "", .mk "one" [.leaf "gate"]], .leaf ""]
    (Readiness.waiting ds).text = "two\n  \n  one\n    gate\n" ∧
      (Readiness.waiting ds).text.toList.splitOn '\n' =
        ["two".toList, "  ".toList, "  one".toList, "    gate".toList, []] := by
  intro ds
  have hne : ds ≠ [] := List.cons_ne_nil _ _
  refine ⟨by decide, (lines_of_text_iff hne ?_).2 (.inl ?_)⟩
  · decide
  · exact ⟨_, rfl, by decide⟩

/-- A first diagnostic without a text has no line if there is another one. -/
theorem first_line_leaves_no_trace :
    let ds : List Diagnostic := [.leaf "", .leaf "a"]
    ds ≠ [] ∧ (∀ entry ∈ outlineAll 0 ds, '\n' ∉ entry.2.toList) ∧
      (Readiness.waiting ds).text.toList.splitOn '\n' = ["a".toList] ∧
      (outlineAll 0 ds).map line = ["".toList, "a".toList] ∧
      (Readiness.waiting ds).text.toList.splitOn '\n' ≠ (outlineAll 0 ds).map line := by
  decide

end Diagnostic

end Rollout
