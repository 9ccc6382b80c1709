import Rollout.Text.CaseTable

/-!
# CaseFold: letters that differ in case alone

Two characters are variants of one another if they have the same folded form.  The folded form
is the lower case, except for the few letters that have a second small form.
-/

namespace Rollout.Text

/-- Characters with a folded form other than their lower case. -/
def foldExceptions : List (Nat × Nat) :=
  [(0xB5, 0x3BC), (0x17F, 0x73), (0x345, 0x3B9), (0x3C2, 0x3C3), (0x3D0, 0x3B2), (0x3D1, 0x3B8),
   (0x3D5, 0x3C6), (0x3D6, 0x3C0), (0x3F0, 0x3BA), (0x3F1, 0x3C1), (0x3F5, 0x3B5),
   (0x1C80, 0x432), (0x1C81, 0x434), (0x1C82, 0x43E), (0x1C83, 0x441), (0x1C84, 0x442),
   (0x1C85, 0x442), (0x1C86, 0x44A), (0x1C87, 0x463), (0x1C88, 0xA64B), (0x1E9B, 0x1E61),
   (0x1FBE, 0x3B9), (0x1FD3, 0x390), (0x1FE3, 0x3B0), (0xFB05, 0xFB06)]

/-- The folded form of a character. -/
def foldChar (c : Char) : Char :=
  match foldExceptions.lookup c.toNat with
  | some n => Char.ofNat n
  | none =>
    match lowerRuns.find? (·.covers c.toNat) with
    | some run => Char.ofNat (c.toNat + run.shift).toNat
    | none => c

/-- All characters with the folded form of a character, itself among them. -/
def caseVariants (c : Char) : List Char :=
  let f := foldChar c
  let capitals := lowerRuns.filterMap fun run =>
    let n := (f.toNat - run.shift : Int).toNat
    if run.covers n then some (Char.ofNat n) else none
  let others := foldExceptions.filterMap fun e =>
    if e.2 = f.toNat then some (Char.ofNat e.1) else none
  f :: capitals ++ others

end Rollout.Text
