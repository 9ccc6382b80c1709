import Rollout.Text.CaseTable

/-!
# LowerCase: Unicode lower-casing of a text

Every letter is replaced by its own lower case, with two exceptions: the dotted capital I
becomes two characters, and a capital sigma takes its final form at the end of a word.
-/

namespace Rollout.Text

/-- The lower case of a single character, read on its own. -/
def lowerChar (c : Char) : List Char :=
  if c.toNat = 0x130 then ['i', Char.ofNat 0x307]
  else match lowerRuns.find? (·.covers c.toNat) with
    | some run => [Char.ofNat (c.toNat + run.shift).toNat]
    | none => [c]

/-- The first character that is not ignored for case is a cased letter. -/
def startsCased (cs : List Char) : Bool :=
  match cs.dropWhile (inRanges caseIgnorableRanges) with
  | [] => false
  | c :: _ => inRanges casedRanges c

/-- Lower-case the text `cs`, where `before` holds what stands in front of it, last first. -/
def lowerFrom (before : List Char) : List Char → List Char
  | [] => []
  | c :: rest =>
    let low :=
      if c.toNat = 0x3A3 then
        [Char.ofNat (if startsCased before && !startsCased rest then 0x3C2 else 0x3C3)]
      else lowerChar c
    low ++ lowerFrom (c :: before) rest

/-- Lower-case a text. -/
def lower (cs : List Char) : List Char := lowerFrom [] cs

end Rollout.Text
