import Rollout.Shell.Octets

/-!
# Glyph: words on the way to fields

An expanded word is a list of glyphs: octets that remember whether they were quoted.  `fields`
parts it where octets that came out of an expansion are separators.
-/

namespace Rollout.Shell

/-- A piece of an expanded word. -/
inductive Glyph where
  /-- An octet that stands for itself. -/
  | fixed (c : Char)
  /-- An octet written without quotes, which may be a sign of a pattern. -/
  | bare (c : Char)
  /-- An octet that came out of an expansion without quotes, and may besides part fields. -/
  | loose (c : Char)
  /-- No octet, but its field is there even if it is empty. -/
  | mark
  /-- The end of a field. -/
  | cut
deriving DecidableEq, Repr, Inhabited

namespace Glyph

/-- The octet of a glyph. -/
def octet? : Glyph → Option Char
  | fixed c | bare c | loose c => some c
  | mark | cut => none

/-- The octets of an expanded word. -/
def octets (gs : List Glyph) : Octets := gs.filterMap octet?

/-- The octet is a separator. -/
def parts (separators : Octets) : Glyph → Option Char
  | loose c => if separators.contains c then some c else none
  | _ => none

/-- The octet is a blank or the end of a line. -/
def isBlank (c : Char) : Bool := c == ' ' || c == '\t' || c == '\n'

/-- Part an expanded word.  Blank separators next to each other count as one, and as nothing next
to another separator.  `open?` is the field begun, backwards; `spaced` says that a blank has just
ended a field. -/
def partsOf (separators : Octets) : (open? : Option (List Glyph)) → (spaced : Bool) →
    List Glyph → List (List Glyph)
  | none, _, [] => []
  | some f, _, [] => [f.reverse]
  | f?, spaced, g :: gs =>
    match g.parts separators with
    | some c =>
      match f? with
      | some f => f.reverse :: partsOf separators none (isBlank c) gs
      | none =>
        if isBlank c then partsOf separators none spaced gs
        else if spaced then partsOf separators none false gs
        else [] :: partsOf separators none false gs
    | none =>
      match g with
      | cut =>
        match f? with
        | some f => f.reverse :: partsOf separators none false gs
        | none => partsOf separators none false gs
      | mark => partsOf separators (some (f?.getD [])) false gs
      | g => partsOf separators (some (g :: f?.getD [])) false gs

/-- The fields of an expanded word. -/
def fields (separators : Octets) (gs : List Glyph) : List (List Glyph) :=
  partsOf separators none false gs

end Glyph

end Rollout.Shell
