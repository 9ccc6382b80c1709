import Rollout.Log.Event
import Rollout.Text.Blank

/-!
# Filter: which events the log shows

A filter is a list of rules.  Each names a level and, if need be, the beginning of the paths of
the origins it is about; of the rules about an event the one with the longest path decides.  Users
write rules with commas between them, such as `warn,deployplan::exec=info`.
-/

namespace Rollout.Log

/-- A rule of a filter. -/
structure Rule where
  /-- The beginning of the paths the rule is about. -/
  path : List Char
  /-- How much is let through: the verbosity of a level, or nothing. -/
  verbosity : Nat
deriving DecidableEq, Repr, Inhabited

/-- Rules, the most recent first. -/
structure Filter where
  rules : List Rule
deriving DecidableEq, Repr, Inhabited

namespace Filter

/-- Let through what is at least as grave as a level. -/
def ofLevel (l : Level) : Filter := ⟨[⟨[], l.verbosity⟩]⟩

/-- The rule that decides about a path. -/
def ruleFor (f : Filter) (path : List Char) : Option Rule :=
  (f.rules.filter fun r => r.path.isPrefixOf path).foldl
    (fun best r => match best with
      | some b => if b.path.length < r.path.length then some r else best
      | none => some r) none

/-- The filter lets an event through. -/
def allows (f : Filter) (e : Event) : Bool :=
  match f.ruleFor e.origin.path.toList with
  | some r => decide (e.level.verbosity ≤ r.verbosity)
  | none => false

/-! ## Reading -/

/-- The words for how much is let through, in order. -/
def words : List String := "off" :: Level.all.map Level.word

/-- The verbosity that everything passes. -/
def everything : Nat := Level.trace.verbosity

/-- How much a word or a number lets through. -/
def verbosityOf (s : List Char) : Option Nat :=
  let digits := if s.head? == some '+' then s.tail else s
  if !digits.isEmpty && digits.all Char.isDigit then
    let n := digits.foldl (fun n c => 10 * n + (c.toNat - '0'.toNat)) 0
    if n ≤ everything then some n else none
  else words.findIdx? (·.toList == s.map Char.toLower)

/-- The character may begin a rule. -/
def begins (c : Char) : Bool := c.isAlphanum || c == '-' || c == ':' || c == '_' || 128 ≤ c.toNat

/-- The verbosity behind an equals sign, which nothing need follow. -/
def verbosityBehind (s : List Char) : Option Nat :=
  if s.isEmpty then some everything else verbosityOf s

/-- What a text with a span in brackets says: nothing, since there are no spans, unless it makes no
sense. -/
def spanRule (s : List Char) : Option (Option Rule) :=
  match (s.dropWhile (· != ']')).drop 1 with
  | [] => if s.contains ']' then some none else none
  | '=' :: level => (verbosityBehind level).map fun _ => none
  | _ => none

/-- Read a rule.  A bare word is a level if it can be, else a path.  Places are counted without the
blanks in front, but looked up with them. -/
def ruleOf (s : List Char) : Option (Option Rule) :=
  let body := Text.trim s
  match body with
  | [] => none
  | '[' :: rest => spanRule rest
  | c :: _ =>
    if !begins c then none
    else
      let path := body.takeWhile fun c => c != '=' && c != '['
      match body.drop path.length with
      | [] =>
        match verbosityOf s with
        | some v => some (some ⟨[], v⟩)
        | none => some (some ⟨s, everything⟩)
      | '=' :: _ =>
        (verbosityBehind (s.drop (path.length + 1))).map fun v => some ⟨s.take path.length, v⟩
      | _ :: rest => spanRule rest

/-- Read a filter; none if a rule makes no sense.  No rules at all let errors through. -/
def parse (text : String) : Option Filter := do
  let rules ← ((text.toList.splitOnP (· == ',')).filter (!·.isEmpty)).mapM ruleOf
  if rules.isEmpty then return ofLevel .error
  return ⟨(rules.filterMap id).reverse⟩

/-- The filter for a level on the command line and a text from the environment: the level comes
first, and where there is neither, or the text makes no sense, it is *info*. -/
def choose (level : Option Level) (text : Option String) : Filter :=
  match level with
  | some l => ofLevel l
  | none => (text.bind parse).getD (ofLevel .info)

end Filter

end Rollout.Log
