import Rollout.Pattern.CharSet

/-!
# Pattern: texts described by what they are made of

A `Pattern` describes spans of a text.  Its meaning is a map on sets of places: `Pattern.ends`
takes the places where a span may start to those where it may end.  A text matches if some span
of it does (`Pattern.matchesIn`); which span it is, and what its parts are, does not matter here.

A set of places of a text of `n` characters is a list of `n + 1` truth values, one for the place
before each character and one for the end.
-/

namespace Rollout

/-- What may be asked about a place without taking a character. -/
inductive Pattern.Look where
  | textStart
  | textEnd
  | lineStart
  | lineEnd
  /-- Like `lineStart` and `lineEnd`, where a carriage return ends a line as well. -/
  | anyLineStart
  | anyLineEnd
  /-- Between a character of a word and one that is none, for a given set of such characters. -/
  | wordEdge (word : Pattern.CharSet)
  | noWordEdge (word : Pattern.CharSet)
  | wordStart (word : Pattern.CharSet)
  | wordEnd (word : Pattern.CharSet)
  /-- No character of a word stands before. -/
  | wordStartHalf (word : Pattern.CharSet)
  /-- No character of a word stands behind. -/
  | wordEndHalf (word : Pattern.CharSet)
deriving Repr, Inhabited

/-- A description of spans of a text. -/
inductive Pattern where
  | empty
  /-- One character of a set. -/
  | oneOf (s : Pattern.CharSet)
  | look (l : Pattern.Look)
  | both (first second : Pattern)
  | either (first second : Pattern)
  /-- Between `least` and `greatest` spans in a row; no `greatest` means any number. -/
  | repeated (p : Pattern) (least : Nat) (greatest : Option Nat)
deriving Repr, Inhabited

namespace Pattern

/-- The question is answered with yes between two characters; at the ends of a text one of them,
or both, are missing. -/
def Look.holds : Look → (before behind : Option Char) → Bool
  | textStart, before, _ => before.isNone
  | textEnd, _, behind => behind.isNone
  | lineStart, before, _ => before.isNone || before == some '\n'
  | lineEnd, _, behind => behind.isNone || behind == some '\n'
  | anyLineStart, before, behind =>
    before.isNone || before == some '\n' || (before == some '\r' && behind != some '\n')
  | anyLineEnd, before, behind =>
    behind.isNone || behind == some '\r' || (behind == some '\n' && before != some '\r')
  | wordEdge word, before, behind => before.any word.mem != behind.any word.mem
  | noWordEdge word, before, behind => before.any word.mem == behind.any word.mem
  | wordStart word, before, behind => !before.any word.mem && behind.any word.mem
  | wordEnd word, before, behind => before.any word.mem && !behind.any word.mem
  | wordStartHalf word, before, _ => !before.any word.mem
  | wordEndHalf word, _, behind => !behind.any word.mem

/-! ## Sets of places -/

/-- A set of places of a text. -/
abbrev Places := List Bool

/-- The places of either set. -/
def Places.union (a b : Places) : Places := List.zipWith (· || ·) a b

/-- The places behind a character of the set that stands at one of the places. -/
def step (s : CharSet) (text : List Char) (places : Places) : Places :=
  false :: List.zipWith (fun here c => here && s.mem c) places text

/-- What stands before and behind each place of a text, given what stands before its first. -/
def neighbours (before : Option Char) : List Char → List (Option Char × Option Char)
  | [] => [(before, none)]
  | c :: cs => (before, some c) :: neighbours (some c) cs

/-- The places where a question is answered with yes. -/
def lookFrom (l : Look) (text : List Char) (places : Places) : Places :=
  List.zipWith (fun here n => here && l.holds n.1 n.2) places (neighbours none text)

/-- Apply a function so many times. -/
def times {α : Type} (f : α → α) : Nat → α → α
  | 0, a => a
  | n + 1, a => times f n (f a)

/-- The places that at most so many steps lead to; once a step adds none, no later one does. -/
def upTo (f : Places → Places) : Nat → Places → Places
  | 0, places => places
  | n + 1, places =>
    let reached := places.union (f places)
    if reached = places then places else upTo f n reached

/-- The places where a span that starts at one of the given places may end.  Whatever any number
of repetitions can reach, as many of them as there are places can. -/
def ends (text : List Char) : Pattern → Places → Places
  | empty, places => places
  | oneOf s, places => step s text places
  | look l, places => lookFrom l text places
  | both first second, places => second.ends text (first.ends text places)
  | either first second, places => (first.ends text places).union (second.ends text places)
  | repeated p least greatest, places =>
    let more := match greatest with
      | some n => min (n - least) (text.length + 1)
      | none => text.length + 1
    upTo (p.ends text) more (times (p.ends text) least places)

/-- Some span of the text matches. -/
def matchesIn (p : Pattern) (text : List Char) : Bool :=
  (p.ends text (List.replicate (text.length + 1) true)).any id

/-! ## Size -/

/-- How much room a set takes, roughly. -/
def CharSet.weight : CharSet → Nat
  | .range first last =>
    if last < 0x80 then 1 else if first = last then 3 else 8
  | .runs table => 2 * table.length
  | .blanks => 20
  | .either a b | .both a b | .without a b | .onlyOne a b => a.weight + b.weight
  | .except a => 8 + a.weight
  | .anyCase a => 2 * a.weight
  | .anyAsciiCase a => a.weight

/-- How much room a pattern takes once all repetitions are written out, roughly. -/
def weight : Pattern → Nat
  | empty | look _ => 1
  | oneOf s => s.weight
  | both a b => a.weight + b.weight
  | either a b => a.weight + b.weight + 1
  | repeated p least greatest => p.weight * max 1 (greatest.getD least) + 1

end Pattern

end Rollout
