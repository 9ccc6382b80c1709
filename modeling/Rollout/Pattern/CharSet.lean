import Rollout.Text.ClassTable
import Rollout.Text.CaseFold

/-!
# CharSet: sets of characters

The sets that patterns are made of: ranges, tabulated kinds of characters, and what set operations
make of them.  `CharSet.mem` says which characters a set holds.
-/

namespace Rollout.Pattern

open Text

/-- A set of characters. -/
inductive CharSet where
  /-- Code points from the first to the last, both included. -/
  | range (first last : Nat)
  | runs (table : List CharRun)
  | blanks
  | either (a b : CharSet)
  | both (a b : CharSet)
  | without (a b : CharSet)
  | onlyOne (a b : CharSet)
  | except (a : CharSet)
  /-- Characters with a variant in case in the set. -/
  | anyCase (a : CharSet)
  /-- The same, but only ASCII letters have variants. -/
  | anyAsciiCase (a : CharSet)
deriving Repr, Inhabited

namespace CharSet

/-- The ASCII variants in case of a character. -/
def asciiVariants (c : Char) : List Char := [c, c.toLower, c.toUpper]

/-- The character is in the set. -/
def mem : CharSet → Char → Bool
  | range first last, c => first ≤ c.toNat && c.toNat ≤ last
  | runs table, c => inRuns table c
  | blanks, c => isBlank c
  | either a b, c => a.mem c || b.mem c
  | both a b, c => a.mem c && b.mem c
  | without a b, c => a.mem c && !b.mem c
  | onlyOne a b, c => a.mem c != b.mem c
  | except a, c => !a.mem c
  | anyCase a, c => (caseVariants c).any a.mem
  | anyAsciiCase a, c => (asciiVariants c).any a.mem

/-- The set without members. -/
def none : CharSet := range 1 0

/-- All characters. -/
def all : CharSet := range 0 0x10FFFF

/-- The set of one character. -/
def single (c : Char) : CharSet := range c.toNat c.toNat

/-- The characters of a list. -/
def ofList (cs : List Char) : CharSet := cs.foldr (fun c s => either (single c) s) none

/-- The union of a list of sets. -/
def union (ss : List CharSet) : CharSet := ss.foldr either none

/-! ## Kinds of ASCII characters -/

/-- ASCII digits. -/
def asciiDigits : CharSet := range 0x30 0x39

/-- ASCII capitals. -/
def asciiCapitals : CharSet := range 0x41 0x5A

/-- ASCII small letters. -/
def asciiSmalls : CharSet := range 0x61 0x7A

/-- ASCII letters. -/
def asciiLetters : CharSet := either asciiCapitals asciiSmalls

/-- ASCII letters and digits. -/
def asciiAlphanumerics : CharSet := either asciiLetters asciiDigits

/-- ASCII letters, digits and the underscore. -/
def asciiWord : CharSet := either asciiAlphanumerics (single '_')

/-- ASCII blanks. -/
def asciiBlanks : CharSet := either (range 0x09 0x0D) (single ' ')

/-- The kinds of ASCII characters that have names. -/
def asciiKinds : List (String × CharSet) :=
  [("alnum", asciiAlphanumerics), ("alpha", asciiLetters), ("ascii", range 0 0x7F),
   ("blank", ofList ['\t', ' ']), ("cntrl", either (range 0 0x1F) (range 0x7F 0x7F)),
   ("digit", asciiDigits), ("graph", range 0x21 0x7E), ("lower", asciiSmalls),
   ("print", range 0x20 0x7E),
   ("punct", union [range 0x21 0x2F, range 0x3A 0x40, range 0x5B 0x60, range 0x7B 0x7E]),
   ("space", asciiBlanks), ("upper", asciiCapitals), ("word", asciiWord),
   ("xdigit", union [asciiDigits, range 0x41 0x46, range 0x61 0x66])]

/-! ## Kinds of characters of all scripts -/

/-- Digits of all scripts. -/
def digits : CharSet := runs digitRuns

/-- Characters of words of all scripts. -/
def word : CharSet := runs wordRuns

/-- Capitals in the wide sense, the circled and the squared ones included. -/
def capitals : CharSet :=
  union [runs upperRuns, range 0x2160 0x216F, range 0x24B6 0x24CF, range 0x1F130 0x1F149,
    range 0x1F150 0x1F169, range 0x1F170 0x1F189]

/-- Letters of two characters of which only the first is a capital. -/
def titles : CharSet :=
  union [ofList ['ǅ', 'ǈ', 'ǋ', 'ǲ'], range 0x1F88 0x1F8F, range 0x1F98 0x1F9F,
    range 0x1FA8 0x1FAF, ofList ['ᾼ', 'ῌ', 'ῼ']]

/-- Letters that come in two cases. -/
def cased : CharSet := runs (casedRanges.map fun r => ⟨r.1, r.2, 1⟩)

/-- Small letters in the wide sense. -/
def smalls : CharSet := without cased (either capitals titles)

/-- The general categories, by their names without blanks, in small letters. -/
def categories : List (List String × CharSet) :=
  [(["any"], all), (["ascii"], range 0 0x7F),
   (["l", "letter"], runs letterRuns), (["lu", "uppercaseletter"], runs upperRuns),
   (["ll", "lowercaseletter"], runs smallRuns), (["lt", "titlecaseletter"], titles),
   (["lc", "casedletter"], union [runs upperRuns, runs smallRuns, titles]),
   (["m", "mark", "combiningmark"], runs markRuns), (["n", "number"], runs numberRuns),
   (["nd", "decimalnumber", "digit"], digits),
   (["p", "punctuation", "punct"], runs punctuationRuns), (["pd", "dashpunctuation"], runs dashRuns),
   (["s", "symbol"], runs symbolRuns), (["sc", "currencysymbol"], runs currencyRuns),
   (["sm", "mathsymbol"], runs mathRuns), (["z", "separator"], runs separatorRuns),
   (["zs", "spaceseparator"], without (runs separatorRuns) (range 0x2028 0x2029)),
   (["zl", "lineseparator"], range 0x2028 0x2028),
   (["zp", "paragraphseparator"], range 0x2029 0x2029),
   (["cc", "control", "cntrl"], either (range 0 0x1F) (range 0x7F 0x9F))]

/-- The scripts, by name. -/
def scripts : List (List String × CharSet) :=
  [(["greek", "grek"], runs greekRuns), (["latin", "latn"], runs latinRuns),
   (["cyrillic", "cyrl"], runs cyrillicRuns), (["han", "hani"], runs hanRuns),
   (["hiragana", "hira"], runs hiraganaRuns), (["katakana", "kana"], runs katakanaRuns),
   (["arabic", "arab"], runs arabicRuns), (["hebrew", "hebr"], runs hebrewRuns)]

/-- Other properties, by name. -/
def properties : List (List String × CharSet) :=
  [(["alphabetic", "alpha"], runs alphabeticRuns), (["uppercase", "upper"], capitals),
   (["lowercase", "lower"], smalls), (["whitespace", "wspace", "space"], blanks),
   (["cased"], cased)]

/-- Look a name up in a table. -/
def named? (table : List (List String × CharSet)) (name : String) : Option CharSet :=
  (table.find? (·.1.contains name)).map (·.2)

end CharSet

end Rollout.Pattern
