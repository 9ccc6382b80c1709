/-!
# Reader: taking a text apart from the front

A reader takes something off the front of a text or fails.  Nothing is ever taken back by a
reader that has failed, so a choice is made by looking at what comes next.
-/

namespace Rollout.Toml

/-- Take something off the front of a text, or fail. -/
abbrev Reader := StateT (List Char) Option

namespace Reader

/-- What is left of the text. -/
def rest : Reader (List Char) := get

/-- The next character, which stays. -/
def peek : Reader (Option Char) := do return (← get).head?

/-- Take one character of a given kind. -/
def one (p : Char → Bool) : Reader Char := do
  match ← get with
  | c :: cs => if p c then set cs; return c else failure
  | [] => failure

/-- Take one given character. -/
def char (c : Char) : Reader Unit := do let _ ← one (· == c)

/-- Take the next character if it is the given one, and say whether it was. -/
def taken (c : Char) : Reader Bool := do
  match ← get with
  | d :: cs => if d == c then set cs; return true else return false
  | [] => return false

/-- Take the longest run of characters of a given kind. -/
def run (p : Char → Bool) : Reader (List Char) :=
  modifyGet fun cs => (cs.takeWhile p, cs.dropWhile p)

/-- Take what a function splits off the front. -/
def split {α : Type} (f : List Char → Option (α × List Char)) : Reader α := f

/-- A bound on the number of steps that each take something off the text. -/
def budget : Reader Nat := do return (← get).length + 1

/-- The text is at its end. -/
def atEnd : Reader Bool := do return (← get).isEmpty

/-! ## Blanks, line ends and comments -/

/-- A blank within a line. -/
def isGap (c : Char) : Bool := c == ' ' || c == '\t'

/-- Skip blanks within a line. -/
def gap : Reader Unit := do let _ ← run isGap

/-- A line ends here. -/
def atLineEnd : Reader Bool := do
  match ← get with
  | '\n' :: _ | '\r' :: '\n' :: _ => return true
  | _ => return false

/-- Take the end of a line. -/
def lineEnd : Reader Unit := do
  match ← get with
  | '\n' :: cs | '\r' :: '\n' :: cs => set cs
  | _ => failure

/-- A character that may stand in a comment, a text in quotes or nowhere: no control characters
but the tab. -/
def isPlain (c : Char) : Bool := c == '\t' || (0x20 ≤ c.toNat && c.toNat != 0x7F)

/-- Skip a comment, if there is one. -/
def comment : Reader Unit := do
  if ← taken '#' then let _ ← run isPlain

/-- Skip blanks, comments and line ends. -/
def spacing : Nat → Reader Unit
  | 0 => failure
  | fuel + 1 => do
    gap
    comment
    if ← atLineEnd then
      lineEnd
      spacing fuel

/-- Skip everything that may stand between the members of an array. -/
def anySpacing : Reader Unit := do spacing (← budget)

/-- Take what may stand behind a statement: a comment, and the end of the line or the text. -/
def statementEnd : Reader Unit := do
  gap
  comment
  unless ← atEnd do lineEnd

end Reader

end Rollout.Toml
