import Rollout.Status.Basic
import Rollout.Text.LowerCase

/-!
# Reading: the goal a user names

On the command line a goal may be written in letters of any case and with blanks around it.
-/

namespace Rollout.Goal

/-- A word that names no goal, in small letters. -/
structure Unknown where
  word : String
deriving DecidableEq, Repr

/-- What is said about a word that names no goal. -/
def Unknown.message (u : Unknown) : String :=
  "invalid goal status: " ++ u.word ++ " (expected \"deployed\" or \"destroyed\")"

/-- The goal with a given name in small letters. -/
def ofWord? (w : String) : Option Goal := all.find? (·.word == w)

/-- Read a goal. -/
def parse (text : String) : Except Unknown Goal :=
  let w := String.ofList (Text.lower (Text.trim text.toList))
  match ofWord? w with
  | some g => .ok g
  | none => .error ⟨w⟩

end Rollout.Goal
