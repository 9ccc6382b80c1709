/-!
# Lines: the lines of a text

A line ends at a line feed, and a carriage return right before it belongs to the end.  What
stands behind the last line feed is a line of its own unless it is empty.
-/

namespace Rollout.Text

/-- Drop one carriage return at the end. -/
def dropReturn (cs : List Char) : List Char :=
  if cs.getLast? = some '\r' then cs.dropLast else cs

/-- The lines behind a piece `before` of the first one, which is held last character first. -/
def linesFrom (before : List Char) : List Char → List (List Char)
  | [] => if before.isEmpty then [] else [before.reverse]
  | c :: cs =>
    if c = '\n' then dropReturn before.reverse :: linesFrom [] cs else linesFrom (c :: before) cs

/-- The lines of a text. -/
def lines (cs : List Char) : List (List Char) := linesFrom [] cs

end Rollout.Text
