import Rollout.Shell.Octets

/-!
# Script: what a command line says

A script is a tree of commands.  Its leaves are simple commands, whose words are made of pieces:
text that stands for itself, and expansions that are worked out when the command is run.
-/

namespace Rollout.Shell

/-- What to make of the value of a variable. -/
inductive Use where
  | plain
  /-- The number of octets. -/
  | size
  /-- Another word in place of a value that is missing, or, if so told, empty. -/
  | orElse (alsoEmpty : Bool)
  /-- The same, and the variable takes the word as its value. -/
  | orAssign (alsoEmpty : Bool)
  /-- Another word in place of a value that is there. -/
  | andThen (alsoEmpty : Bool)
  /-- Give up when the value is missing. -/
  | orFail (alsoEmpty : Bool)
  /-- Without what a pattern matches at the front; the longest match if so told. -/
  | withoutFront (longest : Bool)
  /-- Without what a pattern matches at the end. -/
  | withoutEnd (longest : Bool)
deriving DecidableEq, Repr, Inhabited

/-- Some of the value is cut away, which takes a pattern. -/
def Use.isCut : Use → Bool
  | withoutFront _ | withoutEnd _ => true
  | _ => false

/-- What a redirection does. -/
inductive Direction where
  | input
  | output
  | append
  /-- Become a copy of another descriptor. -/
  | copy
  /-- Take in the target itself. -/
  | document
deriving DecidableEq, Repr, Inhabited

mutual

/-- A piece of a word. -/
inductive Piece where
  | text (s : Octets) (quoted : Bool)
  /-- The value of a variable. -/
  | value (name : Octets) (use : Use) (argument : List Piece) (quoted : Bool)
  /-- The output of a command. -/
  | output (script : Command) (quoted : Bool)
  /-- The value of an arithmetic expression. -/
  | sum (expression : List Piece) (quoted : Bool)

/-- Where a descriptor of a command leads. -/
inductive Redirection where
  | mk (descriptor : Nat) (direction : Direction) (target : List Piece)

/-- A command. -/
inductive Command where
  /-- Assignments, words and redirections. -/
  | simple (assignments : List (Octets × List Piece)) (words : List (List Piece))
      (redirections : List Redirection)
  | skip
  | sequence (first second : Command)
  /-- Nobody waits for the first one. -/
  | background (first second : Command)
  | both (first second : Command)
  | either (first second : Command)
  | negated (c : Command)
  | pipe (first second : Command)
  | group (c : Command) (redirections : List Redirection)
  /-- In a shell of its own. -/
  | apart (c : Command) (redirections : List Redirection)
  | choice (test yes no : Command) (redirections : List Redirection)
  /-- As long as the test has the given outcome. -/
  | loop (outcome : Bool) (test body : Command) (redirections : List Redirection)
  | each (name : Octets) (words : Option (List (List Piece))) (body : Command)
      (redirections : List Redirection)
  | select (word : List Piece) (arms : List (List (List Piece) × Command))
      (redirections : List Redirection)
  /-- A name for a command. -/
  | define (name : Octets) (body : Command)

end

/-- A word. -/
abbrev Word := List Piece

instance : Inhabited Command := ⟨.skip⟩
instance : Inhabited Piece := ⟨.text [] false⟩
instance : Inhabited Redirection := ⟨Redirection.mk 0 .input []⟩

end Rollout.Shell
