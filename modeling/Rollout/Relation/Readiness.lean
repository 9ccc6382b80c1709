/-!
# Readiness: done, or still waiting and for what

A check answers `ready` or a forest of `Diagnostic`s, each a line of text with more specific
ones below it.  `Readiness.text` writes the forest out, two blanks of indentation per level.
-/

namespace Rollout

/-- Something that is not done yet; not an error. -/
inductive Diagnostic where
  | mk (status : String) (related : List Diagnostic)
deriving Repr, Inhabited

namespace Diagnostic

/-- What is being waited for. -/
def status : Diagnostic → String
  | mk s _ => s

/-- What it is waited for in detail. -/
def related : Diagnostic → List Diagnostic
  | mk _ ds => ds

/-- A diagnostic without detail. -/
def leaf (status : String) : Diagnostic := mk status []

/-- Two blanks per level. -/
def indent (depth : Nat) : String := "".pushn ' ' (2 * depth)

mutual

/-- Append a diagnostic and its detail to a text.  It starts a new line unless the text is
still empty. -/
def write (out : String) (depth : Nat) : Diagnostic → String
  | mk status related =>
    let line := if out.isEmpty then out else out ++ "\n"
    writeAll (line ++ indent depth ++ status) (depth + 1) related

/-- Append several diagnostics of one level. -/
def writeAll (out : String) (depth : Nat) : List Diagnostic → String
  | [] => out
  | d :: ds => writeAll (write out depth d) depth ds

end

end Diagnostic

/-- The answer of a readiness or completion check. -/
inductive Readiness where
  | ready
  | waiting (pending : List Diagnostic)
deriving Repr, Inhabited

namespace Readiness

/-- Waiting for one thing. -/
def waitingFor (status : String) : Readiness := waiting [.leaf status]

/-- Nothing is waited for.  An empty list of diagnostics still means waiting. -/
def isReady : Readiness → Bool
  | ready => true
  | waiting _ => false

/-- The diagnostics, none when ready. -/
def pending : Readiness → List Diagnostic
  | ready => []
  | waiting ds => ds

/-- The answer as text, one line per diagnostic. -/
def text : Readiness → String
  | ready => "Ready"
  | waiting ds => Diagnostic.writeAll "" 0 ds

end Readiness

end Rollout
