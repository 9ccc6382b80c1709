import Rollout.Toml.Value

/-!
# Decode: values as what they are wanted for

Each function here reads a value as something of a given kind, or fails.  A record may be written
as a table, where unknown entries are passed over if they can be read at all, or as an array of
its fields in order; a date counts as a table without known entries.
-/

namespace Rollout.Toml.Decode

/-- A text. -/
def text : Value → Option String
  | .text s => some s
  | _ => none

/-- A truth value. -/
def boolean : Value → Option Bool
  | .boolean b => some b
  | _ => none

/-- A count of at most sixty-four bits. -/
def count : Value → Option Nat
  | .integer n => if 0 ≤ n && n < UInt64.size then some n.toNat else none
  | _ => none

/-- A list. -/
def list {α : Type} (item : Value → Option α) : Value → Option (List α)
  | .array vs => vs.mapM item
  | _ => none

/-- The value has nothing in it. -/
def isHollow : Value → Bool
  | .array [] | .table [] => true
  | _ => false

/-- One of several named things: its name, or a table with nothing but the name and a hollow
value. -/
def oneOf {α : Type} (all : List α) (name : α → String) : Value → Option α
  | .text s => all.find? (name · == s)
  | .table [(s, v)] => if isHollow v then all.find? (name · == s) else none
  | _ => none

/-- The fields of a record, by their names in order. -/
def fields (names : List String) : Value → Option (List (Option Value))
  | .table entries =>
    let unknown := entries.filter fun e => !names.contains e.1
    if Value.allReadableEntries unknown then some (names.map fun n => entries.lookup n) else none
  | .array vs => some (names.zipIdx.map fun n => vs[n.2]?)
  | .moment _ => some (names.map fun _ => none)
  | _ => none

/-- A field that may be missing. -/
def optional {α : Type} (read : Value → Option α) : Option Value → Option (Option α)
  | none => some none
  | some v => (read v).map some

/-- A field that has a value of its own when it is missing. -/
def orElse {α : Type} (absent : α) (read : Value → Option α) : Option Value → Option α
  | none => some absent
  | some v => read v

/-- A table of any entries, each read alike, in the order of their keys. -/
def entries {α : Type} (item : Value → Option α) : Value → Option (List (String × α))
  | .table es => do
    let es ← es.mapM fun e => do return (e.1, ← item e.2)
    return es.mergeSort fun a b => a.1 ≤ b.1
  | _ => none

end Rollout.Toml.Decode
