import Rollout.Toml.Value

/-!
# Tree: a document while it is being put together

Statements come in any order, and each may add to tables that others have begun.  Whether it may
depends on how the table came about, so the tree remembers that: a table under a header of its
own, one that only a longer header mentions, or one that a dotted key mentions.  Values that are
written out, inline tables included, are closed: nothing adds to them.
-/

namespace Rollout.Toml

/-- How a table has come about. -/
inductive Made where
  /-- By a header of its own. -/
  | header
  /-- On the way to another header. -/
  | passing
  /-- By a dotted key. -/
  | dotted
deriving DecidableEq, Repr

/-- A table under construction, or a closed value. -/
inductive Tree where
  | value (v : Value)
  | table (made : Made) (entries : List (String × Tree))
  /-- An array of tables, the latest first. -/
  | tables (latest : List (List (String × Tree)))

namespace Tree

/-- The entries of a table under construction. -/
abbrev Entries := List (String × Tree)

/-- Put an entry in place of the one with its key, or at the end. -/
def put (entries : Entries) (k : String) (t : Tree) : Entries :=
  if (entries.lookup k).isSome then entries.map fun e => if e.1 == k then (k, t) else e
  else entries ++ [(k, t)]

/-- Change the table that a header path leads to; of an array of tables it leads to the latest.
Tables that are missing on the way are added. -/
def within (f : Entries → Option Entries) : List String → Entries → Option Entries
  | [], entries => f entries
  | k :: path, entries =>
    match entries.lookup k with
    | none => do return put entries k (.table .passing (← within f path []))
    | some (.table made inner) => do return put entries k (.table made (← within f path inner))
    | some (.tables (last :: earlier)) => do
      return put entries k (.tables ((← within f path last) :: earlier))
    | some (.tables []) | some (.value _) => none

/-- Open a table under a header: it must be new, or have been only passed so far. -/
def openTable (k : String) (entries : Entries) : Option Entries :=
  match entries.lookup k with
  | none => some (put entries k (.table .header []))
  | some (.table .passing inner) => some (put entries k (.table .header inner))
  | some _ => none

/-- Open one more table of an array of tables. -/
def openNext (k : String) (entries : Entries) : Option Entries :=
  match entries.lookup k with
  | none => some (put entries k (.tables [[]]))
  | some (.tables latest) => some (put entries k (.tables ([] :: latest)))
  | some _ => none

/-- Tables made by the dotted key `path.k`. -/
def chain (k : String) (v : Value) : List String → Entries
  | [] => [(k, .value v)]
  | p :: path => [(p, .table .dotted (chain k v path))]

/-- Assign a value to the dotted key `path.k`.  A table with a header of its own is closed for
dotted keys, and the table the key is put into must have been made by dotted keys alone. -/
def assign (k : String) (v : Value) : List String → Entries → Option Entries
  | [], entries => if (entries.lookup k).isSome then none else some (put entries k (.value v))
  | p :: path, entries =>
    match entries.lookup p with
    | none => some (put entries p (.table .dotted (chain k v path)))
    | some (.table made inner) =>
      if made = .header || (path.isEmpty && made ≠ .dotted) then none
      else do return put entries p (.table made (← assign k v path inner))
    | some (.tables (last :: earlier)) =>
      if path.isEmpty then none
      else do return put entries p (.tables ((← assign k v path last) :: earlier))
    | some (.tables []) | some (.value _) => none

mutual

/-- The finished value. -/
def toValue : Tree → Value
  | .value v => v
  | .table _ entries => .table (toTable entries)
  | .tables latest => .array (toTables latest).reverse

/-- The finished entries of a table. -/
def toTable : List (String × Tree) → Table
  | [] => []
  | (k, t) :: es => (k, toValue t) :: toTable es

/-- The finished tables of an array. -/
def toTables : List (List (String × Tree)) → List Value
  | [] => []
  | es :: rest => .table (toTable es) :: toTables rest

end

end Tree

end Rollout.Toml
