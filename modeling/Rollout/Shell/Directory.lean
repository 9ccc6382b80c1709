import Rollout.Shell.Octets

/-!
# Directory: the files that commands see

A directory tree in memory.  Paths are taken apart at slashes; the directory in which commands are
started is the root of the tree.  `/dev/null` can always be written and is always empty.
-/

namespace Rollout.Shell

/-- A path: the names from the working directory on. -/
abbrev Path := List Octets

/-- The names of a path, dots and empty names left out; two dots take back the name before.
`here` is where a path begins that does not begin with a slash. -/
def Path.ofOctets (here : Path) (o : Octets) : Path :=
  (o.splitOnP (· == '/')).foldl
    (fun path name =>
      if name.isEmpty || name == ['.'] then path
      else if name == ['.', '.'] then path.dropLast
      else path ++ [name]) (if o.head? == some '/' then [] else here)

/-- What stands at a path. -/
inductive Entry where
  | file (content : Octets)
  | folder
deriving DecidableEq, Repr, Inhabited

/-- The entries of a tree, in the order in which they came. -/
structure Directory where
  entries : List (Path × Entry) := []
deriving DecidableEq, Repr, Inhabited

namespace Directory

/-- What stands at a path; the working directory itself is a folder. -/
def lookup? (d : Directory) (p : Path) : Option Entry :=
  if p.isEmpty then some .folder else d.entries.lookup p

/-- There is a folder at a path. -/
def isFolder (d : Directory) (p : Path) : Bool := d.lookup? p == some .folder

/-- There is a file at a path. -/
def isFile (d : Directory) (p : Path) : Bool :=
  match d.lookup? p with
  | some (.file _) => true
  | _ => false

/-- The path of the file that is always empty. -/
def nowhere : Path := ["dev".toList, "null".toList]

/-- Something stands at a path. -/
def has (d : Directory) (p : Path) : Bool := (d.lookup? p).isSome || p == nowhere

/-- Put an entry at a path. -/
def put (d : Directory) (p : Path) (e : Entry) : Directory :=
  if (d.entries.lookup p).isSome then
    ⟨d.entries.map fun row => if row.1 == p then (p, e) else row⟩
  else ⟨d.entries ++ [(p, e)]⟩

/-- Take away a path and all that is below it. -/
def remove (d : Directory) (p : Path) : Directory := ⟨d.entries.filter fun e => !p.isPrefixOf e.1⟩

/-- The names right below a folder, in order. -/
def names (d : Directory) (p : Path) : List Octets :=
  let below := d.entries.filterMap fun e =>
    if e.1.dropLast == p && !e.1.isEmpty then e.1.getLast? else none
  below.mergeSort Octets.inOrder

/-- Why a file cannot be read or written. -/
inductive Problem where
  | missing
  | notFolder
  | isFolder
deriving DecidableEq, Repr

/-- How operating systems word a problem. -/
def Problem.text : Problem → String
  | missing => "No such file or directory"
  | notFolder => "Not a directory"
  | isFolder => "Is a directory"

/-- The number operating systems give a problem. -/
def Problem.number : Problem → Nat
  | missing => 2
  | notFolder => 20
  | isFolder => 21

/-- Some name on the way to a path is that of a file. -/
def passesFile (d : Directory) (p : Path) : Bool :=
  (List.range p.length).any fun n => 0 < n && d.isFile (p.take n)

/-- Read a file. -/
def read (d : Directory) (p : Path) : Except Problem Octets :=
  match d.lookup? p with
  | some (.file content) => .ok content
  | some .folder => .error .isFolder
  | none =>
    if p == nowhere then .ok []
    else .error (if d.passesFile p then .notFolder else .missing)

/-- Make a file or change it: `f` sees what it held before. -/
def change (d : Directory) (p : Path) (f : Octets → Octets) : Except Problem Directory :=
  match d.lookup? p with
  | some (.file content) => .ok (d.put p (.file (f content)))
  | some .folder => .error .isFolder
  | none =>
    if p == nowhere then .ok d
    else if d.isFolder p.dropLast then .ok (d.put p (.file (f [])))
    else .error (if d.passesFile p then .notFolder else .missing)

/-! ## What has changed -/

/-- The entries of a later tree that an earlier one does not have, or not like this. -/
def news (earlier later : Directory) : List (Path × Entry) :=
  later.entries.filter fun e => earlier.entries.lookup e.1 != some e.2

/-- The paths of an earlier tree that a later one has nothing at, or a file in place of a folder or
the other way round; what was below such a path is not listed. -/
def losses (earlier later : Directory) : List Path :=
  (earlier.entries.map (·.1)).filter fun p =>
    later.isFolder p.dropLast &&
      !(if earlier.isFolder p then later.isFolder p else later.isFile p)

end Directory

end Rollout.Shell
