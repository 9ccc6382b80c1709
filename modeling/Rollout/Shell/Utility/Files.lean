import Rollout.Shell.Machine

/-!
# Files: utilities on files

Each utility takes its arguments and returns its status.
-/

namespace Rollout.Shell.Utility

open Step

/-- Octets between single quotes. -/
def quoted (o : Octets) : Octets := ['\''] ++ o ++ ['\'']

/-- What a utility says when something is the matter. -/
def remark (utility : String) (text : Octets) : Step Unit :=
  complain ((utility ++ ": ").toList ++ text)

/-- What a utility says when it cannot do something to a file. -/
def cannot (utility act : String) (name : Octets) (why : String) : Step Unit :=
  remark utility (("cannot " ++ act ++ " ").toList ++ quoted name ++ (": " ++ why).toList)

/-- What a utility says when it is given too little; it fails. -/
def misses (utility operand : String) : Step Nat := do
  remark utility ("missing " ++ operand).toList
  complain ("Try '" ++ utility ++ " --help' for more information.").toList
  return 1

/-- What a utility says about an option that it does not know; it fails. -/
def knowsNot (utility : String) (option : Char) (status : Nat) : Step Nat := do
  remark utility ("invalid option -- ".toList ++ quoted [option])
  complain ("Try '" ++ utility ++ " --help' for more information.").toList
  return status

/-- The letters of the options in front, and the other arguments.  Two dashes end the options. -/
def splitOptions : List Octets → Octets × List Octets
  | [] => ([], [])
  | a :: as =>
    match a with
    | ['-', '-'] => ([], as)
    | '-' :: c :: cs =>
      let (letters, rest) := splitOptions as
      (c :: cs ++ letters, rest)
    | _ =>
      let (letters, rest) := splitOptions as
      (letters, a :: rest)

/-- Do something for each argument; the status says whether all went well. -/
def forEach (as : List Octets) (f : Octets → Step Bool) : Step Nat := do
  let well ← as.mapM f
  return if well.all id then 0 else 1

/-- Read the files with some names, or the input if there is none, and say which cannot be read, in
a given wording.  The flag says whether all could. -/
def contents (say : Octets → Directory.Problem → Step Unit) (names : List Octets) :
    Step (Bool × List (Octets × Octets)) := do
  let found ← (if names.isEmpty then [['-']] else names).mapM fun name => do
    match ← contentOf name with
    | .ok o => return some (name, o)
    | .error e =>
      say name e
      return none
  return (found.all Option.isSome, found.filterMap id)

/-- What most utilities say about a file that cannot be read. -/
def plainly (utility : String) (name : Octets) (e : Directory.Problem) : Step Unit :=
  remark utility (name ++ (": " ++ e.text).toList)

/-- Write files one after another. -/
def cat (args : List Octets) : Step Nat := do
  let (_, names) := splitOptions args
  forEach (if names.isEmpty then [['-']] else names) fun name => do
    match ← contentOf name with
    | .ok o =>
      say o
      return true
    | .error e =>
      plainly "cat" name e
      return false

/-- Make files that are not there. -/
def touch (args : List Octets) : Step Nat := do
  let (options, names) := splitOptions args
  if names.isEmpty then misses "touch" "file operand"
  else
    forEach names fun name => do
      let d := (← get).directory
      let p ← path name
      if d.has p || options.contains 'c' then return true
      else
        match d.change p id with
        | .ok d =>
          inDirectory fun _ => d
          return true
        | .error e =>
          cannot "touch" "touch" name e.text
          return false

/-- Remove files, and directories if so told. -/
def rm (args : List Octets) : Step Nat := do
  let (options, names) := splitOptions args
  let force := options.contains 'f'
  let deep := options.contains 'r' || options.contains 'R'
  match options.find? fun c => !"frRdiIv".toList.contains c with
  | some c => knowsNot "rm" c 1
  | none =>
    if names.isEmpty && !force then misses "rm" "operand"
    else
      forEach names fun name => do
        let d := (← get).directory
        let p ← path name
        match d.lookup? p with
        | none =>
          if force then return true
          cannot "rm" "remove" name (if d.passesFile p then "Not a directory"
            else "No such file or directory")
          return false
        | some .folder =>
          if deep && !p.isEmpty then
            inDirectory (·.remove p)
            return true
          else
            cannot "rm" "remove" name "Is a directory"
            return false
        | some (.file _) =>
          inDirectory (·.remove p)
          return true

/-- Remove empty directories. -/
def rmdir (args : List Octets) : Step Nat := do
  let (_, names) := splitOptions args
  if names.isEmpty then misses "rmdir" "operand"
  else
    forEach names fun name => do
      let d := (← get).directory
      let p ← path name
      let refuse := fun (why : String) => do
        remark "rmdir" ("failed to remove ".toList ++ quoted name ++ (": " ++ why).toList)
        return false
      match d.lookup? p with
      | none => refuse "No such file or directory"
      | some (.file _) => refuse "Not a directory"
      | some .folder =>
        if (d.names p).isEmpty then
          inDirectory (·.remove p)
          return true
        else refuse "Directory not empty"

/-- Make directories, those on the way included if so told. -/
def mkdir (args : List Octets) : Step Nat := do
  let (options, names) := splitOptions args
  let deep := options.contains 'p'
  if names.isEmpty then misses "mkdir" "operand"
  else
    forEach names fun name => do
      let d := (← get).directory
      let p ← path name
      let refuse := fun (why : String) => do
        cannot "mkdir" "create directory" name why
        return false
      if d.has p then
        if deep && d.isFolder p then return true else refuse "File exists"
      else if d.passesFile p then refuse "Not a directory"
      else if deep then
        let steps := (List.range p.length).map fun n => p.take (n + 1)
        inDirectory fun d => steps.foldl (fun d q => if d.has q then d else d.put q .folder) d
        return true
      else if d.isFolder p.dropLast then
        inDirectory (·.put p .folder)
        return true
      else refuse "No such file or directory"

/-- The path at which a file arrives that is sent to a path: inside it, if it is a directory. -/
def arrival (d : Directory) (source target : Path) : Path :=
  if d.isFolder target then target ++ source.getLast?.toList else target

/-- The entries at and below a path, moved below another one. -/
def grafted (d : Directory) (source target : Path) : List (Path × Entry) :=
  d.entries.filterMap fun e =>
    if source.isPrefixOf e.1 then some (target ++ e.1.drop source.length, e.2) else none

/-- Send files to a path, and take them away from where they were if so told. -/
def send (utility : String) (move deep : Bool) (names : List Octets) : Step Nat := do
  match names.reverse with
  | [] => misses utility "file operand"
  | [only] => misses utility ("destination file operand after '" ++ only.toText ++ "'")
  | target :: sources =>
    let destination ← path target
    if sources.length > 1 && !(← get).directory.isFolder destination then
      remark utility ("target ".toList ++ quoted target ++ ": No such file or directory".toList)
      return 1
    forEach sources.reverse fun name => do
      let d := (← get).directory
      let p ← path name
      if (d.lookup? p).isNone && p != Directory.nowhere then
        cannot utility "stat" name "No such file or directory"
        return false
      else if d.isFolder p && !move && !deep then
        remark utility ("-r not specified; omitting directory ".toList ++ quoted name)
        return false
      else
        let goal := arrival d p destination
        if goal == p then
          remark utility (quoted name ++ " and ".toList ++ quoted target ++
            " are the same file".toList)
          return false
        else if !d.isFolder goal.dropLast then
          let act := if move then "move " else "create regular file "
          let what := if move then quoted name ++ " to ".toList ++ quoted target
            else quoted target
          remark utility (("cannot " ++ act).toList ++ what ++
            ": No such file or directory".toList)
          return false
        else
          let moved := if p == Directory.nowhere then [(goal, Entry.file [])]
            else grafted d p goal
          inDirectory fun d =>
            moved.foldl (fun d e => d.put e.1 e.2) (if move then d.remove p else d)
          return true

/-- Move files. -/
def mv (args : List Octets) : Step Nat := send "mv" true true (splitOptions args).2

/-- Copy files. -/
def cp (args : List Octets) : Step Nat :=
  let (options, names) := splitOptions args
  send "cp" false (options.any "rRa".toList.contains) names

/-- List names, those that begin with a dot only if so told. -/
def ls (args : List Octets) : Step Nat := do
  let (options, names) := splitOptions args
  let hidden := options.contains 'a' || options.contains 'A'
  let d := (← get).directory
  let targets := if names.isEmpty then [['.']] else names.mergeSort Octets.inOrder
  let well ← targets.filterM fun name => do
    if d.has (← path name) then return true
    else
      cannot "ls" "access" name "No such file or directory"
      return false
  let folders ← well.filterM fun name => do
    return d.isFolder (← path name) && !options.contains 'd'
  let files := well.filter fun name => !folders.contains name
  files.forM fun name => say name.line
  let blocks ← folders.mapM fun name => do
    let below := (d.names (← path name)).filter fun n => hidden || n.head? != some '.'
    let dots := if options.contains 'a' then [['.'], ['.', '.']] else []
    let body := ((dots ++ below).map Octets.line).flatten
    return if targets.length > 1 then name ++ ":\n".toList ++ body else body
  unless files.isEmpty || blocks.isEmpty do say ['\n']
  say (['\n'].intercalate blocks)
  return if well.length == targets.length then 0 else 2

/-- Write the input to files and to the output. -/
def tee (args : List Octets) : Step Nat := do
  let (options, names) := splitOptions args
  let o ← input
  let status ← forEach names fun name => do
    let f := fun (before : Octets) => if options.contains 'a' then before ++ o else o
    match (← get).directory.change (← path name) f with
    | .ok d =>
      inDirectory fun _ => d
      return true
    | .error e =>
      plainly "tee" name e
      return false
  say o
  return status

end Rollout.Shell.Utility
