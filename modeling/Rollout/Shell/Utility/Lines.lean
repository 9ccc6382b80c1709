import Rollout.Shell.Utility.Print
import Rollout.Shell.Glob
import Rollout.Pattern.Reading

/-!
# Lines: utilities on the lines of a text
-/

namespace Rollout.Shell.Utility

open Step

/-- The lines of a text, without their ends. -/
def linesOf (o : Octets) : List Octets :=
  let parts := o.splitOnP (· == '\n')
  if parts.getLast? == some [] then parts.dropLast else parts

/-- Lines with their ends. -/
def unlines (ls : List Octets) : Octets := (ls.map Octets.line).flatten

/-- The number in base ten that all of a text stands for. -/
def natOf (o : Octets) : Option Nat :=
  if !o.isEmpty && o.all Char.isDigit then some (Octets.toInt?.value o) else none

/-- An option that has a value: the value and the other arguments. -/
def optionValue (letter : Char) : List Octets → Option Octets × List Octets
  | [] => (none, [])
  | a :: as =>
    match a with
    | ['-', '-'] => (none, a :: as)
    | '-' :: c :: value =>
      if c == letter then
        if value.isEmpty then (as.head?, as.tail) else (some value, as)
      else
        let (v, rest) := optionValue letter as
        (v, a :: rest)
    | _ =>
      let (v, rest) := optionValue letter as
      (v, a :: rest)

/-- A bare number behind a dash, as the value of the option `-n`. -/
def numberOption (args : List Octets) : List Octets :=
  match args with
  | ('-' :: d :: ds) :: rest => if d.isDigit then "-n".toList :: (d :: ds) :: rest else args
  | _ => args

/-- Write one part of each file, with headings if there are several. -/
def parts (utility : String) (names : List Octets) (f : Octets → Octets) : Step Nat := do
  let wording := fun (name : Octets) (e : Directory.Problem) =>
    let act := if e == .isFolder then "error reading " else "cannot open "
    let whence := if e == .isFolder then ": " else " for reading: "
    remark utility (act.toList ++ quoted name ++ (whence ++ e.text).toList)
  let (well, found) ← contents wording names
  let headed := names.length > 1
  let blocks := found.map fun e =>
    (if headed then Octets.line ("==> ".toList ++ e.1 ++ " <==".toList) else []) ++ f e.2
  say (if headed then ['\n'].intercalate blocks else blocks.flatten)
  return if well then 0 else 1

/-- The first lines or octets of files. -/
def head (args : List Octets) : Step Nat := do
  let (octets, args) := optionValue 'c' (numberOption args)
  let (lines, args) := optionValue 'n' args
  let (_, names) := splitOptions args
  let amount := octets.getD (lines.getD "10".toList)
  let back := amount.head? == some '-'
  match natOf (if back then amount.tail else amount) with
  | none =>
    let what := if octets.isSome then "invalid number of bytes: " else "invalid number of lines: "
    remark "head" (what.toList ++ quoted amount)
    return 1
  | some n =>
    parts "head" names fun o =>
      if octets.isSome then (if back then o.take (o.length - n) else o.take n)
      else
        let ls := linesOf o
        let wanted := if back then ls.take (ls.length - n) else ls.take n
        (unlines wanted).take o.length

/-- The last lines or octets of files. -/
def tail (args : List Octets) : Step Nat := do
  let (octets, args) := optionValue 'c' (numberOption args)
  let (lines, args) := optionValue 'n' args
  let (_, names) := splitOptions args
  let amount := octets.getD (lines.getD "10".toList)
  let front := amount.head? == some '+'
  match natOf (if front || amount.head? == some '-' then amount.tail else amount) with
  | none =>
    let what := if octets.isSome then "invalid number of bytes: " else "invalid number of lines: "
    remark "tail" (what.toList ++ quoted amount)
    return 1
  | some n =>
    parts "tail" names fun o =>
      if octets.isSome then (if front then o.drop (n - 1) else o.drop (o.length - n))
      else
        let ls := linesOf o
        let passed := if front then ls.take (n - 1) else ls.take (ls.length - n)
        o.drop (unlines passed).length

/-- The number of words. -/
def wordCount (o : Octets) : Nat :=
  ((o.splitOnP fun c => c == ' ' || '\t' ≤ c && c ≤ '\r').filter (!·.isEmpty)).length

/-- A number behind blanks. -/
def padded (width n : Nat) : Octets :=
  let ds := Nat.toDigits 10 n
  List.replicate (width - ds.length) ' ' ++ ds

/-- Count the lines, words and octets of files. -/
def wc (args : List Octets) : Step Nat := do
  let (options, names) := splitOptions args
  match options.find? fun c => !"lwcmL".toList.contains c with
  | some c => knowsNot "wc" c 1
  | none =>
    let options := if options.isEmpty then "lwc".toList else options
    let (well, found) ← contents (plainly "wc") names
    let counts := found.map fun (name, o) =>
      (name, (if options.contains 'l' then [o.count '\n'] else []) ++
        (if options.contains 'w' then [wordCount o] else []) ++
        (if options.contains 'm' then [(Text.Utf8.decode (o.map Char.toNat)).length] else []) ++
        (if options.contains 'c' then [o.length] else []))
    let total := (counts.map (·.2)).foldl (fun t ns =>
      if t.isEmpty then ns else List.zipWith (· + ·) t ns) []
    let size := (found.map (·.2.length)).foldl (· + ·) 0
    let single := names.length ≤ 1 && total.length ≤ 1
    let width := if single then 1
      else if names.isEmpty then 7 else (Nat.toDigits 10 size).length
    let row := fun (name : Octets) (ns : List Nat) =>
      let body := [' '].intercalate (ns.map (padded width))
      Octets.line (if name.isEmpty then body else body ++ ' ' :: name)
    counts.forM fun (name, ns) => say (row (if names.isEmpty then [] else name) ns)
    if names.length > 1 then say (row "total".toList total)
    return if well then 0 else 1

/-! ## Searching -/

/-- A basic pattern, written as an extended one: signs that are special in the one behind a
backslash are so in the other without. -/
def extended : (start : Bool) → Octets → Octets
  | _, [] => []
  | _, ['\\'] => ['\\']
  | _, '\\' :: c :: rest =>
    if "(){}|+?".toList.contains c then c :: extended (c == '(' || c == '|') rest
    else '\\' :: c :: extended false rest
  | start, c :: rest =>
    if "(){}|+?".toList.contains c || start && c == '*' then '\\' :: c :: extended false rest
    else c :: extended (start && c == '^') rest

/-- A text as a pattern that matches it alone. -/
def literal (o : Octets) : Octets :=
  (o.map fun c => if c.isAlphanum || 0x80 ≤ c.toNat then [c] else ['\\', c]).flatten

/-- The octets as characters. -/
def decoded (o : Octets) : List Char := Text.Utf8.decode (o.map Char.toNat)

/-- Search for lines that match a pattern. -/
def search (args : List Octets) (wide : Bool) : Step Nat := do
  let (given, args) := optionValue 'e' args
  let (options, rest) := splitOptions args
  let on := options.contains
  let (pattern?, names) := match given with
    | some p => (some p, rest)
    | none => (rest.head?, rest.tail)
  match pattern? with
  | none =>
    complain "Usage: grep [OPTION]... PATTERNS [FILE]...".toList
    complain "Try 'grep --help' for more information.".toList
    return 2
  | some p =>
    let body := fun (p : Octets) =>
      if on 'F' then literal p else if wide || on 'E' then p else extended true p
    let one := fun (p : Octets) => "(?:".toList ++ body p ++ ")".toList
    let all := "(?:".toList ++ ['|'].intercalate ((p.splitOnP (· == '\n')).map one) ++ ")".toList
    let whole := if on 'x' then "^".toList ++ all ++ "$".toList
      else if on 'w' then "\\b".toList ++ all ++ "\\b".toList else all
    let source := (if on 'i' then "(?i)".toList else []) ++ whole
    match Pattern.parse (Octets.toText source) with
    | none =>
      remark "grep" "Invalid regular expression".toList
      return 2
    | some pattern =>
      let found ← (if names.isEmpty then [['-']] else names).mapM fun name => do
        match ← contentOf name with
        | .error e =>
          unless on 's' do plainly "grep" name e
          return none
        | .ok o =>
          let numbered := (linesOf o).zipIdx.map fun (l, i) => (i + 1, l)
          return some (name, numbered.filter fun l =>
            pattern.matchesIn (decoded l.2) != on 'v')
      let hits := found.filterMap id
      let label := fun (name : Octets) =>
        if (names.length > 1 || on 'H') && !on 'h' then name ++ [':'] else []
      unless on 'q' do
        hits.forM fun (name, ls) =>
          if on 'l' then if ls.isEmpty then return () else say name.line
          else if on 'c' then say (label name ++ Nat.toDigits 10 ls.length).line
          else ls.forM fun (n, l) =>
            say (label name ++ (if on 'n' then Nat.toDigits 10 n ++ [':'] else []) ++ l).line
      let hit := hits.any fun h => !h.2.isEmpty
      let failed := found.any Option.isNone
      return if hit && (on 'q' || !failed) then 0 else if failed then 2 else 1

/-- Search with basic patterns. -/
def grep (args : List Octets) : Step Nat := search args false

/-- Search with extended patterns. -/
def egrep (args : List Octets) : Step Nat := search args true

/-- Search for texts. -/
def fgrep (args : List Octets) : Step Nat := search ("-F".toList :: args) false

/-! ## Rearranging -/

/-- All octets from one to another. -/
def span (a b : Char) : Octets :=
  ((List.range (b.toNat + 1)).drop a.toNat).map Char.ofNat

/-- The octets of a set such as `a-z`.  The first argument bounds its length. -/
def setOf : Nat → Octets → Octets
  | 0, _ => []
  | fuel + 1, o =>
    match o with
    | [] => []
    | '[' :: ':' :: rest =>
      let name := rest.takeWhile (· != ':')
      match rest.drop name.length with
      | ':' :: ']' :: rest =>
        ((Wild.classRanges (String.ofList name)).map fun r => span r.1 r.2).flatten ++
          setOf fuel rest
      | _ => '[' :: setOf fuel (':' :: rest)
    | '\\' :: rest =>
      match escapeAt false rest with
      | some (['\\', c], rest) => c :: setOf fuel rest
      | some (e, rest) => e ++ setOf fuel rest
      | none => setOf fuel rest
    | a :: '-' :: b :: rest => span a b ++ setOf fuel rest
    | c :: rest => c :: setOf fuel rest

/-- Leave one of octets next to each other that are the same and in a set. -/
def squeezed (inSet : Char → Bool) : Octets → Octets
  | a :: b :: rest =>
    if a == b && inSet a then squeezed inSet (b :: rest) else a :: squeezed inSet (b :: rest)
  | o => o

/-- Replace or delete octets of the input. -/
def tr (args : List Octets) : Step Nat := do
  let (options, sets) := splitOptions args
  let first := setOf (sets.headD []).length (sets.headD [])
  let second := sets[1]?.map fun s => setOf s.length s
  let inFirst := fun (c : Char) => first.contains c != (options.contains 'c' || options.contains 'C')
  if sets.isEmpty then misses "tr" "operand"
  else
    let o ← input
    let o := if options.contains 'd' then o.filter (!inFirst ·)
      else
        match second with
        | none | some [] => o
        | some (s :: ss) =>
          o.map fun c =>
            if !inFirst c then c
            else if options.contains 'c' || options.contains 'C' then (s :: ss).getLastD s
            else
              let last := first.length - 1 - (first.reverse.idxOf c)
              (s :: ss).getD last ((s :: ss).getLastD s)
    let inLast := fun (c : Char) => match second with
      | some s => s.contains c
      | none => inFirst c
    say (if options.contains 's' then squeezed inLast o else o)
    return 0

/-- The number at the front of a line. -/
def frontNumber (o : Octets) : Int :=
  let o := o.dropWhile Glyph.isBlank
  match o with
  | '-' :: ds => -(Octets.toInt?.value (ds.takeWhile Char.isDigit))
  | ds => Octets.toInt?.value (ds.takeWhile Char.isDigit)

/-- Sort lines. -/
def sort (args : List Octets) : Step Nat := do
  let (options, names) := splitOptions args
  let wording := fun (name : Octets) (e : Directory.Problem) =>
    let act := if e == .isFolder then "read failed: " else "cannot read: "
    remark "sort" (act.toList ++ name ++ (": " ++ e.text).toList)
  let (well, found) ← contents wording names
  let ls := (found.map fun e => linesOf e.2).flatten
  let numeric := options.contains 'n'
  let before := fun (a b : Octets) =>
    if numeric && frontNumber a != frontNumber b then frontNumber a ≤ frontNumber b
    else Octets.inOrder a b
  let ls := ls.mergeSort fun a b => if options.contains 'r' then before b a else before a b
  let same := fun (a b : Octets) => if numeric then frontNumber a == frontNumber b else a == b
  let ls := if options.contains 'u' then
    ls.foldr (fun l rest => match rest with
      | r :: _ => if same l r then l :: rest.tail else l :: rest
      | [] => [l]) [] else ls
  say (unlines ls)
  return if well then 0 else 2

/-- Lines that are next to each other and the same, each with its number. -/
def runs : List Octets → List (Nat × Octets)
  | [] => []
  | l :: ls =>
    match runs ls with
    | (n, r) :: rest => if l == r then (n + 1, r) :: rest else (1, l) :: (n, r) :: rest
    | [] => [(1, l)]

/-- Write one of lines that are next to each other and the same. -/
def uniq (args : List Octets) : Step Nat := do
  let (options, names) := splitOptions args
  let (well, found) ← contents (plainly "uniq") names
  let rows := runs (found.map fun e => linesOf e.2).flatten
  let rows := if options.contains 'd' then rows.filter (1 < ·.1)
    else if options.contains 'u' then rows.filter (1 == ·.1) else rows
  rows.forM fun (n, l) => say (if options.contains 'c' then padded 7 n ++ ' ' :: l else l).line
  return if well then 0 else 1

/-- The ranges of a list such as `1,3-5`; the second number of an open one is missing. -/
def listRanges (o : Octets) : List (Nat × Option Nat) :=
  (o.splitOnP (· == ',')).map fun r =>
    match r.splitOnP (· == '-') with
    | [n] => ((natOf n).getD 0, natOf n)
    | [a, b] => ((natOf a).getD 1, natOf b)
    | _ => (0, some 0)

/-- Write parts of lines. -/
def cut (args : List Octets) : Step Nat := do
  let (delimiter, args) := optionValue 'd' args
  let (fields, args) := optionValue 'f' args
  let (octets, args) := optionValue 'c' args
  let (others, names) := splitOptions args
  let tab := (delimiter.bind List.head?).getD '\t'
  let ranges := listRanges ((fields.or octets).getD [])
  let wanted := fun (n : Nat) => ranges.any fun r => r.1 ≤ n && r.2.all (n ≤ ·)
  let pick := fun (os : List Octets) => (os.zipIdx.filter fun x => wanted (x.2 + 1)).map (·.1)
  if fields.isNone && octets.isNone then
    remark "cut" "you must specify a list of bytes, characters, or fields".toList
    complain "Try 'cut --help' for more information.".toList
    return 1
  else
    let (well, found) ← contents (plainly "cut") names
    (found.map fun e => linesOf e.2).flatten.forM fun l =>
      if octets.isSome then say (Octets.line (pick (l.map fun c => [c])).flatten)
      else if l.contains tab then
        say (Octets.line ([tab].intercalate (pick (l.splitOnP (· == tab)))))
      else if others.contains 's' then return ()
      else say l.line
    return if well then 0 else 1

/-- Write whole numbers from one to another. -/
def seq (args : List Octets) : Step Nat := do
  match args.mapM Octets.toInt? with
  | some ns =>
    let (first, step, last) := match ns with
      | [last] => (1, 1, last)
      | [first, last] => (first, 1, last)
      | [first, step, last] => (first, step, last)
      | _ => (1, 1, 0)
    let count := if step = 0 then 0 else (Int.fdiv (last - first) step + 1).toNat
    say (unlines ((List.range count).map fun i => (toString (first + step * Int.ofNat i)).toList))
    return if ns.isEmpty || 3 < ns.length || step == 0 then 1 else 0
  | none =>
    let odd := (args.find? fun a => a.toInt?.isNone).getD []
    remark "seq" ("invalid floating point argument: ".toList ++ quoted odd)
    complain "Try 'seq --help' for more information.".toList
    return 1

end Rollout.Shell.Utility
