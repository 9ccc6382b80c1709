import Rollout.Pattern.Basic
import Rollout.Text.ClassTable

/-!
# Reading: patterns from their written form

The written form of a pattern is a text with operators: alternatives behind a bar, repetitions
behind `*`, `+`, `?` or a count in braces, groups in parentheses, sets of characters in brackets,
and a backslash in front of whatever is to be taken literally or not at all literally.  Groups may
switch options on and off, and these change what the rest of the group means.

`Pattern.parse` reads a text, and fails on one that is not the written form of a pattern.  What a
repetition prefers, and which group is which, makes no difference to whether a text matches and
is read over.

How much counts as a pattern is a matter of taste: the scripts and properties that `Text` has no
table of are not known here, and where a pattern is too large is an estimate.  So whoever only has
to know whether a text is a pattern asks a `Pattern.Judge`, of which `Pattern.judge` is but one.
-/

namespace Rollout.Pattern

open Text

/-! ## State of the reader -/

/-- Options that groups switch. -/
structure Flags where
  /-- Letters stand for all their variants in case. -/
  anyCase : Bool := false
  /-- `^` and `$` hold at the ends of lines. -/
  lines : Bool := false
  /-- A point stands for line ends as well. -/
  dotAll : Bool := false
  /-- A carriage return ends a line as well. -/
  returns : Bool := false
  /-- Kinds of characters cover all scripts. -/
  unicode : Bool := true
  /-- Blanks and comments between the parts mean nothing. -/
  spaced : Bool := false
deriving DecidableEq, Repr

/-- What is left to read, the options in force, and the names of groups so far. -/
structure Cursor where
  rest : List Char
  flags : Flags := {}
  names : List String := []

/-- Read a part of a pattern, or fail. -/
abbrev Reader := StateT Cursor Option

namespace Reader

/-- The next character, which stays. -/
def peek : Reader (Option Char) := do return (← get).rest.head?

/-- The character behind the next one. -/
def second : Reader (Option Char) := do return (← get).rest.tail.head?

/-- The options in force. -/
def flags : Reader Flags := do return (← get).flags

/-- Set the options. -/
def setFlags (f : Flags) : Reader Unit := modify fun c => { c with flags := f }

/-- Take the next character. -/
def next : Reader Char := do
  let c ← get
  match c.rest with
  | x :: rest =>
    set { c with rest }
    return x
  | [] => failure

/-- Take a given text, if it comes next, and say whether it did. -/
def taken (s : String) : Reader Bool := do
  let c ← get
  let n := s.toList.length
  if c.rest.take n == s.toList then
    set { c with rest := c.rest.drop n }
    return true
  else return false

/-- Take a given character or fail. -/
def char (c : Char) : Reader Unit := do
  if (← next) == c then return () else failure

/-- What is left of a text behind blanks and comments. -/
def withoutSpace (inComment : Bool) : List Char → List Char
  | [] => []
  | c :: cs =>
    if inComment then withoutSpace (c != '\n') cs
    else if isBlank c then withoutSpace false cs
    else if c == '#' then withoutSpace true cs
    else c :: cs

/-- Pass over blanks and comments where they mean nothing. -/
def space : Reader Unit := do
  if (← flags).spaced then modify fun c => { c with rest := withoutSpace false c.rest }

/-- The character behind the next one, blanks and comments passed over. -/
def secondSpaced : Reader (Option Char) := do
  let tail := (← get).rest.tail
  return (if (← flags).spaced then withoutSpace false tail else tail).head?

/-- A bound on the length of any chain of nested steps. -/
def budget : Reader Nat := do return 4 * (← get).rest.length + 8

end Reader

open Reader

/-! ## Numbers and characters by number -/

/-- The value of a digit in base sixteen. -/
def hexValue? (c : Char) : Option Nat :=
  if c.isDigit then some (c.toNat - 0x30)
  else if 'a' ≤ c && c ≤ 'f' then some (c.toNat - 0x57)
  else if 'A' ≤ c && c ≤ 'F' then some (c.toNat - 0x37)
  else none

/-- The character with a code point written in base sixteen. -/
def charOfHex (ds : List Char) : Reader Char := do
  match ds.foldlM (fun n d => (hexValue? d).map (16 * n + ·)) 0 with
  | some n => if n.isValidChar && !ds.isEmpty then return Char.ofNat n else failure
  | none => failure

/-- Take characters of a kind, with space between them, at most so many. -/
def takeSome (p : Char → Bool) : Nat → Reader (List Char)
  | 0 => return []
  | n + 1 => do
    match ← peek with
    | some c =>
      if p c then
        let _ ← next
        space
        return c :: (← takeSome p n)
      else return []
    | none => return []

/-- Take a code point of a fixed number of digits, or of any number in braces. -/
def hexChar (places : Nat) : Reader Char := do
  if (← peek) == some '\x7b' then
    let _ ← next
    space
    let ds ← takeSome (· != '\x7d') (← budget)
    char '\x7d'
    charOfHex ds
  else
    let ds ← takeSome (fun c => (hexValue? c).isSome) places
    if ds.length = places then charOfHex ds else failure

/-- Pass over blanks. -/
def skipBlanks : Reader Unit :=
  modify fun c => { c with rest := c.rest.dropWhile isBlank }

/-- Take a number, if there are digits. -/
def number? : Reader (Option Nat) := do
  skipBlanks
  let ds ← takeSome Char.isDigit (← budget)
  skipBlanks
  if ds.isEmpty then return none
  let n := ds.foldl (fun n d => 10 * n + (d.toNat - 0x30)) 0
  if n < UInt32.size then return some n else failure

/-! ## Escapes -/

/-- A part of a pattern that stands for itself. -/
inductive Atom where
  | char (c : Char)
  | set (s : CharSet)
  | look (l : Look)

/-- Characters that a backslash makes literal. -/
def isEscapable (c : Char) : Bool :=
  c.toNat < 0x80 && !c.isAlphanum && c != '<' && c != '>'

/-- A set with the variants in case that the options ask for. -/
def Flags.fold (f : Flags) (s : CharSet) : CharSet :=
  if f.anyCase then if f.unicode then .anyCase s else .anyAsciiCase s else s

/-- The characters of words under the options. -/
def Flags.word (f : Flags) : CharSet := if f.unicode then .word else .asciiWord

/-- A set of characters and whether its complement is meant; under ASCII a complement would hold
parts of characters, which is refused. -/
def kind (f : Flags) (negated : Bool) (wide ascii : CharSet) : Option CharSet :=
  if f.unicode then some (if negated then .except wide else wide)
  else if negated then none else some ascii

/-- The set that a letter behind a backslash stands for. -/
def kindOf? (f : Flags) : Char → Option CharSet
  | 'd' => kind f false .digits .asciiDigits
  | 'D' => kind f true .digits .asciiDigits
  | 's' => kind f false .blanks .asciiBlanks
  | 'S' => kind f true .blanks .asciiBlanks
  | 'w' => kind f false .word .asciiWord
  | 'W' => kind f true .word .asciiWord
  | _ => none

/-- The name of a property with all that makes no difference taken out. -/
def plainName (cs : List Char) : String :=
  let cs := (cs.filter fun c => c != ' ' && c != '_' && c != '-').map Char.toLower
  String.ofList (match cs with
    | 'i' :: 's' :: rest => if rest.isEmpty || rest == ['c'] then cs else rest
    | _ => cs)

/-- The property with a name. -/
def property? (name : String) : Option CharSet :=
  (CharSet.named? CharSet.categories name).or
    ((CharSet.named? CharSet.properties name).or (CharSet.named? CharSet.scripts name))

/-- The value of a property. -/
def propertyValue? (name value : String) : Option CharSet :=
  if ["gc", "generalcategory"].contains name then CharSet.named? CharSet.categories value
  else if ["sc", "script", "scx", "scriptextensions"].contains name then
    CharSet.named? CharSet.scripts value
  else none

/-- The set that the text between the braces of a property stands for. -/
def propertyOf? (cs : List Char) : Option CharSet :=
  let name := cs.takeWhile fun c => c != '=' && c != ':' && c != '!'
  match cs.drop name.length with
  | [] => property? (plainName name)
  | '!' :: '=' :: value =>
    (propertyValue? (plainName name) (plainName value)).map .except
  | '=' :: value | ':' :: value => propertyValue? (plainName name) (plainName value)
  | _ => none

/-- Take a property: one letter, or a text in braces. -/
def property (negated : Bool) : Reader CharSet := do
  let f ← flags
  unless f.unicode do failure
  let text ← if (← peek) == some '\x7b' then do
      let _ ← next
      space
      let cs ← takeSome (· != '\x7d') (← budget)
      char '\x7d'
      pure cs
    else do
      let c ← next
      if c == '\\' then failure else pure [c]
  let (inner, text) := match text with
    | '^' :: rest => (true, rest)
    | text => (false, text)
  match propertyOf? text with
  | some s => return if negated != inner then .except (f.fold s) else f.fold s
  | none => failure

/-- The question with a name in braces behind `\b`. -/
def edgeNamed? (word : CharSet) : String → Option Look
  | "start" => some (.wordStart word)
  | "end" => some (.wordEnd word)
  | "start-half" => some (.wordStartHalf word)
  | "end-half" => some (.wordEndHalf word)
  | _ => none

/-- Take the rest of the question `\b`, which may have a name in braces; a count in braces is not
its own. -/
def edge : Reader Look := do
  let word := (← flags).word
  let isNameChar := fun (c : Char) => c.isAlpha || c == '-'
  if (← peek) == some '\x7b' then
    let start ← get
    let _ ← next
    space
    match ← peek with
    | none => failure
    | some c =>
      if isNameChar c then
        let name ← takeSome isNameChar (← budget)
        char '\x7d'
        match edgeNamed? word (String.ofList name) with
        | some l => return l
        | none => failure
      else
        set start
        return .wordEdge word
  else return .wordEdge word

/-- Take what stands behind a backslash. -/
def escape : Reader Atom := do
  let f ← flags
  let c ← next
  match c with
  | 'd' | 'D' | 's' | 'S' | 'w' | 'W' =>
    match kindOf? f c with
    | some s => return .set s
    | none => failure
  | 'p' => return .set (← property false)
  | 'P' => return .set (← property true)
  | 'x' => return .char (← hexChar 2)
  | 'u' => return .char (← hexChar 4)
  | 'U' => return .char (← hexChar 8)
  | 'a' => return .char '\x07'
  | 'f' => return .char '\x0c'
  | 't' => return .char '\t'
  | 'n' => return .char '\n'
  | 'r' => return .char '\r'
  | 'v' => return .char '\x0b'
  | 'A' => return .look .textStart
  | 'z' => return .look .textEnd
  | 'b' => return .look (← edge)
  | 'B' => return .look (.noWordEdge f.word)
  | '<' => return .look (.wordStart f.word)
  | '>' => return .look (.wordEnd f.word)
  | c => if isEscapable c then return .char c else failure

/-! ## Sets in brackets -/

/-- Take the name of a kind of ASCII characters in `[:` and `:]`, if it is one. -/
def asciiKind : Reader (Option CharSet) := do
  let start ← get
  if !(← taken "[:") then return none
  let negated ← taken "^"
  let name := String.ofList ((← get).rest.takeWhile Char.isAlpha)
  let _ ← taken name
  if ← taken ":]" then
    match CharSet.asciiKinds.lookup name with
    | some s =>
      if negated && !(← flags).unicode then failure
      return some (if negated then .except s else s)
    | none => set start; return none
  else
    set start
    return none

/-- Take one end of a range, or something that is no range. -/
def setItem : Reader Atom := do
  let c ← next
  let a ← if c == '\\' then escape else pure (.char c)
  match a with
  | .char c =>
    if (← flags).unicode || c.toNat < 0x80 then return .char c else failure
  | a => return a

/-- Take a character, a kind of characters or a range. -/
def setRange : Reader CharSet := do
  let first ← setItem
  space
  let isRange := (← peek) == some '-' && (← secondSpaced) != some ']' &&
    (← secondSpaced) != some '-'
  match first with
  | .look _ => failure
  | .set s => if isRange then failure else return s
  | .char c =>
    if isRange then
      let _ ← next
      space
      match ← setItem with
      | .char d => if c ≤ d then return .range c.toNat d.toNat else failure
      | _ => failure
    else return .single c

/-- An operation on sets that is waiting for its second operand. -/
inductive SetOp where
  | both
  | without
  | onlyOne

/-- Carry out an operation. -/
def SetOp.apply : SetOp → CharSet → CharSet → CharSet
  | both => .both
  | without => .without
  | onlyOne => .onlyOne

/-- Carry out the operation that waits, if there is one. -/
def finishOp (waiting : Option (CharSet × SetOp)) (s : CharSet) : CharSet :=
  match waiting with
  | some (a, op) => op.apply a s
  | none => s

/-- Take an operator between sets, if there is one. -/
def setOp : Reader (Option SetOp) := do
  if ← taken "&&" then return some .both
  else if ← taken "--" then return some .without
  else if ← taken "~~" then return some .onlyOne
  else return none

mutual

/-- Take a set behind its opening bracket. -/
def bracket : Nat → Reader CharSet
  | 0 => failure
  | fuel + 1 => do
    space
    let negated ← taken "^"
    space
    -- What would close the set or make a range stands for itself at the beginning.
    let dashes ← takeSome (· == '-') fuel
    let closers ← if dashes.isEmpty then takeSome (· == ']') 1 else pure []
    let s ← bracketItems fuel none (.ofList (dashes ++ closers))
    if negated then
      if (← flags).unicode then return .except s else failure
    else return s

/-- Take the items of a set up to its closing bracket.  `sofar` is the union of the items since
the last operator, and `waiting` the operation before them. -/
def bracketItems : Nat → Option (CharSet × SetOp) → CharSet → Reader CharSet
  | 0, _, _ => failure
  | fuel + 1, waiting, sofar => do
    space
    let f ← flags
    match ← peek with
    | none => failure
    | some ']' =>
      let _ ← next
      return f.fold (finishOp waiting (f.fold sofar))
    | some '[' =>
      match ← asciiKind with
      | some s => bracketItems fuel waiting (.either sofar s)
      | none =>
        let _ ← next
        let s ← bracket fuel
        bracketItems fuel waiting (.either sofar s)
    | some _ =>
      match ← setOp with
      | some op => bracketItems fuel (some (finishOp waiting (f.fold sofar), op)) .none
      | none =>
        let s ← setRange
        bracketItems fuel waiting (.either sofar s)

end

/-! ## Groups and options -/

/-- Switch the option with a letter. -/
def Flags.switch (f : Flags) (on : Bool) : Char → Option Flags
  | 'i' => some { f with anyCase := on }
  | 'm' => some { f with lines := on }
  | 's' => some { f with dotAll := on }
  | 'R' => some { f with returns := on }
  | 'u' => some { f with unicode := on }
  | 'x' => some { f with spaced := on }
  | 'U' => some f
  | _ => none

/-- Switch options by letters; a dash in between switches off from there on.  No letter comes
twice, there is at most one dash, and something follows it. -/
def switchAll (f : Flags) (on : Bool) (seen : List Char) : List Char → Option Flags
  | [] => if seen.head? == some '-' then none else some f
  | c :: cs =>
    if seen.contains c then none
    else if c == '-' then switchAll f false (c :: seen) cs
    else do switchAll (← f.switch on c) on (c :: seen) cs

/-- What the head of a group says. -/
inductive GroupHead where
  /-- The options change for the rest of the group around it. -/
  | options (f : Flags)
  /-- A group with options of its own. -/
  | group (f : Flags)

/-- A character of the name of a group. -/
def isNameChar (first : Bool) (c : Char) : Bool :=
  c == '_' || (if first then inRuns alphabeticRuns c
    else c == '.' || c == '[' || c == ']' || inRuns alphabeticRuns c || inRuns numberRuns c)

/-- Take the name of a group and the closing bracket. -/
def groupName : Reader Unit := do
  let cs := (← get).rest.takeWhile (· != '>')
  let name := String.ofList cs
  let valid := match cs with
    | [] => false
    | c :: cs => isNameChar true c && cs.all (isNameChar false)
  if !valid || (← get).names.contains name then failure
  modify fun c => { c with rest := c.rest.drop cs.length, names := name :: c.names }
  char '>'

/-- Take the head of a group behind its parenthesis. -/
def groupHead : Reader GroupHead := do
  space
  let f ← flags
  for ahead in ["?=", "?!", "?<=", "?<!"] do
    if ← taken ahead then failure
  if ← taken "?P<" then
    groupName
    return .group f
  else if ← taken "?<" then
    groupName
    return .group f
  else if ← taken "?" then
    let letters := (← get).rest.takeWhile fun c => c != ':' && c != ')'
    modify fun c => { c with rest := c.rest.drop letters.length }
    match switchAll f true [] letters with
    | none => failure
    | some f' =>
      if (← next) == ')' then
        if letters.isEmpty then failure else return .options f'
      else return .group f'
  else return .group f

/-! ## Repetitions -/

/-- Take a count in braces behind the opening one. -/
def count : Reader (Nat × Option Nat) := do
  space
  let least ← number?
  if (← peek) == some ',' then
    let _ ← next
    space
    if (← peek) == some '\x7d' then
      let _ ← next
      match least with
      | some n => return (n, none)
      | none => failure
    else
      match least, ← number? with
      | some n, some m =>
        char '\x7d'
        if n ≤ m then return (n, some m) else failure
      | _, _ => failure
  else
    char '\x7d'
    match least with
    | some n => return (n, some n)
    | none => failure

/-- Take the operators of repetition behind a part of a pattern. -/
def repetitions : Nat → Pattern → Reader Pattern
  | 0, _ => failure
  | fuel + 1, p => do
    space
    match ← peek with
    | some '*' =>
      let _ ← next
      let _ ← taken "?"
      repetitions fuel (.repeated p 0 none)
    | some '+' =>
      let _ ← next
      let _ ← taken "?"
      repetitions fuel (.repeated p 1 none)
    | some '?' =>
      let _ ← next
      let _ ← taken "?"
      repetitions fuel (.repeated p 0 (some 1))
    | some '\x7b' =>
      let _ ← next
      let (least, greatest) ← count
      space
      let _ ← taken "?"
      repetitions fuel (.repeated p least greatest)
    | _ => return p

/-! ## Patterns -/

/-- What a point stands for. -/
def Flags.dot (f : Flags) : CharSet :=
  if f.dotAll then .all
  else if f.returns then .except (.ofList ['\n', '\r'])
  else .except (.single '\n')

/-- What `^` asks. -/
def Flags.startLook (f : Flags) : Look :=
  if f.lines then if f.returns then .anyLineStart else .lineStart else .textStart

/-- What `$` asks. -/
def Flags.endLook (f : Flags) : Look :=
  if f.lines then if f.returns then .anyLineEnd else .lineEnd else .textEnd

/-- The pattern that an atom stands for under the options. -/
def Atom.pattern (f : Flags) : Atom → Pattern
  | .char c => .oneOf (f.fold (.single c))
  | .set s => .oneOf s
  | .look l => .look l

mutual

/-- Take alternatives up to the end of the group. -/
def alternatives : Nat → Reader Pattern
  | 0 => failure
  | fuel + 1 => do
    let p ← sequence fuel .empty
    if (← peek) == some '|' then
      let _ ← next
      return .either p (← alternatives fuel)
    else return p

/-- Take parts one after another, behind the parts `before`. -/
def sequence : Nat → Pattern → Reader Pattern
  | 0, _ => failure
  | fuel + 1, before => do
    space
    match ← peek with
    | none | some '|' | some ')' => return before
    | some '(' =>
      let _ ← next
      let around ← flags
      match ← groupHead with
      | .options f =>
        setFlags f
        space
        match ← peek with
        | some '*' | some '+' | some '?' | some '\x7b' => failure
        | _ => sequence fuel before
      | .group f =>
        setFlags f
        let p ← alternatives fuel
        char ')'
        setFlags around
        let p ← repetitions fuel p
        sequence fuel (.both before p)
    | some _ =>
      let p ← part fuel
      let p ← repetitions fuel p
      sequence fuel (.both before p)

/-- Take a part that is no group. -/
def part : Nat → Reader Pattern
  | 0 => failure
  | fuel + 1 => do
    let f ← flags
    match ← next with
    | '*' | '+' | '?' | '\x7b' => failure
    | '[' => return .oneOf (← bracket fuel)
    | '.' => if f.unicode then return .oneOf f.dot else failure
    | '^' => return .look f.startLook
    | '$' => return .look f.endLook
    | '\\' => return (← escape).pattern f
    | c => return .oneOf (f.fold (.single c))

end

/-- Larger patterns are refused. -/
def maxWeight : Nat := 327680

/-- Read a pattern. -/
def parse (text : String) : Option Pattern := do
  let cs := text.toList
  let fuel := 4 * cs.length + 8
  let (p, c) ← StateT.run (alternatives fuel) { rest := cs }
  if c.rest.isEmpty && p.weight ≤ maxWeight then some p else none

/-! ## Judges -/

/-- What decides which texts are written forms of patterns: it lets a text pass, or says what is
wrong with it. -/
abbrev Judge := String → Except String Unit

/-- A judge that lets pass what can be read here. -/
def judge : Judge := fun text =>
  if (parse text).isSome then .ok () else .error "not a pattern"

end Rollout.Pattern
