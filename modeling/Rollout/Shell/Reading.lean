import Rollout.Shell.Script

/-!
# Reading: command lines

Reads the text of a script in the standard command language.  `Command.parse` fails on a text that
is no script.
-/

namespace Rollout.Shell

/-- Read a part of a script, or fail. -/
abbrev Reader := StateT Octets Option

namespace Reader

/-- The next octet, which stays. -/
def peek : Reader (Option Char) := do return (← get).head?

/-- Take a given text, if it comes next, and say whether it did. -/
def taken (s : String) : Reader Bool := do
  let rest ← get
  if s.toList.isPrefixOf rest then
    set (rest.drop s.toList.length)
    return true
  else return false

/-- Take a given text or fail. -/
def expect (s : String) : Reader Unit := do if ← taken s then return () else failure

/-- Take the next octet. -/
def next : Reader Char := do
  match ← get with
  | c :: rest =>
    set rest
    return c
  | [] => failure

/-- Take the longest run of a kind. -/
def run (p : Char → Bool) : Reader Octets :=
  modifyGet fun rest => (rest.takeWhile p, rest.dropWhile p)

/-- What is left behind blanks, hidden line ends and a comment. -/
def withoutBlanks (inComment : Bool) : Octets → Octets
  | '\\' :: '\n' :: rest =>
    if inComment then '\n' :: rest else withoutBlanks false rest
  | c :: rest =>
    if inComment then if c == '\n' then c :: rest else withoutBlanks true rest
    else if c == ' ' || c == '\t' then withoutBlanks false rest
    else if c == '#' then withoutBlanks true rest
    else c :: rest
  | [] => []

/-- Pass over blanks. -/
def blanks : Reader Unit := modify (withoutBlanks false)

/-- Pass over blanks and line ends. -/
def spacing : Nat → Reader Unit
  | 0 => return ()
  | fuel + 1 => do
    blanks
    if ← taken "\n" then spacing fuel

/-- A bound on the length of any chain of nested steps. -/
def budget : Reader Nat := do return 8 * (← get).length + 16

end Reader

open Reader

/-! ## Names -/

/-- The octet ends a word where it is not quoted. -/
def endsWord (c : Char) : Bool := " \t\n;&|()<>".toList.contains c

/-- The octet may stand in a name. -/
def isNameChar (c : Char) : Bool := c.isAlphanum || c == '_'

/-- The octets are a name. -/
def isName (s : Octets) : Bool :=
  match s with
  | [] => false
  | c :: _ => !c.isDigit && s.all isNameChar

/-- A variable whose name is a single sign. -/
def isSpecialName (c : Char) : Bool := "?$#@*!-0123456789".toList.contains c

/-- The words that hold compound commands together. -/
def closers : List Octets :=
  ["then", "else", "elif", "fi", "do", "done", "esac", "\x7d"].map String.toList

/-- The next word, if none of it is quoted; it stays. -/
def upcoming : Reader Octets := do return (← get).takeWhile fun c => !endsWord c

/-- Take a given word, if it comes next, and say whether it did. -/
def keyword (w : String) : Reader Bool := do
  blanks
  if (← upcoming) == w.toList then taken w else return false

/-- Take a given word, behind blanks and line ends, or fail. -/
def expectWord (w : String) : Reader Unit := do
  spacing (← budget)
  if ← keyword w then return () else failure

/-! ## Uses of variables -/

/-- Take the sign that says what to make of a value in braces. -/
def use : Reader Use := do
  if ← taken ":-" then return .orElse true
  else if ← taken "-" then return .orElse false
  else if ← taken ":=" then return .orAssign true
  else if ← taken "=" then return .orAssign false
  else if ← taken ":+" then return .andThen true
  else if ← taken "+" then return .andThen false
  else if ← taken ":?" then return .orFail true
  else if ← taken "?" then return .orFail false
  else if ← taken "##" then return .withoutFront true
  else if ← taken "#" then return .withoutFront false
  else if ← taken "%%" then return .withoutEnd true
  else if ← taken "%" then return .withoutEnd false
  else return .plain

/-- Take the name of a variable. -/
def variableName : Reader Octets := do
  match ← peek with
  | some c =>
    if isSpecialName c then
      let _ ← next
      return [c]
    else
      let name ← run isNameChar
      if name.isEmpty then failure else return name
  | none => failure

/-- Where a word stands, which decides what ends it and what may be quoted in it. -/
inductive Setting where
  /-- On its own. -/
  | bare
  /-- Between double quotes. -/
  | quotes
  /-- In braces behind the name of a variable, inside quotes or not. -/
  | braces (quoted : Bool)
  /-- In an arithmetic expression, so many parentheses deep. -/
  | sum (depth : Nat)
  /-- In lines that a command reads. -/
  | document
deriving DecidableEq, Repr

/-- Everything taken in this setting is quoted. -/
def Setting.isQuoted : Setting → Bool
  | bare => false
  | quotes | sum _ | document => true
  | braces quoted => quoted

/-- The octet ends what stands in the setting. -/
def Setting.endsAt : Setting → Char → Bool
  | bare, c => endsWord c
  | quotes, c => c == '"'
  | braces _, c => c == '\x7d'
  | sum depth, c => depth == 0 && c == ')'
  | document, _ => false

/-- The setting behind an octet that stands for itself. -/
def Setting.after : Setting → Char → Setting
  | sum depth, '(' => sum (depth + 1)
  | sum depth, ')' => sum (depth - 1)
  | s, _ => s

/-- The setting may end where the text ends. -/
def Setting.isOpen (s : Setting) : Bool := s == bare || s == document

/-- The octet loses its meaning behind a backslash in a setting where everything is quoted. -/
def Setting.canQuote : Setting → Char → Bool
  | document, c => "$\x60\\\n".toList.contains c
  | braces true, c => "$\x60\"\\\n\x7d".toList.contains c
  | _, c => "$\x60\"\\\n".toList.contains c

/-- The text of a command in backquotes, and what follows it. -/
def backquoted : Octets → Option (Octets × Octets)
  | [] => none
  | '\x60' :: rest => some ([], rest)
  | '\\' :: c :: rest => do
    let (inner, rest) ← backquoted rest
    return (if c == '\x60' || c == '\\' || c == '$' then c :: inner else '\\' :: c :: inner, rest)
  | c :: rest => do
    let (inner, rest) ← backquoted rest
    return (c :: inner, rest)

/-- The descriptor that a direction changes if none is named. -/
def Direction.descriptor (fromInput : Bool) : Nat := if fromInput then 0 else 1

/-- Take the sign of a redirection: its direction, and whether it points inwards. -/
def direction : Reader (Direction × Bool) := do
  if ← taken "<&" then return (.copy, true)
  else if ← taken ">&" then return (.copy, false)
  else if ← taken ">>" then return (.append, false)
  else if ← taken ">|" then return (.output, false)
  else if ← taken ">" then return (.output, false)
  else if ← taken "<" then return (.input, true)
  else failure

/-- A redirection comes next: digits, if any, and a sign. -/
def redirectionNext : Reader Bool := do
  match (← get).dropWhile Char.isDigit with
  | c :: _ => return c == '<' || c == '>'
  | [] => return false

/-- The name and the beginning of the value of an assignment, if a word is one. -/
def assignmentOf? (w : Word) : Option (Octets × Word) :=
  match w with
  | .text s false :: rest =>
    let name := s.takeWhile (· != '=')
    match s.drop name.length with
    | '=' :: value => if isName name then some (name, .text value false :: rest) else none
    | _ => none
  | _ => none

/-- A word whose neighbouring texts of one kind are one text. -/
def joined : Word → Word
  | .text a q :: rest =>
    match joined rest with
    | .text b q' :: rest' =>
      if q == q' then .text (a ++ b) q :: rest' else .text a q :: .text b q' :: rest'
    | rest' => .text a q :: rest'
  | p :: rest => p :: joined rest
  | [] => []

/-! ## Documents -/

/-- The text of a word without expansions, and whether some of it is quoted. -/
def markOf : Word → Option (Octets × Bool)
  | [] => some ([], false)
  | .text s q :: rest => (markOf rest).map fun m => (s ++ m.1, q || m.2)
  | _ => none

/-- The lines of a document, which begins behind the line at hand, and what is left without it.  It
ends before a line that is nothing but the mark, or else at the end; the tabs that its lines begin
with are dropped if so told. -/
def documentOf (mark : Octets) (indented : Bool) (text : Octets) : Octets × Octets :=
  let here := text.takeWhile (· != '\n')
  let lines := (text.drop (here.length + 1)).splitOnP (· == '\n')
  let lines := if lines.getLast? == some [] then lines.dropLast else lines
  let bare := fun (l : Octets) => if indented then l.dropWhile (· == '\t') else l
  let within := lines.takeWhile fun l => bare l != mark
  let behind := lines.drop (within.length + 1)
  ((within.map fun l => Octets.line (bare l)).flatten, here ++ '\n' :: (behind.map Octets.line).flatten)

mutual

/-- Take the pieces of a word in a setting. -/
def pieces : Nat → Setting → Reader Word
  | 0, _ => failure
  | fuel + 1, s => do
    match ← peek with
    | none => if s.isOpen then return [] else failure
    | some c =>
      if s.endsAt c then return []
      else
        let _ ← next
        let p ← piece fuel s c
        return p ++ (← pieces fuel (s.after c))

/-- Take a piece that begins with an octet. -/
def piece : Nat → Setting → Char → Reader Word
  | 0, _, _ => failure
  | fuel + 1, s, c => do
    match c with
    | '\\' =>
      match ← peek with
      | none => return [.text ['\\'] true]
      | some d =>
        if d == '\n' then
          let _ ← next
          return []
        else if s.isQuoted && !s.canQuote d then
          return [.text ['\\'] true]
        else
          let _ ← next
          return [.text [d] true]
    | '\'' =>
      if s.isQuoted then return [.text ['\''] true]
      else
        let inner ← run (· != '\'')
        expect "'"
        return [.text inner true]
    | '"' =>
      if s = .quotes then failure
      else if s = .document then return [.text ['"'] true]
      else
        let inner ← pieces fuel .quotes
        expect "\""
        return .text [] true :: inner
    | '$' => return [← expansion fuel s.isQuoted]
    | '\x60' =>
      match backquoted (← get) with
      | none => failure
      | some (inner, rest) =>
        set rest
        match StateT.run (list fuel) inner with
        | some (script, []) => return [.output script s.isQuoted]
        | _ => failure
    | c => return [.text [c] s.isQuoted]

/-- Take what stands behind a dollar sign. -/
def expansion : Nat → Bool → Reader Piece
  | 0, _ => failure
  | fuel + 1, quoted => do
    if ← taken "((" then
      let inner ← pieces fuel (.sum 0)
      expect "))"
      return .sum inner quoted
    else if ← taken "(" then
      let script ← list fuel
      spacing fuel
      expect ")"
      return .output script quoted
    else if ← taken "\x7b" then
      if (← peek) == some '#' && (← get).tail.head? != some '\x7d' then
        let _ ← next
        let name ← variableName
        expect "\x7d"
        return .value name .size [] quoted
      else
        let name ← variableName
        let u ← use
        let argument ← if u = .plain then pure [] else pieces fuel (.braces (quoted && !u.isCut))
        expect "\x7d"
        return .value name u argument quoted
    else
      match ← peek with
      | some c =>
        if isSpecialName c then
          let _ ← next
          return .value [c] .plain [] quoted
        else if isNameChar c then
          return .value (← run isNameChar) .plain [] quoted
        else return .text ['$'] quoted
      | none => return .text ['$'] quoted

/-- Take a word. -/
def word : Nat → Reader Word
  | 0 => failure
  | fuel + 1 => do
    blanks
    let w ← pieces fuel .bare
    if w.isEmpty then failure else return w

/-- Take a redirection. -/
def redirection : Nat → Reader Redirection
  | 0 => failure
  | fuel + 1 => do
    let digits ← run Char.isDigit
    let named := (Octets.toInt? digits).map Int.toNat
    if ← taken "<<" then
      let indented ← taken "-"
      let (mark, isLiteral) ← (markOf (← word fuel) : Option _)
      let (body, rest) := documentOf mark indented (← get)
      set rest
      if isLiteral then return .mk (named.getD 0) .document [.text body true]
      match StateT.run (pieces fuel .document) body with
      | some (w, []) => return .mk (named.getD 0) .document (joined w)
      | _ => failure
    else
      let (d, inwards) ← direction
      let target ← word fuel
      return .mk (named.getD (Direction.descriptor inwards)) d target

/-- Take redirections. -/
def redirections : Nat → Reader (List Redirection)
  | 0 => failure
  | fuel + 1 => do
    blanks
    if ← redirectionNext then return (← redirection fuel) :: (← redirections fuel)
    else return []

/-- Take words up to the end of a command. -/
def words : Nat → Reader (List Word)
  | 0 => failure
  | fuel + 1 => do
    blanks
    match ← peek with
    | none => return []
    | some c => if endsWord c then return [] else return (← word fuel) :: (← words fuel)

/-- Take the rest of a simple command. -/
def simple : Nat → List (Octets × Word) → List Word → List Redirection → Reader Command
  | 0, _, _, _ => failure
  | fuel + 1, as, ws, rs => do
    blanks
    if ← redirectionNext then simple fuel as ws (rs ++ [← redirection fuel])
    else
      match ← peek with
      | none => return .simple as ws rs
      | some c =>
        if c == '(' && as.isEmpty && rs.isEmpty && ws.length == 1 then
          match ws with
          | [[.text name false]] => defineNamed fuel name
          | _ => failure
        else if endsWord c then return .simple as ws rs
        else
          let w ← word fuel
          match if ws.isEmpty then assignmentOf? (joined w) else none with
          | some a => simple fuel (as ++ [a]) ws rs
          | none => simple fuel as (ws ++ [joined w]) rs

/-- Take the rest of a definition. -/
def defineNamed : Nat → Octets → Reader Command
  | 0, _ => failure
  | fuel + 1, name => do
    expect "("
    blanks
    expect ")"
    spacing fuel
    if isName name then return .define name (← command fuel) else failure

/-- Take the alternatives of a pattern list up to the closing parenthesis. -/
def patterns : Nat → Reader (List Word)
  | 0 => failure
  | fuel + 1 => do
    let w ← word fuel
    blanks
    if ← taken "|" then return joined w :: (← patterns fuel)
    expect ")"
    return [joined w]

/-- Take the arms of a selection up to its end. -/
def arms : Nat → Reader (List (List Word × Command))
  | 0 => failure
  | fuel + 1 => do
    spacing fuel
    if ← keyword "esac" then return []
    let _ ← taken "("
    let ps ← patterns fuel
    let body ← list fuel
    spacing fuel
    if ← taken ";;" then return (ps, body) :: (← arms fuel)
    expectWord "esac"
    return [(ps, body)]

/-- Take the rest of a choice behind its test. -/
def choices : Nat → Reader (Command × Command)
  | 0 => failure
  | fuel + 1 => do
    expectWord "then"
    let yes ← list fuel
    spacing fuel
    if ← keyword "elif" then
      let test ← list fuel
      let (yes', no') ← choices fuel
      return (yes, .choice test yes' no' [])
    else if ← keyword "else" then
      let no ← list fuel
      expectWord "fi"
      return (yes, no)
    else
      expectWord "fi"
      return (yes, .skip)

/-- Take the body of a loop. -/
def loopBody : Nat → Reader Command
  | 0 => failure
  | fuel + 1 => do
    expectWord "do"
    let body ← list fuel
    expectWord "done"
    return body

/-- Take a command. -/
def command : Nat → Reader Command
  | 0 => failure
  | fuel + 1 => do
    blanks
    if ← taken "(" then
      let c ← list fuel
      spacing fuel
      expect ")"
      return .apart c (← redirections fuel)
    else if ← keyword "\x7b" then
      let c ← list fuel
      expectWord "\x7d"
      return .group c (← redirections fuel)
    else if ← keyword "if" then
      let test ← list fuel
      let (yes, no) ← choices fuel
      return .choice test yes no (← redirections fuel)
    else if ← keyword "while" then
      let test ← list fuel
      let body ← loopBody fuel
      return .loop true test body (← redirections fuel)
    else if ← keyword "until" then
      let test ← list fuel
      let body ← loopBody fuel
      return .loop false test body (← redirections fuel)
    else if ← keyword "for" then
      blanks
      let name ← run isNameChar
      if !isName name then failure
      spacing fuel
      let ws ← if ← keyword "in" then some <$> words fuel else pure none
      blanks
      let _ ← taken ";"
      let body ← loopBody fuel
      return .each name (ws.map (·.map joined)) body (← redirections fuel)
    else if ← keyword "case" then
      let w ← word fuel
      expectWord "in"
      let as ← arms fuel
      return .select (joined w) as (← redirections fuel)
    else if closers.contains (← upcoming) then failure
    else
      match ← simple fuel [] [] [] with
      | .simple [] [] [] => failure
      | c => return c

/-- Take commands with bars between them. -/
def pipeline : Nat → Reader Command
  | 0 => failure
  | fuel + 1 => do
    if ← keyword "!" then return .negated (← pipeline fuel)
    let first ← command fuel
    blanks
    match ← get with
    | '|' :: '|' :: _ => return first
    | '|' :: rest =>
      set rest
      spacing fuel
      return .pipe first (← pipeline fuel)
    | _ => return first

/-- Take the rest of commands with `&&` and `||` between them. -/
def andOr : Nat → Command → Reader Command
  | 0, _ => failure
  | fuel + 1, first => do
    blanks
    if ← taken "&&" then
      spacing fuel
      andOr fuel (.both first (← pipeline fuel))
    else if ← taken "||" then
      spacing fuel
      andOr fuel (.either first (← pipeline fuel))
    else return first

/-- Take a list of commands, up to the end or a word or sign that closes it. -/
def list : Nat → Reader Command
  | 0 => failure
  | fuel + 1 => do
    spacing fuel
    match ← peek with
    | none => return .skip
    | some c =>
      if c == ')' || (← get).take 2 == [';', ';'] || closers.contains (← upcoming) then
        return .skip
      else
        let first ← andOr fuel (← pipeline fuel)
        blanks
        match ← get with
        | ';' :: ';' :: _ => return first
        | ';' :: rest | '\n' :: rest =>
          set rest
          return .sequence first (← list fuel)
        | '&' :: rest =>
          set rest
          return .background first (← list fuel)
        | _ => return first

end

/-- Read a script. -/
def Command.parse (s : Octets) : Option Command := do
  match ← StateT.run (list (8 * s.length + 16)) s with
  | (c, []) => some c
  | _ => none

end Rollout.Shell
