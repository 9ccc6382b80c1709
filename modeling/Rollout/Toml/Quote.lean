import Rollout.Toml.Reader

/-!
# Quote: texts in quotes

There are four ways to quote a text.  Between double quotes a backslash starts an escape, between
single quotes nothing does; three quotes instead of one allow line ends in the text, and up to two
quotes next to the closing ones.
-/

namespace Rollout.Toml.Quote

/-- The value of a digit in base sixteen. -/
def hexDigit? (c : Char) : Option Nat :=
  if c.isDigit then some (c.toNat - '0'.toNat)
  else if 'a' ≤ c && c ≤ 'f' then some (c.toNat - 'a'.toNat + 10)
  else if 'A' ≤ c && c ≤ 'F' then some (c.toNat - 'A'.toNat + 10)
  else none

/-- The character whose code point is written in base sixteen, unless there is none. -/
def codePoint? (digits : List Char) : Option Char := do
  let n ← digits.foldlM (fun n d => do return 16 * n + (← hexDigit? d)) 0
  if n.isValidChar then some (Char.ofNat n) else none

/-- The character that a letter behind a backslash stands for. -/
def escape? : Char → Option Char
  | 'b' => some '\x08'
  | 't' => some '\t'
  | 'n' => some '\n'
  | 'f' => some '\x0c'
  | 'r' => some '\r'
  | 'e' => some '\x1b'
  | '"' => some '"'
  | '\\' => some '\\'
  | _ => none

/-- Put a character in front of a text that has been split off. -/
def cons (c : Char) (r : Option (List Char × List Char)) : Option (List Char × List Char) :=
  r.map fun (s, rest) => (c :: s, rest)

/-- Split off the rest of a text in double quotes, the closing quote included. -/
def basic : List Char → Option (List Char × List Char)
  | [] => none
  | '"' :: cs => some ([], cs)
  | '\\' :: 'x' :: a :: b :: cs => do cons (← codePoint? [a, b]) (basic cs)
  | '\\' :: 'u' :: a :: b :: c :: d :: cs => do cons (← codePoint? [a, b, c, d]) (basic cs)
  | '\\' :: 'U' :: a :: b :: c :: d :: e :: f :: g :: h :: cs => do
    cons (← codePoint? [a, b, c, d, e, f, g, h]) (basic cs)
  | '\\' :: c :: cs => do cons (← escape? c) (basic cs)
  | c :: cs => if Reader.isPlain c then cons c (basic cs) else none

/-- Split off the rest of a text in single quotes, the closing quote included. -/
def literal : List Char → Option (List Char × List Char)
  | [] => none
  | '\'' :: cs => some ([], cs)
  | c :: cs => if Reader.isPlain c then cons c (literal cs) else none

/-- A text that stands in front of a run of quotes which may close it: three close it, and up to
two more belong to the text. -/
inductive Closing where
  | inside
  | closed (own : Nat)
  | malformed

/-- What a run of `n` quotes means inside a text in three quotes. -/
def closing (n : Nat) : Closing :=
  if n < 3 then .inside else if n ≤ 5 then .closed (n - 3) else .malformed

/-- The length of the run of `q` at the front. -/
def runLength (q : Char) (cs : List Char) : Nat := (cs.takeWhile (· == q)).length

/-- A backslash in front of `cs` hides the line end: only blanks stand before it. -/
def hidesLineEnd (cs : List Char) : Bool :=
  match cs.dropWhile Reader.isGap with
  | '\n' :: _ | '\r' :: '\n' :: _ => true
  | _ => false

/-- Split off the rest of a text in three double quotes.  While `skipping`, blanks and line ends
are passed over: that is what a hidden line end asks for. -/
def basicLines (skipping : Bool) : List Char → Option (List Char × List Char)
  | [] => none
  | '\r' :: '\n' :: cs =>
    if skipping then basicLines true cs else cons '\r' (cons '\n' (basicLines false cs))
  | '\n' :: cs => if skipping then basicLines true cs else cons '\n' (basicLines false cs)
  | '"' :: cs =>
    match closing (runLength '"' cs + 1) with
    | .inside => cons '"' (basicLines false cs)
    | .closed own => some (List.replicate own '"', cs.drop (own + 2))
    | .malformed => none
  | '\\' :: 'x' :: a :: b :: cs => do cons (← codePoint? [a, b]) (basicLines false cs)
  | '\\' :: 'u' :: a :: b :: c :: d :: cs => do
    cons (← codePoint? [a, b, c, d]) (basicLines false cs)
  | '\\' :: 'U' :: a :: b :: c :: d :: e :: f :: g :: h :: cs => do
    cons (← codePoint? [a, b, c, d, e, f, g, h]) (basicLines false cs)
  | '\\' :: c :: cs =>
    if hidesLineEnd (c :: cs) then basicLines true (c :: cs)
    else do cons (← escape? c) (basicLines false cs)
  | c :: cs =>
    if skipping && Reader.isGap c then basicLines true cs
    else if Reader.isPlain c then cons c (basicLines false cs) else none

/-- Split off the rest of a text in three single quotes. -/
def literalLines : List Char → Option (List Char × List Char)
  | [] => none
  | '\r' :: '\n' :: cs => cons '\r' (cons '\n' (literalLines cs))
  | '\n' :: cs => cons '\n' (literalLines cs)
  | '\'' :: cs =>
    match closing (runLength '\'' cs + 1) with
    | .inside => cons '\'' (literalLines cs)
    | .closed own => some (List.replicate own '\'', cs.drop (own + 2))
    | .malformed => none
  | c :: cs => if Reader.isPlain c then cons c (literalLines cs) else none

/-- A line end right behind the opening quotes does not belong to the text. -/
def withoutFirstLineEnd : List Char → List Char
  | '\r' :: '\n' :: cs | '\n' :: cs => cs
  | cs => cs

/-- Take a text in quotes of any kind. -/
def text : Reader String := do
  let s ← Reader.split fun
    | '"' :: '"' :: '"' :: cs => basicLines false (withoutFirstLineEnd cs)
    | '"' :: cs => basic cs
    | '\'' :: '\'' :: '\'' :: cs => literalLines (withoutFirstLineEnd cs)
    | '\'' :: cs => literal cs
    | _ => none
  return String.ofList s

/-- Take a text in quotes that stays within one line. -/
def lineText : Reader String := do
  let s ← Reader.split fun
    | '"' :: '"' :: '"' :: _ | '\'' :: '\'' :: '\'' :: _ => none
    | '"' :: cs => basic cs
    | '\'' :: cs => literal cs
    | _ => none
  return String.ofList s

end Rollout.Toml.Quote
