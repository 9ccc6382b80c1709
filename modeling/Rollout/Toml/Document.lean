import Rollout.Toml.Scalar
import Rollout.Toml.Tree

/-!
# Document: from text to tables

A document is a list of statements, one a line: headers, which say which table the next entries
belong to, and entries, which give a value to a key.  `Toml.parse` reads the statements and puts
their values together; a text with any fault in it is no document.
-/

namespace Rollout.Toml

/-! ## Keys -/

/-- A character of a key without quotes. -/
def isBareKeyChar (c : Char) : Bool := c.isAlphanum || c == '_' || c == '-'

/-- Take one part of a key. -/
def keyPart : Reader String := do
  match ← Reader.peek with
  | some '"' | some '\'' => Quote.lineText
  | _ =>
    let cs ← Reader.run isBareKeyChar
    if cs.isEmpty then failure else return String.ofList cs

/-- Take a key of several parts with points between them, and the blanks around each. -/
def keyParts : Nat → Reader (List String)
  | 0 => failure
  | fuel + 1 => do
    Reader.gap
    let part ← keyPart
    Reader.gap
    if ← Reader.taken '.' then return part :: (← keyParts fuel)
    else return [part]

/-- A key: where it leads, and its last part. -/
structure Key where
  path : List String
  last : String
deriving DecidableEq, Repr

/-- Take a key. -/
def key : Reader Key := do
  match (← keyParts (← Reader.budget)).reverse with
  | last :: path => return ⟨path.reverse, last⟩
  | [] => failure

/-! ## Values -/

/-- Take the members of an array and the closing bracket. -/
def members (item : Reader Value) : Nat → Reader (List Value)
  | 0 => failure
  | fuel + 1 => do
    Reader.anySpacing
    if ← Reader.taken ']' then return []
    let v ← item
    Reader.anySpacing
    if ← Reader.taken ',' then return v :: (← members item fuel)
    Reader.char ']'
    return [v]

/-- Take an entry: a key, the sign for equality, and a value. -/
def entry (item : Reader Value) : Reader (Key × Value) := do
  let k ← key
  Reader.char '='
  Reader.gap
  return (k, ← item)

/-- Take the entries of an inline table and the closing brace. -/
def inlineEntries (item : Reader Value) : Nat → Reader (List (Key × Value))
  | 0 => failure
  | fuel + 1 => do
    Reader.anySpacing
    if ← Reader.taken '\x7d' then return []
    let e ← entry item
    Reader.anySpacing
    if ← Reader.taken ',' then return e :: (← inlineEntries item fuel)
    Reader.char '\x7d'
    return [e]

/-- The table that entries make up. -/
def tableOf (es : List (Key × Value)) : Option Value := do
  let entries ← es.foldlM (fun acc e => Tree.assign e.1.last e.2 e.1.path acc) []
  return .table (Tree.toTable entries)

/-- Take a value, where `item` takes the values inside it; there may be none if `item` is
absent. -/
def valueOf (item : Option (Reader Value)) : Reader Value := do
  match ← Reader.peek, item with
  | some '"', _ | some '\'', _ => return .text (← Quote.text)
  | some '[', some item =>
    Reader.char '['
    return .array (← members item (← Reader.budget))
  | some '\x7b', some item =>
    Reader.char '\x7b'
    match tableOf (← inlineEntries item (← Reader.budget)) with
    | some v => return v
    | none => failure
  | _, _ => Scalar.value

/-- Take a value.  The argument says how many levels of arrays and inline tables there may be. -/
def value : Nat → Reader Value
  | 0 => valueOf none
  | depth + 1 => valueOf (some (value depth))

/-- Values nest at most so deep. -/
def maxDepth : Nat := 80

/-! ## Statements -/

/-- One statement of a document. -/
inductive Statement where
  /-- The next entries belong to this table. -/
  | table (k : Key)
  /-- The next entries belong to a new member of this array of tables. -/
  | next (k : Key)
  | entry (k : Key) (v : Value)
deriving Repr

/-- Take a header. -/
def header : Reader Statement := do
  Reader.char '['
  if ← Reader.taken '[' then
    let k ← key
    Reader.char ']'
    Reader.char ']'
    return .next k
  else
    let k ← key
    Reader.char ']'
    return .table k

/-- Take a statement. -/
def statement : Reader Statement := do
  if (← Reader.peek) == some '[' then header
  else
    let (k, v) ← entry (value maxDepth)
    return .entry k v

/-- Take all statements up to the end of the text. -/
def statements : Nat → Reader (List Statement)
  | 0 => failure
  | fuel + 1 => do
    Reader.anySpacing
    if ← Reader.atEnd then return []
    let s ← statement
    Reader.statementEnd
    return s :: (← statements fuel)

/-! ## Documents -/

/-- A document under construction: the tree, and where the next entries belong. -/
structure Draft where
  entries : Tree.Entries := []
  current : List String := []

/-- Carry out a statement. -/
def Draft.add (d : Draft) : Statement → Option Draft
  | .table k => do
    return ⟨← Tree.within (Tree.openTable k.last) k.path d.entries, k.path ++ [k.last]⟩
  | .next k => do
    return ⟨← Tree.within (Tree.openNext k.last) k.path d.entries, k.path ++ [k.last]⟩
  | .entry k v => do
    return { d with entries := ← Tree.within (Tree.assign k.last v k.path) d.current d.entries }

/-- A mark at the front that says how the text is encoded is skipped. -/
def withoutMark : List Char → List Char
  | '\ufeff' :: cs => cs
  | cs => cs

/-- Read a document. -/
def parse (text : String) : Option Table := do
  let cs := withoutMark text.toList
  let (ss, _) ← StateT.run (statements (cs.length + 1)) cs
  let d ← ss.foldlM Draft.add {}
  return Tree.toTable d.entries

end Rollout.Toml
