import Rollout.Shell.Utility.Files

/-!
# Test: questions about texts, numbers and files
-/

namespace Rollout.Shell.Utility

open Step

/-- A question about one text. -/
def asksOne (question : Octets) (m : Machine) (o : Octets) : Option Bool :=
  let p := Path.ofOctets m.here o
  let there := m.directory.has p && !o.isEmpty
  match String.ofList question with
  | "-n" => some !o.isEmpty
  | "-z" => some o.isEmpty
  | "-e" | "-r" | "-w" => some there
  | "-f" => some (m.directory.isFile p && !o.isEmpty)
  | "-d" | "-x" => some (m.directory.isFolder p && !o.isEmpty)
  | "-c" => some (p == Directory.nowhere)
  | "-s" =>
    some (there && match m.directory.read p with
      | .ok content => !content.isEmpty
      | .error e => e == .isFolder)
  | "-h" | "-L" | "-p" | "-b" | "-S" | "-t" => some false
  | _ => none

/-- The number in a text, blanks around it left out. -/
def trimmedInt? (o : Octets) : Option Int :=
  Octets.toInt? ((o.dropWhile Glyph.isBlank).reverse.dropWhile Glyph.isBlank).reverse

/-- What comes of a question about two texts. -/
inductive Comparison where
  | answer (b : Bool)
  /-- A text that is no number where one is needed. -/
  | notNumber (o : Octets)
  /-- There is no such question. -/
  | unknown

/-- A question about two texts. -/
def asksTwo (a question b : Octets) : Comparison :=
  let numbers := fun (f : Int → Int → Bool) =>
    match trimmedInt? a, trimmedInt? b with
    | some m, some n => Comparison.answer (f m n)
    | none, _ => .notNumber a
    | _, none => .notNumber b
  match String.ofList question with
  | "=" => .answer (a == b)
  | "!=" => .answer (a != b)
  | "<" => .answer (a < b)
  | ">" => .answer (b < a)
  | "-eq" => numbers (· == ·)
  | "-ne" => numbers (· != ·)
  | "-lt" => numbers (· < ·)
  | "-le" => numbers (· ≤ ·)
  | "-gt" => numbers (· > ·)
  | "-ge" => numbers (· ≥ ·)
  | _ => .unknown

/-- A remark in place of an answer. -/
abbrev Question := Except Octets

/-- What is said about an argument that makes no sense. -/
def unexpected {α : Type} (o : Octets) : Question α :=
  .error (o ++ ": unexpected operator".toList)

mutual

/-- Answer questions of which one has to be answered with yes. -/
def anyOf (m : Machine) : Nat → List Octets → Question (Bool × List Octets)
  | 0, _ => unexpected []
  | fuel + 1, args => do
    let (a, rest) ← allOf m fuel args
    match rest with
    | ['-', 'o'] :: rest =>
      let (b, rest) ← anyOf m fuel rest
      return (a || b, rest)
    | rest => return (a, rest)

/-- Answer questions that all have to be answered with yes. -/
def allOf (m : Machine) : Nat → List Octets → Question (Bool × List Octets)
  | 0, _ => unexpected []
  | fuel + 1, args => do
    let (a, rest) ← oneOf m fuel args
    match rest with
    | ['-', 'a'] :: rest =>
      let (b, rest) ← allOf m fuel rest
      return (a && b, rest)
    | rest => return (a, rest)

/-- Answer a question. -/
def oneOf (m : Machine) : Nat → List Octets → Question (Bool × List Octets)
  | 0, _ => unexpected []
  | fuel + 1, args =>
    let single := match args with
      | a :: rest => .ok (!a.isEmpty, rest)
      | [] => .ok (false, [])
    let short := match args with
      | ['!'] :: rest =>
        if rest.isEmpty then single
        else do
          let (a, rest) ← oneOf m fuel rest
          return (!a, rest)
      | ['('] :: rest => do
        match ← anyOf m fuel rest with
        | (a, [')'] :: rest) => return (a, rest)
        | _ => .error "closing paren expected".toList
      | q :: o :: rest =>
        match asksOne q m o with
        | some b => .ok (b, rest)
        | none => single
      | _ => single
    match args with
    | a :: q :: b :: rest =>
      match asksTwo a q b with
      | .answer c => .ok (c, rest)
      | .notNumber o => .error ("Illegal number: ".toList ++ o)
      | .unknown => short
    | _ => short

end

/-- Answer a question with the status. -/
def test (args : List Octets) : Step Nat := do
  match anyOf (← get) (8 * args.length + 8) args with
  | .ok (b, []) => return if b then 0 else 1
  | .ok (_, o :: _) =>
    remark "sh: 1: test" (o ++ ": unexpected operator".toList)
    return 2
  | .error remarked =>
    remark "sh: 1: test" remarked
    return 2

/-- The same between brackets. -/
def bracket (args : List Octets) : Step Nat := do
  match args.reverse with
  | [']'] :: rest => test rest.reverse
  | _ =>
    remark "sh: 1: [" "missing ]".toList
    return 2

end Rollout.Shell.Utility
