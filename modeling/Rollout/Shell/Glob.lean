import Rollout.Shell.Glyph

/-!
# Glob: patterns for names

In a pattern a star stands for any octets, a question mark for one, and brackets for one out of a
set.  Quoted signs stand for themselves.
-/

namespace Rollout.Shell

/-- A part of a pattern. -/
inductive Wild where
  | one (c : Char)
  | anyOne
  | anyMany
  /-- One octet inside some ranges, or outside all of them. -/
  | oneOf (inside : Bool) (ranges : List (Char × Char))
deriving DecidableEq, Repr, Inhabited

namespace Wild

/-- The ranges of a named class. -/
def classRanges : String → List (Char × Char)
  | "digit" => [('0', '9')]
  | "lower" => [('a', 'z')]
  | "upper" => [('A', 'Z')]
  | "alpha" => [('a', 'z'), ('A', 'Z')]
  | "alnum" => [('0', '9'), ('a', 'z'), ('A', 'Z')]
  | "xdigit" => [('0', '9'), ('a', 'f'), ('A', 'F')]
  | "blank" => [(' ', ' '), ('\t', '\t')]
  | "space" => [(' ', ' '), ('\t', '\r')]
  | "punct" => [('!', '/'), (':', '@'), ('[', '\x60'), ('\x7b', '~')]
  | _ => []

/-- The rest of a set behind an opening bracket: its ranges, and what follows it.  The first
argument bounds its length; a closing bracket that comes first stands for itself. -/
def setRest : Nat → (first : Bool) → List Glyph → Option (List (Char × Char) × List Glyph)
  | 0, _, _ => none
  | fuel + 1, first, gs => do
    let more := fun (rs : List (Char × Char)) (rest : List Glyph) => do
      let (others, rest) ← setRest fuel false rest
      return (rs ++ others, rest)
    match gs with
    | [] => none
    | .mark :: gs => setRest fuel first gs
    | g :: gs =>
      let c ← g.octet?
      if !first && c == ']' && g != .fixed ']' then return ([], gs)
      else
        match gs with
        | .bare '-' :: g' :: gs' =>
          if g' == .bare ']' then more [(c, c)] gs
          else more [(c, ← g'.octet?)] gs'
        | .bare ':' :: gs' =>
          let name := gs'.takeWhile (· != .bare ':')
          match c == '[', gs'.drop name.length with
          | true, _ :: .bare ']' :: rest =>
            more (classRanges (String.ofList (Glyph.octets name))) rest
          | _, _ => more [(c, c)] gs
        | _ => more [(c, c)] gs

/-- Read a pattern.  The first argument bounds its length. -/
def readFrom : Nat → List Glyph → List Wild
  | 0, _ => []
  | _, [] => []
  | fuel + 1, g :: gs =>
    let single := match g.octet? with
      | some c => one c :: readFrom fuel gs
      | none => readFrom fuel gs
    match g with
    | .bare c | .loose c =>
      if c == '*' then anyMany :: readFrom fuel gs
      else if c == '?' then anyOne :: readFrom fuel gs
      else if c == '[' then
        let inside := !(gs.head? == some (.bare '!') || gs.head? == some (.bare '^'))
        match setRest (fuel + 1) true (if inside then gs else gs.tail) with
        | some (ranges, rest) => oneOf inside ranges :: readFrom fuel rest
        | none => single
      else single
    | _ => single

/-- Read a pattern. -/
def ofGlyphs (gs : List Glyph) : List Wild := readFrom gs.length gs

/-- The pattern stands for more than one text. -/
def isLoose (ws : List Wild) : Bool :=
  ws.any fun w => match w with
    | one _ => false
    | _ => true

/-- The pattern stands for the octets. -/
def covers : List Wild → Octets → Bool
  | [], s => s.isEmpty
  | anyMany :: ws, s => (List.range (s.length + 1)).any fun n => covers ws (s.drop n)
  | one c :: ws, s =>
    match s with
    | d :: s => c == d && covers ws s
    | [] => false
  | anyOne :: ws, s =>
    match s with
    | _ :: s => covers ws s
    | [] => false
  | oneOf inside ranges :: ws, s =>
    match s with
    | d :: s => (ranges.any fun r => r.1 ≤ d && d ≤ r.2) == inside && covers ws s
    | [] => false

/-- The octets without what a pattern matches at the front: the shortest or the longest match. -/
def withoutFront (longest : Bool) (ws : List Wild) (s : Octets) : Octets :=
  let cuts := (List.range (s.length + 1)).filter fun n => covers ws (s.take n)
  match if longest then cuts.getLast? else cuts.head? with
  | some n => s.drop n
  | none => s

/-- The octets without what a pattern matches at the end: the shortest or the longest match. -/
def withoutEnd (longest : Bool) (ws : List Wild) (s : Octets) : Octets :=
  let cuts := (List.range (s.length + 1)).filter fun n => covers ws (s.drop n)
  match if longest then cuts.head? else cuts.getLast? with
  | some n => s.take n
  | none => s

end Wild

end Rollout.Shell
