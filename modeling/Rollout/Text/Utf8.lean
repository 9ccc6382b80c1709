/-!
# Utf8: octets as text

`decode` reads octets as UTF-8 and never fails: whatever is no character becomes the replacement
character, one for each longest piece that could have been the beginning of a character.  An
octet is a natural number below 256.
-/

namespace Rollout.Text.Utf8

/-- Stands for octets that are no character. -/
def replacement : Char := '\ufffd'

/-- What the first octet of a character says: its own bits, how many octets follow, and the
bounds of the one that follows first. -/
structure Lead where
  bits : Nat
  follow : Nat
  least : Nat
  greatest : Nat
deriving DecidableEq, Repr

/-- What an octet says as the first of a character of several. -/
def lead? (b : Nat) : Option Lead :=
  if b < 0xC2 then none
  else if b < 0xE0 then some ⟨b - 0xC0, 1, 0x80, 0xBF⟩
  else if b = 0xE0 then some ⟨0, 2, 0xA0, 0xBF⟩
  else if b = 0xED then some ⟨0xD, 2, 0x80, 0x9F⟩
  else if b < 0xF0 then some ⟨b - 0xE0, 2, 0x80, 0xBF⟩
  else if b = 0xF0 then some ⟨0, 3, 0x90, 0xBF⟩
  else if b < 0xF4 then some ⟨b - 0xF0, 3, 0x80, 0xBF⟩
  else if b = 0xF4 then some ⟨4, 3, 0x80, 0x8F⟩
  else none

/-- Where the decoder stands: between characters, or inside one with so many octets to come. -/
inductive State where
  | between
  | inside (l : Lead)
deriving DecidableEq, Repr

/-- Take an octet between two characters. -/
def enter (b : Nat) : List Char × State :=
  if b < 0x80 then ([Char.ofNat b], .between)
  else match lead? b with
    | some l => ([], .inside l)
    | none => ([replacement], .between)

/-- Take an octet: the characters that are complete now, and the state after it. -/
def step (b : Nat) : State → List Char × State
  | .between => enter b
  | .inside l =>
    if l.least ≤ b ∧ b ≤ l.greatest then
      let bits := l.bits * 64 + (b - 0x80)
      if l.follow ≤ 1 then ([Char.ofNat bits], .between)
      else ([], .inside ⟨bits, l.follow - 1, 0x80, 0xBF⟩)
    else
      let (cs, s) := enter b
      (replacement :: cs, s)

/-- Decode octets from a state on. -/
def decodeFrom : State → List Nat → List Char
  | .between, [] => []
  | .inside _, [] => [replacement]
  | s, b :: bs =>
    let (cs, s) := step b s
    cs ++ decodeFrom s bs

/-- Decode octets. -/
def decode (bs : List Nat) : List Char := decodeFrom .between bs

/-- The octets of a character. -/
def encodeChar (c : Char) : List Nat :=
  let n := c.toNat
  if n < 0x80 then [n]
  else if n < 0x800 then [0xC0 + n / 64, 0x80 + n % 64]
  else if n < 0x10000 then [0xE0 + n / 4096, 0x80 + n / 64 % 64, 0x80 + n % 64]
  else [0xF0 + n / 262144, 0x80 + n / 4096 % 64, 0x80 + n / 64 % 64, 0x80 + n % 64]

/-- The octets of a text. -/
def encode (cs : List Char) : List Nat := cs.flatMap encodeChar

end Rollout.Text.Utf8
