import Rollout.Text.Utf8

/-!
# Octets: the texts that commands work on

Commands pass octets around, which need not be the encoding of any text.  An octet is held as the
character with its number, so that commands can be described with character literals.
-/

namespace Rollout.Shell

/-- Octets, each as the character with its number. -/
abbrev Octets := List Char

/-- The encoding of a text. -/
def Octets.ofString (s : String) : Octets := (Text.Utf8.encode s.toList).map Char.ofNat

/-- The text that octets encode, with replacements for what encodes nothing. -/
def Octets.toText (o : Octets) : String := String.ofList (Text.Utf8.decode (o.map Char.toNat))

/-- The octets as bytes. -/
def Octets.toBytes (o : Octets) : ByteArray := ⟨(o.map fun c => c.toNat.toUInt8).toArray⟩

/-- Bytes as octets. -/
def Octets.ofBytes (b : ByteArray) : Octets := b.toList.map fun n => Char.ofNat n.toNat

/-- The number in base ten, if the octets are nothing but digits, with or without a sign. -/
def Octets.toInt? : Octets → Option Int
  | '-' :: ds => if !ds.isEmpty && ds.all Char.isDigit then some (-(value ds : Int)) else none
  | '+' :: ds => if !ds.isEmpty && ds.all Char.isDigit then some (value ds) else none
  | ds => if !ds.isEmpty && ds.all Char.isDigit then some (value ds) else none
where
  /-- The number that digits stand for. -/
  value (ds : List Char) : Nat := ds.foldl (fun n d => 10 * n + (d.toNat - 0x30)) 0

/-- The first octets do not come after the second in the order of dictionaries. -/
def Octets.inOrder : Octets → Octets → Bool
  | [], _ => true
  | _ :: _, [] => false
  | a :: as, b :: bs => a.toNat < b.toNat || (a == b && Octets.inOrder as bs)

/-- Octets with an end of line behind them. -/
def Octets.line (o : Octets) : Octets := o ++ ['\n']

end Rollout.Shell
