/-
# Base sixty-four

Bytes can be written in letters, digits and two signs, four of them for three bytes.  `decode64?`
reads such text.  Characters that have no value are passed over.  A group that is cut short is
filled up with equals signs, and whatever follows a full group of that kind is not read.
-/
namespace GreatCircle.Text

/-- The six bits that a character stands for. -/
def sextet? (c : Char) : Option Nat :=
  if 'A' ≤ c ∧ c ≤ 'Z' then some (c.toNat - 'A'.toNat)
  else if 'a' ≤ c ∧ c ≤ 'z' then some (c.toNat - 'a'.toNat + 26)
  else if '0' ≤ c ∧ c ≤ '9' then some (c.toNat - '0'.toNat + 52)
  else if c = '+' then some 62
  else if c = '/' then some 63
  else none

/-- What has been read of a text. -/
structure Decoding where
  /-- The bytes so far, the last one first. -/
  bytes : List UInt8 := []
  /-- How many characters of the current group have come. -/
  taken : Nat := 0
  /-- The last of them. -/
  last : Nat := 0
  /-- How many equals signs have come after it. -/
  filled : Nat := 0

namespace Decoding

/-- One more character with a value.  Every one but the first of a group completes a byte. -/
def take (d : Decoding) (value : Nat) : Decoding where
  bytes :=
    if d.taken = 0 then d.bytes
    else (d.last * Nat.pow 4 d.taken + value / Nat.pow 4 (3 - d.taken)).toUInt8 :: d.bytes
  taken := (d.taken + 1) % 4
  last := value
  filled := 0

end Decoding

/-- The bytes of the rest of a text; none if its last group is not full. -/
def decode64From (d : Decoding) : List Char → Option (List UInt8)
  | [] => if d.taken = 0 then some d.bytes.reverse else none
  | c :: rest =>
    if c = '=' then
      if d.taken < 2 then decode64From d rest
      else if 4 ≤ d.taken + d.filled + 1 then some d.bytes.reverse
      else decode64From { d with filled := d.filled + 1 } rest
    else match sextet? c with
      | some value => decode64From (d.take value) rest
      | none => decode64From d rest

/-- The bytes that a text stands for. -/
def decode64? (cs : List Char) : Option (List UInt8) := decode64From {} cs

example : decode64? "SGVsbG8=".toList = some [72, 101, 108, 108, 111] := by decide

end GreatCircle.Text
