/-
# Texts stored as bytes

What a process is given from outside is stored as bytes, in UTF-8.  A byte that belongs to no
character is shown as a half: its number is added to that of the first low half.  Such a half can
therefore be stored, as that byte; other halves cannot.

`Text.stored` is a text as it comes back from the bytes: bytes that were named one by one may come
back as a character.
-/
import GreatCircle.Text.Quoted

namespace GreatCircle.Text

/-- The byte that a half shows. -/
def shownByte? (c : CodePoint) : Option UInt8 :=
  if 0xDC80 ≤ c.val ∧ c.val ≤ 0xDCFF then some (c.val - 0xDC00).toUInt8 else none

/-- Halves of a text that cannot be stored. -/
structure StoreFault where
  /-- The place of the first of them. -/
  start : Nat
  /-- How many halves there are from it on. -/
  count : Nat
  /-- The first of them. -/
  first : CodePoint
deriving DecidableEq, Repr

/-- The wording of a fault. -/
def StoreFault.message (fault : StoreFault) : String :=
  let what := if fault.count = 1 then
      "character '" ++ String.ofList (escapeCode fault.first.val) ++ "' in position " ++
        toString fault.start
    else "characters in position " ++ toString fault.start ++ "-" ++
      toString (fault.start + fault.count - 1)
  "'utf-8' codec can't encode " ++ what ++ ": surrogates not allowed"

/-- The bytes of code points, the first of which has a place in a text. -/
def bytesFrom (place : Nat) : List CodePoint → Except StoreFault (List UInt8)
  | [] => .ok []
  | c :: rest =>
    match c.char?, shownByte? c with
    | some ch, _ => return (String.singleton ch).toUTF8.toList ++ (← bytesFrom (place + 1) rest)
    | none, some byte => return byte :: (← bytesFrom (place + 1) rest)
    | none, none => .error ⟨place, ((c :: rest).takeWhile CodePoint.isHalf).length, c⟩

/-- The character that some bytes begin with, and how many of them it takes. -/
def firstChar? (bytes : List UInt8) : Option (Char × Nat) :=
  [1, 2, 3, 4].findSome? fun n =>
    match (String.fromUTF8? ⟨(bytes.take n).toArray⟩).map String.toList with
    | some [c] => some (c, n)
    | _ => none

/-- The code points of some bytes; `bound` is a bound on the number of bytes. -/
def pointsOf : Nat → List UInt8 → List CodePoint
  | 0, _ | _, [] => []
  | bound + 1, byte :: rest =>
    match firstChar? (byte :: rest) with
    | some (c, n) => CodePoint.ofChar c :: pointsOf bound ((byte :: rest).drop n)
    | none => (CodePoint.ofNat? (0xDC00 + byte.toNat)).toList ++ pointsOf bound rest

/-- A text as it comes back after it was stored. -/
def stored (t : Text) : Except StoreFault Text :=
  if t.points.any CodePoint.isHalf then do
    let bytes ← bytesFrom 0 t.points
    return ⟨pointsOf bytes.length bytes⟩
  else .ok t

/-- A text of characters is stored as it is. -/
theorem stored_ofString (s : String) : (ofString s).stored = .ok (ofString s) := by
  simp [stored, ofString, ofChars]

end GreatCircle.Text
