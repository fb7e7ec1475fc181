/-
# Upper and lower case

`lower` and `upper` map whole texts, by the full mappings of Unicode: a character may become
several.  Only the capital sigma looks at its neighbours: at the end of a word it becomes a
final sigma.
-/
import GreatCircle.Text.Basic
import GreatCircle.Text.CaseTable

namespace GreatCircle.Text

/-- The code point that a list of runs maps a code point to. -/
def mapByRuns (runs : Array CaseRun) (code : Nat) : Nat :=
  match runs.find? fun r =>
    decide (r.first ≤ code ∧ code ≤ r.last ∧ (code - r.first) % r.step = 0) with
  | some r => (Int.ofNat code + r.offset).toNat
  | none => code

/-- The code points that one code point becomes, by a list of runs and a list of exceptions. -/
def mapPoint (runs : Array CaseRun) (special : Array (Nat × List Nat)) (c : CodePoint) :
    List CodePoint :=
  match special.find? fun e => e.1 == c.val with
  | some e => e.2.filterMap CodePoint.ofNat?
  | none => (CodePoint.ofNat? (mapByRuns runs c.val)).toList

/-- The character belongs to a word with upper and lower case letters. -/
def isCased (c : CodePoint) : Bool := inRanges casedRanges c.val

/-- The character is passed over when the end of a word is looked for. -/
def isCaseIgnorable (c : CodePoint) : Bool := inRanges caseIgnorableRanges c.val

/-- Nearest first, the characters on one side of a place: the first that is not passed over
belongs to a word. -/
def touchesWord (side : List CodePoint) : Bool :=
  match side.dropWhile isCaseIgnorable with
  | [] => false
  | c :: _ => isCased c

/-- A code point of the common script under a map of its characters; others as they are told. -/
def mapCommon (common : Char → Char) (others : CodePoint → List CodePoint) (c : CodePoint) :
    List CodePoint :=
  if c.val < 0x80 then [common (Char.ofNat c.val)] else others c

/-- The lower case of code points that follow those of `before`, the last of which comes first. -/
def lowerFrom (before : List CodePoint) : List CodePoint → List CodePoint
  | [] => []
  | c :: rest =>
    let image : List CodePoint :=
      if c = 'Σ' then [if touchesWord before && !touchesWord rest then 'ς' else 'σ']
      else mapCommon Char.toLower (mapPoint lowerRuns lowerSpecial) c
    image ++ lowerFrom (c :: before) rest

/-- The text in lower case. -/
def lower (t : Text) : Text := ⟨lowerFrom [] t.points⟩

/-- The text in upper case. -/
def upper (t : Text) : Text :=
  ⟨t.points.flatMap (mapCommon Char.toUpper (mapPoint upperRuns upperSpecial))⟩

end GreatCircle.Text
