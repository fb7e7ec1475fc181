/-
# Text files

A text file holds bytes that encode characters in UTF-8.  A line ends with a line feed, a
carriage return, or the two together; reading makes a line feed of each: `Text.ofBytes?`.
-/
namespace GreatCircle.Text

/-- The characters with every line end written as a line feed. -/
def unifyLineEnds : List Char → List Char
  | '\r' :: '\n' :: rest => '\n' :: unifyLineEnds rest
  | '\r' :: rest => '\n' :: unifyLineEnds rest
  | c :: rest => c :: unifyLineEnds rest
  | [] => []

/-- The characters of a text file, if its bytes are valid. -/
def ofBytes? (bytes : ByteArray) : Option (List Char) :=
  (String.fromUTF8? bytes).map fun s => unifyLineEnds s.toList

end GreatCircle.Text
