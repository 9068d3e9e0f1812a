/-!
Line ends. Files are read with the three ends of the common systems made one; a text that is cut into lines may also
end them at the other vertical separators of Unicode.
-/
namespace Surveyor.Text

/-- A carriage return ends a line, alone or with the line feed after it: both become one line feed. -/
def unifyLineEnds : List Char → List Char
  | [] => []
  | '\r' :: '\n' :: rest => '\n' :: unifyLineEnds rest
  | '\r' :: rest => '\n' :: unifyLineEnds rest
  | c :: rest => c :: unifyLineEnds rest

def isLineEnd (c : Char) : Bool :=
  ('\n' ≤ c && c ≤ '\r') || ('\x1c' ≤ c && c ≤ '\x1e') || c == '\x85' || c == '\u2028' || c == '\u2029'

/-- `line` holds the characters of the open line, the last one first. -/
private def linesFrom (line : List Char) : List Char → List (List Char)
  | [] => if line.isEmpty then [] else [line.reverse]
  | '\r' :: '\n' :: rest => line.reverse :: linesFrom [] rest
  | c :: rest => if isLineEnd c then line.reverse :: linesFrom [] rest else linesFrom (c :: line) rest

/-- The lines of a text without their ends. A line end at the end of the text opens no further line. -/
def lines (text : List Char) : List (List Char) := linesFrom [] text

end Surveyor.Text
