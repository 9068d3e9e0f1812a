/-!
Blank characters, and the ways a text is trimmed and cut at them. The class is that of Unicode white space together
with the four separators U+001C to U+001F.
-/
namespace Surveyor.Text

/-- A character that separates words. -/
def isBlank (c : Char) : Bool :=
  ('\t' ≤ c && c ≤ '\r') || ('\x1c' ≤ c && c ≤ ' ') || c == '\x85' || c == '\xa0' || c == '\u1680' ||
    ('\u2000' ≤ c && c ≤ '\u200a') || c == '\u2028' || c == '\u2029' || c == '\u202f' || c == '\u205f' ||
    c == '\u3000'

/-- The text without its trailing characters of the class. -/
def dropTrailing (p : Char → Bool) (text : List Char) : List Char :=
  (text.reverse.dropWhile p).reverse

def trimChars (text : List Char) : List Char :=
  dropTrailing isBlank (text.dropWhile isBlank)

def trim (text : String) : String := String.ofList (trimChars text.toList)

def trimEnd (text : String) : String := String.ofList (dropTrailing isBlank text.toList)

/-- The words of a text, which are its longest pieces without a blank. -/
def words (text : List Char) : List (List Char) :=
  (text.splitOnP isBlank).filter (· != [])

def isEmptyLine (text : List Char) : Bool := text.all isBlank

end Surveyor.Text
