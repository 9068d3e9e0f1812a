import Surveyor.Yaml.Fault

/-!
A place in a YAML text: what is left of it, and the line, the column and the number of characters before it. At the
end of the text stands NUL, which no text holds.
-/
namespace Surveyor.Yaml

/-- A character that a document may hold. -/
def isAllowed (c : Char) : Bool :=
  c == '\t' || c == '\n' || c == '\r' || (' ' ≤ c && c ≤ '~') || c == '\x85' ||
    ('\xa0' ≤ c && c ≤ '\ufffd') || 0x10000 ≤ c.toNat

def byteOrderMark : Char := '\ufeff'

def isBreak (c : Char) : Bool :=
  c == '\r' || c == '\n' || c == '\x85' || c == '\u2028' || c == '\u2029'

def isBreakOrEnd (c : Char) : Bool := c == '\x00' || isBreak c

def isSpaceOrBreak (c : Char) : Bool := c == ' ' || isBreakOrEnd c

def isGapOrBreak (c : Char) : Bool := c == '\t' || isSpaceOrBreak c

def isNameCharacter (c : Char) : Bool := (c.val < 128 && c.isAlphanum) || c == '-' || c == '_'

structure Cursor where
  rest : List Char
  index : Nat := 0
  line : Nat := 0
  column : Nat := 0

namespace Cursor

/-- The character `n` places on. -/
def peekAt (c : Cursor) (n : Nat) : Char := (c.rest.drop n).headD '\x00'

def peek (c : Cursor) : Char := c.peekAt 0

def next (c : Cursor) : Cursor :=
  match c.rest with
  | [] => c
  | ch :: rest =>
    if ch == '\n' || ch == '\x85' || ch == '\u2028' || ch == '\u2029' || (ch == '\r' && rest.head? != some '\n') then
      ⟨rest, c.index + 1, c.line + 1, 0⟩
    else if ch == byteOrderMark then ⟨rest, c.index + 1, c.line, c.column⟩
    else ⟨rest, c.index + 1, c.line, c.column + 1⟩

def skip (c : Cursor) : Nat → Cursor
  | 0 => c
  | n + 1 => c.next.skip n

def span (c : Cursor) (p : Char → Bool) : List Char × Cursor :=
  let run := c.rest.takeWhile p
  (run, c.skip run.length)

def skipSpaces (c : Cursor) : Cursor := (c.span (· == ' ')).2

def skipLine (c : Cursor) : Cursor := (c.span fun ch => !isBreak ch).2

/-- A comment may stand before the end of a line. -/
def skipComment (c : Cursor) : Cursor := if c.peek == '#' then c.skipLine else c

/-- The break at this place as it counts in a text: the breaks of the common systems are one. -/
def lineBreak (c : Cursor) : List Char × Cursor :=
  let ch := c.peek
  if ch == '\r' || ch == '\n' || ch == '\x85' then
    (['\n'], if ch == '\r' && c.peekAt 1 == '\n' then c.skip 2 else c.next)
  else if ch == '\u2028' || ch == '\u2029' then ([ch], c.next)
  else ([], c)

/-- Spaces and a comment, and then the end of the line. -/
def finishLine (c : Cursor) : Except Fault Cursor :=
  let place := c.skipSpaces.skipComment
  if isBreakOrEnd place.peek then .ok place.lineBreak.2 else .error .malformed

/-- Whether three marks that bound documents stand here. -/
def atBoundary (c : Cursor) : Bool :=
  let lead := c.rest.take 3
  (lead == ['-', '-', '-'] || lead == ['.', '.', '.']) && isGapOrBreak (c.peekAt 3)

end Cursor

end Surveyor.Yaml
