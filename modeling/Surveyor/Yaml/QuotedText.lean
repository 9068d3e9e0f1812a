import Surveyor.Yaml.Cursor
import Surveyor.Number.Numeral

/-!
Scalars between quotes. Line breaks inside fold to a space, and a double quoted scalar has escapes.
-/
namespace Surveyor.Yaml.QuotedText

private def simpleEscape? : Char → Option Char
  | '0' => some '\x00'
  | 'a' => some '\x07'
  | 'b' => some '\x08'
  | 't' => some '\t'
  | '\t' => some '\t'
  | 'n' => some '\n'
  | 'v' => some '\x0b'
  | 'f' => some '\x0c'
  | 'r' => some '\r'
  | 'e' => some '\x1b'
  | ' ' => some ' '
  | '"' => some '"'
  | '\\' => some '\\'
  | '/' => some '/'
  | 'N' => some '\x85'
  | '_' => some '\xa0'
  | 'L' => some '\u2028'
  | 'P' => some '\u2029'
  | _ => none

private def escapeWidth? : Char → Option Nat
  | 'x' => some 2
  | 'u' => some 4
  | 'U' => some 8
  | _ => none

/-- The character of a code point; half of a surrogate pair is no character. -/
private def character (code : Nat) : Except Fault Char :=
  if 0x7fffffff < code then .error (.codePoint true)
  else if 0x10ffff < code then .error (.codePoint false)
  else if 0xd800 ≤ code && code < 0xe000 then .ok '\ufffd'
  else .ok (Char.ofNat code)

/-- The breaks of empty lines. A mark that bounds documents ends nothing here and is refused. -/
private def emptyLines : Nat → Cursor → Except Fault (List Char × Cursor)
  | 0, _ => .error .malformed
  | steps + 1, c => do
    if c.atBoundary then throw .malformed
    let place := (c.span fun ch => ch == ' ' || ch == '\t').2
    if isBreak place.peek then
      let (chars, after) := place.lineBreak
      let (more, last) ← emptyLines steps after
      return (chars ++ more, last)
    else return ([], place)

/-- What an escape stands for; the place is right after the backslash. -/
private def escape (c : Cursor) : Except Fault (List Char × Cursor) := do
  match simpleEscape? c.peek, escapeWidth? c.peek with
  | some plain, _ => return ([plain], c.next)
  | none, some width =>
    let digits := c.next.rest.take width
    match digits.mapM (Numeral.digitIn? 16) with
    | some values =>
      if digits.length < width then throw .malformed
      let found ← character (Numeral.ofDigits 16 values)
      return ([found], c.next.skip width)
    | none => throw .malformed
  | none, none =>
    if isBreak c.peek then
      let after := c.lineBreak.2
      emptyLines (after.rest.length + 1) after
    else throw .malformed

private def isPlain (c : Char) : Bool := !(c == '\'' || c == '"' || c == '\\' || isGapOrBreak c)

/-- Blanks between two runs: a single break folds to a space. -/
private def gap (c : Cursor) : Except Fault (List Char × Cursor) := do
  let (blanks, place) := c.span fun ch => ch == ' ' || ch == '\t'
  if place.peek == '\x00' then throw .malformed
  else if isBreak place.peek then
    let (chars, after) := place.lineBreak
    let (breaks, last) ← emptyLines (after.rest.length + 1) after
    let joint := if chars != ['\n'] then chars else if breaks.isEmpty then [' '] else []
    return (joint ++ breaks, last)
  else return (blanks, place)

private def body (double : Bool) : Nat → Cursor → Except Fault (List Char × Cursor)
  | 0, _ => .error .malformed
  | steps + 1, c => do
    let (run, place) := c.span isPlain
    let ch := place.peek
    let (piece, after) ←
      if !double && ch == '\'' && place.peekAt 1 == '\'' then pure (['\''], place.skip 2)
      else if ch == (if double then '"' else '\'') then return (run, place.next)
      else if (double && ch == '\'') || (!double && (ch == '"' || ch == '\\')) then pure ([ch], place.next)
      else if double && ch == '\\' then escape place.next
      else gap place
    let (more, last) ← body double steps after
    return (run ++ piece ++ more, last)

/-- Reads a scalar whose opening quote was just read. -/
def read (double : Bool) (start : Cursor) : Except Fault (List Char × Cursor) :=
  body double (start.rest.length + 1) start

end Surveyor.Yaml.QuotedText
