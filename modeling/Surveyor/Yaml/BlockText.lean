import Surveyor.Yaml.Cursor
import Surveyor.Text.Digit

/-!
Literal and folded block scalars. The header may fix the indentation and say what becomes of the breaks at the end;
without a fixed indentation that of the first line with text counts.
-/
namespace Surveyor.Yaml.BlockText

inductive Chomping where
  | clip
  | strip
  | keep
  deriving DecidableEq, Repr

private def chomping? : Char → Option Chomping
  | '+' => some .keep
  | '-' => some .strip
  | _ => none

/-- An indentation indicator of one digit, which is not zero. -/
private def increment? (c : Char) : Except Fault (Option Nat) :=
  if c == '0' then .error .malformed
  else if '1' ≤ c && c ≤ '9' then .ok (some (c.toNat - '0'.toNat))
  else .ok none

/-- The two indicators, in either order. -/
private def header (c : Cursor) : Except Fault (Chomping × Option Nat × Cursor) := do
  let (chomping, increment, place) ←
    match chomping? c.peek with
    | some chomping => do
      let after := c.next
      match ← increment? after.peek with
      | some n => pure (chomping, some n, after.next)
      | none => pure (chomping, none, after)
    | none => do
      match ← increment? c.peek with
      | some n =>
        let after := c.next
        match chomping? after.peek with
        | some chomping => pure (chomping, some n, after.next)
        | none => pure (.clip, some n, after)
      | none => pure (.clip, none, c)
  if isSpaceOrBreak place.peek then return (chomping, increment, place) else throw .malformed

/-- The breaks before the first line with text, and the widest indentation met. -/
private def leadingBreaks : Nat → Cursor → Nat → List Char × Nat × Cursor
  | 0, c, widest => ([], widest, c)
  | steps + 1, c, widest =>
    if c.peek == ' ' then
      let after := c.next
      leadingBreaks steps after (max widest after.column)
    else if isBreak c.peek then
      let (chars, after) := c.lineBreak
      let (more, widest, last) := leadingBreaks steps after widest
      (chars ++ more, widest, last)
    else ([], widest, c)

/-- Spaces up to the indentation. -/
private def indent (c : Cursor) (column : Nat) : Cursor :=
  c.skip ((c.rest.takeWhile (· == ' ')).take (column - c.column)).length

/-- The breaks of empty lines, and the indentation of the line after them. -/
private def emptyLines (column : Nat) : Nat → Cursor → List Char × Cursor
  | 0, c => ([], c)
  | steps + 1, c =>
    let place := indent c column
    if isBreak place.peek then
      let (chars, after) := place.lineBreak
      let (more, last) := emptyLines column steps after
      (chars ++ more, last)
    else ([], place)

private def isGap (c : Char) : Bool := c == ' ' || c == '\t'

/-- The lines with text. `breaks` holds the breaks of the empty lines before this one. What is returned is the text
without its end, the break of its last line and the breaks after it. -/
private def body (folded : Bool) (column : Nat) :
    Nat → List Char → Cursor → List Char × List Char × List Char × Cursor
  | 0, breaks, c => ([], [], breaks, c)
  | steps + 1, breaks, c =>
    if c.column == column && c.peek != '\x00' then
      let flush := !isGap c.peek
      let (run, afterRun) := c.span fun ch => !isBreak ch
      let (lineBreak, afterBreak) := afterRun.lineBreak
      let (empties, after) := emptyLines column (afterBreak.rest.length + 1) afterBreak
      if after.column == column && after.peek != '\x00' then
        let joint :=
          if folded && lineBreak == ['\n'] && flush && !isGap after.peek then
            if empties.isEmpty then [' '] else []
          else lineBreak
        let (more, lastBreak, tail, last) := body folded column steps empties after
        (breaks ++ run ++ joint ++ more, lastBreak, tail, last)
      else (breaks ++ run, lineBreak, empties, after)
    else ([], [], breaks, c)

/-- Reads a block scalar whose indicator was just read, inside a collection of the given indentation. -/
def read (folded : Bool) (outer : Int) (start : Cursor) : Except Fault (List Char × Cursor) := do
  let (chomping, increment, afterHeader) ← header start
  let place ← afterHeader.finishLine
  let least := max (outer + 1) 1 |>.toNat
  let steps := place.rest.length + 1
  let (column, breaks, first) :=
    match increment with
    | some n =>
      let column := least + n - 1
      let (breaks, first) := emptyLines column steps place
      (column, breaks, first)
    | none =>
      let (breaks, widest, first) := leadingBreaks steps place 0
      (max least widest, breaks, first)
  let (text, lastBreak, tail, last) := body folded column (first.rest.length + 1) breaks first
  let kept := if chomping == .strip then [] else lastBreak
  let trailing := if chomping == .keep then tail else []
  return (text ++ kept ++ trailing, last)

end Surveyor.Yaml.BlockText
