import Surveyor.Yaml.Cursor

/-!
Plain scalars. They end before a comment, before a colon that makes a key, and, between brackets, before the marks
that part entries; in block style they end where the indentation does.
-/
namespace Surveyor.Yaml.PlainText

private def isFlowMark (c : Char) : Bool := c == ',' || c == '[' || c == ']' || c == '\x7b' || c == '\x7d'

private def isEnd (inFlow : Bool) (c following : Char) : Bool :=
  isGapOrBreak c || (c == ':' && (isGapOrBreak following || (inFlow && isFlowMark following))) ||
    (inFlow && (isFlowMark c || c == '?'))

/-- The length of the run without blanks at the start of a text. -/
private def runLength (inFlow : Bool) : List Char → Nat
  | [] => 0
  | c :: rest => if isEnd inFlow c (rest.headD '\x00') then 0 else 1 + runLength inFlow rest

/-- The breaks of empty lines, or nothing when a mark that bounds documents follows. -/
private def emptyLines : Nat → Cursor → Option (List Char) × Cursor
  | 0, c => (some [], c)
  | steps + 1, c =>
    if c.peek == ' ' then emptyLines steps c.next
    else if isBreak c.peek then
      let (chars, after) := c.lineBreak
      if after.atBoundary then (none, after)
      else
        let (more, last) := emptyLines steps after
        (more.map (chars ++ ·), last)
    else (some [], c)

/-- What stands between two runs, and whether a line was ended. -/
private def gap (c : Cursor) : List Char × Bool × Cursor :=
  let (blanks, place) := c.span (· == ' ')
  if isBreak place.peek then
    let (chars, after) := place.lineBreak
    if after.atBoundary then ([], true, after)
    else
      match emptyLines (after.rest.length + 1) after with
      | (none, last) => ([], true, last)
      | (some breaks, last) =>
        let joint := if chars != ['\n'] then chars else if breaks.isEmpty then [' '] else []
        (joint ++ breaks, true, last)
  else (blanks, false, place)

/-- `between` is what joins the next run to the text before it. -/
private def body (inFlow : Bool) (column : Int) :
    Nat → List Char → Bool → Cursor → List Char × Bool × Cursor
  | 0, _, ended, c => ([], ended, c)
  | steps + 1, between, ended, c =>
    let length := if c.peek == '#' then 0 else runLength inFlow c.rest
    if length = 0 then ([], ended, c)
    else
      let run := c.rest.take length
      let (joint, ended, after) := gap (c.skip length)
      if joint.isEmpty || after.peek == '#' || (!inFlow && (after.column : Int) < column) then
        (between ++ run, ended, after)
      else
        let (more, ended, last) := body inFlow column steps joint ended after
        (between ++ run ++ more, ended, last)

/-- Reads a plain scalar inside a collection of the given indentation. The flag says whether the scan stopped after the
end of a line, where a key may start. -/
def read (inFlow : Bool) (outer : Int) (start : Cursor) : List Char × Bool × Cursor :=
  body inFlow (outer + 1) (start.rest.length + 1) [] false start

end Surveyor.Yaml.PlainText
