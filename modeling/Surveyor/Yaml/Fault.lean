import Surveyor.Number.Numeral

/-!
Why a YAML document cannot be read. A document that breaks the grammar is malformed as a whole; a scalar whose explicit
or resolved tag does not fit its text has a fault of its own, and so has one whose text never comes to an end.
-/
namespace Surveyor.Yaml

inductive Fault where
  | malformed
  /-- An escape names a number above the last code point; `large` when it does not fit 31 bits either. -/
  | codePoint (large : Bool)
  | integer (base : Nat) (text : List Char)
  | longInteger (digits : Nat)
  | real (text : List Char)
  /-- A number without a single character. -/
  | emptyNumber
  | truth (text : List Char)
  | notATime
  /-- A mapping is given for a time, even if it has a default value that spells one. -/
  | mappingForTime
  | year (value : Nat)
  | month
  | day
  | hour
  | minute
  | second
  /-- A distance of a day or more from universal time, in minutes. -/
  | zone (minutes : Int)
  /-- The factor of a leading group of sixty is beyond the largest number. -/
  | realOverflow
  /-- A mapping stands for its default value, and that leads back to the mapping. -/
  | endless
  deriving DecidableEq, Repr

namespace Fault

private def daysText (minutes : Int) : String :=
  let days := Int.fdiv minutes 1440
  let seconds := (minutes - days * 1440) * 60
  "datetime.timedelta(days=" ++ toString days ++
    (if seconds = 0 then "" else ", seconds=" ++ toString seconds) ++ ")"

/-- How much of a quoted text a message shows. -/
private def shown (text : List Char) : String := String.ofList ((Text.quoteChars text).take 200)

def message : Fault → String
  | malformed => "malformed document"
  | codePoint large =>
    if large then "Python int too large to convert to C int" else "chr() arg not in range(0x110000)"
  | integer base text =>
    "invalid literal for int() with base " ++ toString base ++ ": " ++ shown text
  | longInteger digits => Numeral.overLimit digits
  | real text => Numeral.refusal text
  | emptyNumber => "string index out of range"
  | truth text => String.ofList (Text.quoteChars text)
  | notATime => "'NoneType' object has no attribute 'groupdict'"
  | mappingForTime => "expected string or bytes-like object, got 'list'"
  | year value => "year " ++ toString value ++ " is out of range"
  | month => "month must be in 1..12"
  | day => "day is out of range for month"
  | hour => "hour must be in 0..23"
  | minute => "minute must be in 0..59"
  | second => "second must be in 0..59"
  | zone minutes =>
    "offset must be a timedelta strictly between -timedelta(hours=24) and timedelta(hours=24), not " ++
      daysText minutes ++ "."
  | realOverflow => "int too large to convert to float"
  | endless => "maximum recursion depth exceeded"

end Fault

end Surveyor.Yaml
