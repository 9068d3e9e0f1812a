/-!
Tags, and the tag that the text of a plain scalar stands for in YAML 1.1. The forms are tried in a fixed order.
-/
namespace Surveyor.Yaml

inductive Tag where
  | null
  | bool
  | int
  | float
  | binary
  | timestamp
  | omap
  | pairs
  | set
  | str
  | seq
  | map
  | merge
  | value
  | other (name : String)
  deriving DecidableEq, Repr

namespace Tag

def namespaceName : String := "tag:yaml.org,2002:"

private def known : List (String × Tag) :=
  [("null", null), ("bool", bool), ("int", int), ("float", float), ("binary", binary), ("timestamp", timestamp),
   ("omap", omap), ("pairs", pairs), ("set", set), ("str", str), ("seq", seq), ("map", map), ("merge", merge),
   ("value", value)]

def ofName (name : String) : Tag :=
  match known.find? fun (suffix, _) => namespaceName ++ suffix == name with
  | some (_, tag) => tag
  | none => other name

private def isDigit_ (c : Char) : Bool := c.isDigit || c == '_'

private def isSign (c : Char) : Bool := c == '-' || c == '+'

private def unsigned (text : List Char) : List Char :=
  match text with
  | c :: rest => if isSign c then rest else text
  | [] => []

private def truths : List String :=
  ["yes", "Yes", "YES", "no", "No", "NO", "true", "True", "TRUE", "false", "False", "FALSE", "on", "On", "ON", "off",
   "Off", "OFF"]

private def isBool (text : List Char) : Bool := truths.contains (String.ofList text)

/-- Nothing, or the letter of an exponent with a sign and digits. -/
private def isExponent : List Char → Bool
  | [] => true
  | e :: mark :: digits => (e == 'e' || e == 'E') && isSign mark && !digits.isEmpty && digits.all Char.isDigit
  | _ => false

/-- One group of a number in base sixty. -/
private def isSixtieth : List Char → Bool
  | [d] => d.isDigit
  | [t, d] => '0' ≤ t && t ≤ '5' && d.isDigit
  | _ => false

/-- A digit, and then digits and underscores. -/
private def isGrouped (text : List Char) : Bool :=
  match text with
  | c :: rest => c.isDigit && rest.all isDigit_
  | [] => false

/-- Digits, a point, and then digits and an exponent. -/
private def isPointed (text : List Char) : Bool :=
  let whole := text.takeWhile isDigit_
  match text.dropWhile isDigit_ with
  | '.' :: rest => isGrouped whole && isExponent (rest.dropWhile isDigit_)
  | _ => false

/-- A point without digits before it. -/
private def isFraction : List Char → Bool
  | '.' :: c :: rest => c.isDigit && isExponent (rest.dropWhile isDigit_)
  | _ => false

private def isSixtyReal (text : List Char) : Bool :=
  match text.splitOn ':' with
  | first :: second :: more =>
    let groups := second :: more
    let last := groups.getLast?.getD []
    let whole := last.takeWhile (· != '.')
    match last.dropWhile (· != '.') with
    | '.' :: rest =>
      isGrouped first && groups.dropLast.all isSixtieth && isSixtieth whole && rest.all isDigit_
    | _ => false
  | _ => false

private def isFloat (text : List Char) : Bool :=
  let body := unsigned text
  isPointed body || isFraction text || isSixtyReal body ||
    [".inf", ".Inf", ".INF"].contains (String.ofList body) ||
    [".nan", ".NaN", ".NAN"].contains (String.ofList text)

private def isHex (c : Char) : Bool := c.isDigit || ('a' ≤ c && c ≤ 'f') || ('A' ≤ c && c ≤ 'F') || c == '_'

private def startsAboveZero (text : List Char) : Bool :=
  match text with
  | c :: rest => '1' ≤ c && c ≤ '9' && rest.all isDigit_
  | [] => false

private def isInt (text : List Char) : Bool :=
  match unsigned text with
  | ['0'] => true
  | '0' :: 'b' :: c :: rest => (c :: rest).all fun d => d == '0' || d == '1' || d == '_'
  | '0' :: 'x' :: c :: rest => (c :: rest).all isHex
  | '0' :: c :: rest => (c :: rest).all fun d => ('0' ≤ d && d ≤ '7') || d == '_'
  | body =>
    match body.splitOn ':' with
    | [whole] => startsAboveZero whole
    | first :: groups => startsAboveZero first && groups.all isSixtieth
    | [] => false

private def isMerge (text : List Char) : Bool := text == ['<', '<']

private def isNull (text : List Char) : Bool :=
  ["", "~", "null", "Null", "NULL"].contains (String.ofList text)

/-- The digits of a part of a time: at least `least` of them and at most `most`, and what follows. -/
private def part? (least most : Nat) (text : List Char) : Option (List Char × List Char) :=
  let digits := (text.takeWhile Char.isDigit).take most
  if digits.length < least then none else some (digits, text.drop digits.length)

private def after? (c : Char) : List Char → Option (List Char)
  | d :: rest => if d == c then some rest else none
  | [] => none

private def isGap (c : Char) : Bool := c == ' ' || c == '\t'

structure TimeText where
  year : List Char
  month : List Char
  day : List Char
  clock : Option (List Char × List Char × List Char × List Char) := none
  /-- The distance from universal time: its sign, hours and minutes. -/
  zone : Option (Char × List Char × List Char) := none
  /-- Nothing but the date, written in full. -/
  short : Bool := false

private def zoneText? (text : List Char) : Option (Option (Char × List Char × List Char)) :=
  match text.dropWhile isGap with
  | [] => if text.isEmpty then some none else none
  | ['Z'] => some none
  | mark :: rest =>
    if !isSign mark then none
    else do
      let (hours, tail) ← part? 1 2 rest
      match tail with
      | [] => return some (mark, hours, [])
      | ':' :: digits =>
        let (minutes, last) ← part? 2 2 digits
        if last.isEmpty then return some (mark, hours, minutes) else none
      | _ => none

def timeText? (text : List Char) : Option TimeText := do
  let (year, afterYear) ← part? 4 4 text
  let (month, afterMonth) ← part? 1 2 (← after? '-' afterYear)
  let (day, afterDay) ← part? 1 2 (← after? '-' afterMonth)
  match afterDay with
  | [] => return { year, month, day, short := month.length == 2 && day.length == 2 }
  | c :: rest =>
    let clock ←
      if c == 'T' || c == 't' then some rest
      else if isGap c then some (rest.dropWhile isGap)
      else none
    let (hour, afterHour) ← part? 1 2 clock
    let (minute, afterMinute) ← part? 2 2 (← after? ':' afterHour)
    let (second, afterSecond) ← part? 2 2 (← after? ':' afterMinute)
    let (fraction, tail) :=
      match afterSecond with
      | '.' :: digits => (digits.takeWhile Char.isDigit, digits.dropWhile Char.isDigit)
      | _ => ([], afterSecond)
    let zone ← zoneText? tail
    return { year, month, day, clock := some (hour, minute, second, fraction), zone }

/-- A time in full, or a date with two digits each for its month and its day. -/
private def isTimestamp (text : List Char) : Bool :=
  match timeText? text with
  | some time => time.clock.isSome || time.short
  | none => false

/-- The tag of a text without a line break at its end. -/
private def ofLine (text : List Char) : Tag :=
  if isBool text then bool
  else if isFloat text then float
  else if isInt text then int
  else if isMerge text then merge
  else if isNull text then null
  else if isTimestamp text then timestamp
  else if text == ['='] then value
  else str

/-- The text without a single line feed at its end. -/
def dropLineFeed (text : List Char) : List Char :=
  if text.getLast? == some '\n' then text.dropLast else text

/-- The tag that the form of a scalar stands for. A line feed at the end does not count. -/
def implicit (text : List Char) : Tag :=
  if text == ['\n'] then str else ofLine (dropLineFeed text)

end Tag

end Surveyor.Yaml
