import Surveyor.Number.Numeral
import Surveyor.Text.Casing
import Surveyor.Yaml.Fault
import Surveyor.Yaml.Tag
import Surveyor.Yaml.Value

/-!
The values that scalars spell under their tags. A tag may be given to any text, so that each form is checked here
again.
-/
namespace Surveyor.Yaml.ScalarValue

private def integerIn (base : Nat) (text : List Char) : Except Fault Int :=
  match Numeral.integer base text with
  | .ok value => .ok value
  | .error .malformed => .error (.integer base text)
  | .error (.tooLong digits) => .error (.longInteger digits)

private def signed (negative : Bool) (value : Int) : Int := if negative then -value else value

/-- Reads an integer: binary, octal, decimal, hexadecimal or in base sixty, with underscores anywhere. -/
def integer (text : List Char) : Except Fault Int := do
  let digits := text.filter (· != '_')
  if digits.isEmpty then throw .emptyNumber
  let (negative, body) := Numeral.sign digits
  match body with
  | [] => throw .emptyNumber
  | ['0'] => return 0
  | '0' :: 'b' :: rest => return signed negative (← integerIn 2 rest)
  | '0' :: 'x' :: rest => return signed negative (← integerIn 16 rest)
  | '0' :: _ => return signed negative (← integerIn 8 body)
  | _ =>
    let groups ← (body.splitOn ':').mapM (integerIn 10)
    return signed negative (groups.foldl (fun value group => value * 60 + group) 0)

private def realPart (text : List Char) : Except Fault Binary64 :=
  match Numeral.real? text with
  | some value => .ok value
  | none => .error (.real text)

private def signedReal (negative : Bool) (value : Binary64) : Binary64 :=
  if negative then value.negate else value

/-- Adds up groups of sixty from the last one on, rounding after each step. -/
private def sumGroups : Nat → Binary64 → List Binary64 → Except Fault Binary64
  | _, sum, [] => .ok sum
  | factor, sum, group :: more =>
    match Binary64.ofInt factor with
    | .infinite _ => .error .realOverflow
    | weight => sumGroups (factor * 60) (sum.add (group.mul weight)) more

/-- Reads a real number, in base ten or sixty. -/
def real (text : List Char) : Except Fault Binary64 := do
  let digits := Text.lowerChars (text.filter (· != '_'))
  if digits.isEmpty then throw .emptyNumber
  let (negative, body) := Numeral.sign digits
  if body == ".inf".toList then return .infinite negative
  else if body == ".nan".toList then return .nan
  else if body.contains ':' then
    let groups ← (body.splitOn ':').mapM realPart
    return signedReal negative (← sumGroups 1 (.finite false 0) groups.reverse)
  else return signedReal negative (← realPart body)

def truth (text : List Char) : Except Fault Bool :=
  let lowered := Text.lowerChars text
  let word := String.ofList lowered
  if ["yes", "true", "on"].contains word then .ok true
  else if ["no", "false", "off"].contains word then .ok false
  else .error (.truth lowered)

private def base64Value? (c : Char) : Option Nat :=
  if 'A' ≤ c && c ≤ 'Z' then some (c.toNat - 'A'.toNat)
  else if 'a' ≤ c && c ≤ 'z' then some (c.toNat - 'a'.toNat + 26)
  else if '0' ≤ c && c ≤ '9' then some (c.toNat - '0'.toNat + 52)
  else if c == '+' then some 62
  else if c == '/' then some 63
  else none

/-- Decodes groups of four letters. `place` says how many letters of a group were read, `left` holds the bits that make
no byte yet, and `pads` counts the padding since the last letter; other characters are skipped. -/
private def base64From (place left pads : Nat) : List Char → Option (List Nat)
  | [] => if place = 0 then some [] else none
  | c :: rest =>
    if c == '=' then
      if 2 ≤ place then
        if 4 ≤ place + pads + 1 then some [] else base64From place left (pads + 1) rest
      else base64From place left pads rest
    else
      match base64Value? c with
      | none => base64From place left pads rest
      | some value =>
        match place with
        | 0 => base64From 1 value 0 rest
        | 1 => (base64From 2 (value % 16) 0 rest).map ((left * 4 + value / 16) :: ·)
        | 2 => (base64From 3 (value % 4) 0 rest).map ((left * 16 + value / 4) :: ·)
        | _ => (base64From 0 0 0 rest).map ((left * 64 + value) :: ·)

def bytes (text : List Char) : Except Fault (List Nat) :=
  if text.all (·.val < 128) then
    match base64From 0 0 0 text with
    | some value => .ok value
    | none => .error .malformed
  else .error .malformed

private def number (digits : List Char) : Nat := Numeral.ofDigits 10 (digits.map fun c => c.toNat - '0'.toNat)

private def isLeap (year : Nat) : Bool := year % 4 == 0 && (year % 100 != 0 || year % 400 == 0)

private def daysIn (year month : Nat) : Nat :=
  if month == 2 then (if isLeap year then 29 else 28)
  else if [4, 6, 9, 11].contains month then 30
  else 31

private def checkDate (year month day : Nat) : Except Fault Unit := do
  if year = 0 then throw (.year year)
  if month = 0 || 12 < month then throw .month
  if day = 0 || daysIn year month < day then throw .day

/-- The time that a text spells must exist. -/
def time (text : List Char) : Except Fault Unit := do
  match Tag.timeText? (Tag.dropLineFeed text) with
  | none => throw .notATime
  | some parts =>
    let date := checkDate (number parts.year) (number parts.month) (number parts.day)
    match parts.clock with
    | none => date
    | some (hour, minute, second, _) =>
      match parts.zone with
      | some (mark, hours, minutes) =>
        let distance : Int := number hours * 60 + number minutes
        let offset := if mark == '-' then -distance else distance
        if 1440 ≤ distance then throw (.zone offset)
      | none => pure ()
      date
      if 24 ≤ number hour then throw .hour
      if 60 ≤ number minute then throw .minute
      if 60 ≤ number second then throw .second

/-- The value of a scalar under its tag; `none` when the tag is that of a collection. -/
def read? (tag : Tag) (text : List Char) : Except Fault (Option Value) := do
  match tag with
  | .null => return some .null
  | .bool => return some (.bool (← truth text))
  | .int => return some (.int (← integer text))
  | .float => return some (.real (← real text))
  | .binary => return some (.bytes (← bytes text))
  | .timestamp => time text; return some .time
  | .str => return some (.text (String.ofList text))
  | .merge | .value | .other _ => throw .malformed
  | .omap | .pairs | .set | .seq | .map => return none

end Surveyor.Yaml.ScalarValue
