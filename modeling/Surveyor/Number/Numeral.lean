import Surveyor.Number.Binary64
import Surveyor.Text.Blank
import Surveyor.Text.Digit
import Surveyor.Text.Quoted

/-!
Numbers written by hand. Blanks around a number are allowed, digits may come from any script, and single underscores
may group digits.
-/
namespace Surveyor.Numeral

/-- Spells digits of every script in ASCII and makes every foreign blank a space; what else lies outside ASCII can
stand in no number. -/
private def spell (c : Char) : Char :=
  if c.val < 127 then c
  else if Text.isBlank c then ' '
  else
    match Text.digitValue? c with
    | some value => Char.ofNat ('0'.toNat + value)
    | none => '?'

private def isAsciiBlank (c : Char) : Bool := c == ' ' || ('\t' ≤ c && c ≤ '\r')

private def spelled (text : List Char) : List Char :=
  let ascii := if text.all (·.val < 128) then text else text.map spell
  Text.dropTrailing isAsciiBlank (ascii.dropWhile isAsciiBlank)

def sign : List Char → Bool × List Char
  | '-' :: rest => (true, rest)
  | '+' :: rest => (false, rest)
  | text => (false, text)

def digitIn? (base : Nat) (c : Char) : Option Nat :=
  let value :=
    if '0' ≤ c && c ≤ '9' then c.toNat - '0'.toNat
    else if 'a' ≤ c && c ≤ 'z' then c.toNat - 'a'.toNat + 10
    else if 'A' ≤ c && c ≤ 'Z' then c.toNat - 'A'.toNat + 10
    else base
  if value < base then some value else none

def ofDigits (base : Nat) (digits : List Nat) : Nat := digits.foldl (fun n d => n * base + d) 0

/-- Why a text is no integer. Well grouped decimal digits beyond a limit are refused whatever follows them. -/
inductive Fault where
  | malformed
  | tooLong (digits : Nat)
  deriving DecidableEq, Repr

/-- The most decimal digits of an integer that is read or written. -/
def digitLimit : Nat := 4300

/-- What is said about an integer with too many digits. -/
def overLimit (digits : Nat) : String :=
  "Exceeds the limit (4300 digits) for integer string conversion: value has " ++ toString digits ++
    " digits; use sys.set_int_max_str_digits() to increase the limit"

/-- The leading digits, with single underscores between them, and the text after them. -/
private def groupedDigits (base : Nat) : List Char → List Nat × List Char
  | [] => ([], [])
  | ['_'] => ([], ['_'])
  | '_' :: c :: rest =>
    match digitIn? base c with
    | some d => let (more, tail) := groupedDigits base rest; (d :: more, tail)
    | none => ([], '_' :: c :: rest)
  | c :: rest =>
    match digitIn? base c with
    | some d => let (more, tail) := groupedDigits base rest; (d :: more, tail)
    | none => ([], c :: rest)

private def announces (base : Nat) (c : Char) : Bool :=
  (base == 2 && c.toLower == 'b') || (base == 8 && c.toLower == 'o') || (base == 16 && c.toLower == 'x')

private def afterBase (base : Nat) : List Char → List Char
  | '0' :: c :: rest =>
    if announces base c then (match rest with | '_' :: tail => tail | _ => rest) else '0' :: c :: rest
  | text => text

/-- Reads an integer in the base. -/
def integer (base : Nat) (text : List Char) : Except Fault Int :=
  let (negative, unsigned) := sign (spelled text)
  let body := afterBase base unsigned
  let (digits, rest) := groupedDigits base body
  if body.head? == some '_' || digits.isEmpty || rest.head? == some '_' then .error .malformed
  else if base == 10 && digitLimit < digits.length then .error (.tooLong digits.length)
  else if !rest.isEmpty then .error .malformed
  else
    let size : Int := ofDigits base digits
    .ok (if negative then -size else size)

/-- The texts without their underscores, each of which must stand between two digits. -/
private def ungroup (before : Char) : List Char → Option (List Char)
  | [] => some []
  | ['_'] => none
  | '_' :: c :: rest =>
    if before.isDigit && c.isDigit then (ungroup c rest).map (c :: ·) else none
  | c :: rest => (ungroup c rest).map (c :: ·)

private def digitsOf (text : List Char) : List Nat := text.map fun c => c.toNat - '0'.toNat

/-- The exponent part, which may be absent, and nothing after it. -/
private def exponentPart : List Char → Option Int
  | [] => some 0
  | 'e' :: rest | 'E' :: rest =>
    let (negative, digits) := sign rest
    if digits.isEmpty || !digits.all Char.isDigit then none
    else
      let size : Int := ofDigits 10 (digitsOf digits)
      some (if negative then -size else size)
  | _ => none

/-- An unsigned decimal number with at least one digit before or after its point. -/
def decimal? (negative : Bool) (text : List Char) : Option Binary64 :=
  let whole := text.takeWhile Char.isDigit
  let afterWhole := text.dropWhile Char.isDigit
  let pointed := afterWhole.head? == some '.'
  let tail := if pointed then afterWhole.drop 1 else afterWhole
  let fraction := if pointed then tail.takeWhile Char.isDigit else []
  let rest := if pointed then tail.dropWhile Char.isDigit else tail
  if whole.isEmpty && fraction.isEmpty then none
  else
    (exponentPart rest).map fun exponent =>
      Binary64.ofDecimal negative (ofDigits 10 (digitsOf (whole ++ fraction))) (exponent - fraction.length)

def real? (text : List Char) : Option Binary64 :=
  (ungroup ' ' (spelled text)).bind fun plain =>
    let (negative, body) := sign plain
    let name := String.ofList (body.map Char.toLower)
    if name == "inf" || name == "infinity" then some (.infinite negative)
    else if name == "nan" then some .nan
    else decimal? negative body

/-- What is said about a text that spells no real number. -/
def refusal (text : List Char) : String :=
  "could not convert string to float: " ++ String.ofList (Text.quoteChars text)

end Surveyor.Numeral
