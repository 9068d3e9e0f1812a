import Surveyor.Fields
import Surveyor.Json.Display
import Surveyor.Number.Rounded
import Surveyor.Template.Place

/-!
Filling the places of a template. Values are taken one after the other and all of them must be taken; a single object
instead lends its fields by name. Where a value does not fit its place the template has no text.
-/
namespace Surveyor.Template

/-- What the places may still take. -/
structure Supply where
  /-- The fields that may be asked for by name. -/
  fields : Option (List (String × Json)) := none
  waiting : List Json

private abbrev Filling := StateT Supply Option

private def next : Filling Json := do
  let supply ← get
  match supply.waiting with
  | value :: rest => set { supply with waiting := rest }; return value
  | [] => failure

/-- Makes the field of the name the only value that waits. -/
private def lookUp (name : String) : Filling Unit := do
  let supply ← get
  match supply.fields.bind (Fields.get? name) with
  | some value => set { supply with waiting := [value] }
  | none => failure

/-- Truth values count as one and zero. -/
private def wholeOf? : Json → Option Int
  | .int value => some value
  | .bool value => some (if value then 1 else 0)
  | _ => none

private def realOf? : Json → Option Binary64
  | .real value => some value
  | value =>
    (wholeOf? value).bind fun whole =>
      let real := Binary64.ofInt whole
      if real.isInfinite then none else some real

/-- A number without what stands behind its point. -/
private def truncated? : Json → Option Int
  | .real (.finite negative magnitude) => some (if negative then -magnitude.floor else magnitude.floor)
  | .real _ => none
  | value => wholeOf? value

/-- A text of one character, or the number of one. -/
private def characterOf? (value : Json) : Option Char :=
  match value with
  | .text text =>
    match text.toList with
    | [c] => some c
    | _ => none
  | value =>
    (wholeOf? value).bind fun number =>
      if 0 ≤ number && number.toNat.isValidChar then some (Char.ofNat number.toNat) else none

private def quotedForm : Json → List Char
  | .text value => Text.quoteChars value.toList
  | value => value.display.toList

private structure Written where
  /-- Zeros may stand between the sign and the digits. -/
  isNumber : Bool := false
  negative : Bool := false
  /-- What names the base of a number. -/
  base : List Char := []
  body : List Char

/-- The largest width of a place, and the largest precision of a number. -/
def sizeLimit : Nat := 10000000

/-- The largest precision of a text. -/
def precisionLimit : Nat := 2147483647

private def digitsIn (base : Nat) (precision : Option Nat) (size : Nat) : List Char :=
  let digits := Nat.toDigits base size
  List.replicate (precision.getD 0 - digits.length) '0' ++ digits

private def capitals (capital : Bool) (text : List Char) : List Char := if capital then text.map Char.toUpper else text

private def realWritten (capital : Bool) (value : Binary64) (text : Rat → List Char) : Written :=
  match value with
  | .nan => ⟨true, false, [], capitals capital "nan".toList⟩
  | .infinite negative => ⟨true, negative, [], capitals capital "inf".toList⟩
  | .finite negative magnitude => ⟨true, negative, [], capitals capital (text magnitude)⟩

private def cut (precision : Option Nat) (text : List Char) : Written :=
  { body := match precision with
      | some count => text.take count
      | none => text }

/-- Writes a value. `alternate` asks for the base of a number, or for a point that always stands. -/
private def written? (conversion : Conversion) (alternate : Bool) (precision : Option Nat) (value : Json) :
    Option Written :=
  match conversion with
  | .shown => some (cut precision value.display.toList)
  | .quoted => some (cut precision (quotedForm value))
  | .escaped => some (cut precision (Text.escapeForeign (quotedForm value)))
  | .character => (characterOf? value).map fun c => { body := [c] }
  | .decimal =>
    (truncated? value).map fun whole => ⟨true, whole < 0, [], digitsIn 10 precision whole.natAbs⟩
  | .octal =>
    (wholeOf? value).map fun whole =>
      ⟨true, whole < 0, if alternate then ['0', 'o'] else [], digitsIn 8 precision whole.natAbs⟩
  | .hexadecimal capital =>
    (wholeOf? value).map fun whole =>
      ⟨true, whole < 0, if alternate then ['0', if capital then 'X' else 'x'] else [],
        capitals capital (digitsIn 16 precision whole.natAbs)⟩
  | .fixed capital =>
    (realOf? value).map fun real => realWritten capital real (Decimal.fixedText alternate (precision.getD 6))
  | .scientific capital =>
    (realOf? value).map fun real => realWritten capital real (Decimal.scientificText alternate (precision.getD 6))
  | .general capital =>
    (realOf? value).map fun real => realWritten capital real (Decimal.generalText alternate (precision.getD 6))

/-- Pads to the width: on the right, with zeros behind the sign of a number, or on the left. -/
private def Written.padded (written : Written) (marks : List Char) (toLeft : Bool) (width : Nat) : List Char :=
  let sign :=
    if !written.isNumber then []
    else if written.negative then ['-']
    else if marks.contains '+' then ['+']
    else if marks.contains ' ' then [' ']
    else []
  let lead := sign ++ written.base
  let room := width - (lead.length + written.body.length)
  if toLeft then lead ++ written.body ++ List.replicate room ' '
  else if written.isNumber && marks.contains '0' then lead ++ List.replicate room '0' ++ written.body
  else List.replicate room ' ' ++ lead ++ written.body

/-- The size of an extent; one that is taken may be negative. -/
private def size? : Extent → Filling (Option Int)
  | .absent => return none
  | .given size => return some size
  | .taken => do
    match wholeOf? (← next) with
    | some size => return some size
    | none => failure

/-- The text for a place. A negative width pads on the right, and a negative precision is none. -/
private def fillPlace (place : Place) : Filling (List Char) := do
  if let some name := place.name then lookUp name
  let width ← size? place.width
  let precision := (← size? place.precision).map Int.toNat
  if sizeLimit < (width.getD 0).natAbs || precisionLimit < precision.getD 0 then failure
  match written? place.conversion (place.marks.contains '#') precision (← next) with
  | some written =>
    if written.isNumber && sizeLimit < precision.getD 0 then failure
    return written.padded place.marks (place.marks.contains '-' || width.getD 0 < 0) (width.getD 0).natAbs
  | none => failure

private def fillPieces (pieces : List Piece) : Filling (List Char) := do
  let parts ← pieces.mapM fun
    | .character c => pure [c]
    | .place place => fillPlace place
  return parts.flatten

/-- Values for places; a single object that is not empty lends its fields. -/
def Supply.ofValues (values : List Json) : Supply :=
  match values with
  | [.object (field :: fields)] => ⟨some (field :: fields), values⟩
  | _ => ⟨none, values⟩

def fill? (template : String) (values : List Json) : Option String := do
  let pieces ← parse? template.toList
  let (text, left) ← (fillPieces pieces).run (.ofValues values)
  if left.fields.isNone && !left.waiting.isEmpty then none else some (String.ofList text)

end Surveyor.Template
