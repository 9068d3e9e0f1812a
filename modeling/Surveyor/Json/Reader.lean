import Surveyor.Json.Token

/-!
Reading JSON values from tokens. The state is what must come next together with the collections still open, the
innermost first, so that a text is read by one fold of `step` over its tokens. `parse?` takes integers of any size;
`read` refuses a text at the first integer with too many digits, if nothing before it is out of place.
-/
namespace Surveyor.Json

/-- A collection that is still open. Items are held last first; an object also holds the name whose value is read. -/
inductive Frame where
  | array (items : List Json)
  | object (fields : List (String × Json)) (name : String)

inductive Mode where
  | value
  /-- A value, or the end of the array that was just opened. -/
  | item
  /-- A name, or the end of the object that was just opened. -/
  | field
  | name (fields : List (String × Json))
  | colon (fields : List (String × Json)) (name : String)
  /-- What follows a value that was just read. -/
  | closed (value : Json)

def startValue (stack : List Frame) : Token → Option (Mode × List Frame)
  | .scalar value => some (.closed value, stack)
  | .text value => some (.closed (.text value), stack)
  | .beginArray => some (.item, .array [] :: stack)
  | .beginObject => some (.field, stack)
  | _ => none

def step : Mode × List Frame → Token → Option (Mode × List Frame)
  | (.value, stack), token => startValue stack token
  | (.item, .array [] :: stack), .endArray => some (.closed (.array []), stack)
  | (.item, stack), token => startValue stack token
  | (.field, stack), .text name => some (.colon [] name, stack)
  | (.field, stack), .endObject => some (.closed (.object []), stack)
  | (.name fields, stack), .text name => some (.colon fields name, stack)
  | (.colon fields name, stack), .colon => some (.value, .object fields name :: stack)
  | (.closed value, .array items :: stack), .comma => some (.value, .array (value :: items) :: stack)
  | (.closed value, .array items :: stack), .endArray =>
    some (.closed (.array (value :: items).reverse), stack)
  | (.closed value, .object fields name :: stack), .comma =>
    some (.name (Fields.set fields name value), stack)
  | (.closed value, .object fields name :: stack), .endObject =>
    some (.closed (.object (Fields.set fields name value)), stack)
  | _, _ => none

def ofTokens? (tokens : List Token) : Option Json :=
  match tokens.foldlM step (.value, []) with
  | some (.closed value, []) => some value
  | _ => none

def parse? (text : String) : Option Json := (tokens? text.toList).bind ofTokens?

/-- Why a text is not read. -/
inductive Fault where
  | malformed
  | longInteger (digits : Nat)
  deriving DecidableEq, Repr

def Fault.message : Fault → String
  | malformed => "malformed document"
  | longInteger digits => Numeral.overLimit digits

/-- The number of digits of an integer that has too many of them. -/
def Token.overlong? : Token → Option Nat
  | .scalar (.int value) =>
    let digits := (Nat.toDigits 10 value.natAbs).length
    if Numeral.digitLimit < digits then some digits else none
  | _ => none

/-- The digits of the first overlong integer that a reader meets before anything out of place. -/
def overlongFrom? (state : Mode × List Frame) : List Token → Option Nat
  | [] => none
  | token :: rest =>
    match step state token with
    | none => none
    | some next =>
      match token.overlong? with
      | some digits => some digits
      | none => overlongFrom? next rest

def overlong? (text : String) : Option Nat := overlongFrom? (.value, []) (leadingTokens text.toList)

/-- Reads a text from its start on, and stops at the first fault. -/
def read (text : String) : Except Fault Json :=
  match overlong? text with
  | some digits => .error (.longInteger digits)
  | none =>
    match parse? text with
    | some value => .ok value
    | none => .error .malformed

end Surveyor.Json
