import Surveyor.Json.Value
import Surveyor.Number.Shortest

/-!
The compact text of a JSON value, which reads back as the same value.
-/
namespace Surveyor.Json

def hexDigit (n : Nat) : Char := Nat.digitChar (n % 16)

def escape (c : Char) : List Char :=
  match c with
  | '"' => ['\\', '"']
  | '\\' => ['\\', '\\']
  | '\n' => ['\\', 'n']
  | '\r' => ['\\', 'r']
  | '\t' => ['\\', 't']
  | _ => if c < ' ' then ['\\', 'u', '0', '0', hexDigit (c.toNat / 16), hexDigit c.toNat] else [c]

/-- A text between double quotes. -/
def renderText (text : List Char) : List Char := '"' :: text.flatMap escape ++ ['"']

private def renderReal : Binary64 → List Char
  | .nan => "NaN".toList
  | .infinite negative => if negative then "-Infinity".toList else "Infinity".toList
  | value => value.text.toList

mutual

def renderChars : Json → List Char
  | .null => "null".toList
  | .bool value => if value then "true".toList else "false".toList
  | .int value => (toString value).toList
  | .real value => renderReal value
  | .text value => renderText value.toList
  | .array [] => ['[', ']']
  | .array (item :: items) => '[' :: renderChars item ++ renderItems items
  | .object [] => ['\x7b', '\x7d']
  | .object ((name, value) :: fields) =>
    '\x7b' :: renderText name.toList ++ ':' :: renderChars value ++ renderFields fields

/-- The items after the first one, each with the comma before it, and the end of the array. -/
def renderItems : List Json → List Char
  | [] => [']']
  | item :: items => ',' :: renderChars item ++ renderItems items

def renderFields : List (String × Json) → List Char
  | [] => ['\x7d']
  | (name, value) :: fields =>
    ',' :: renderText name.toList ++ ':' :: renderChars value ++ renderFields fields

end

def render (value : Json) : String := String.ofList value.renderChars

end Surveyor.Json
