import Surveyor.Json.Value
import Surveyor.Number.Shortest
import Surveyor.Text.Quoted

/-!
A JSON value as prose: how a report shows a value where a text was expected. A text stands for itself, and inside a
collection it is quoted.
-/
namespace Surveyor.Json

mutual

private def inner : Json → String
  | .null => "None"
  | .bool value => if value then "True" else "False"
  | .int value => toString value
  | .real value => value.text
  | .text value => Text.quote value
  | .array [] => "[]"
  | .array (item :: items) => "[" ++ inner item ++ innerItems items
  | .object [] => "\x7b\x7d"
  | .object ((name, value) :: fields) =>
    "\x7b" ++ Text.quote name ++ ": " ++ inner value ++ innerFields fields

private def innerItems : List Json → String
  | [] => "]"
  | item :: items => ", " ++ inner item ++ innerItems items

private def innerFields : List (String × Json) → String
  | [] => "\x7d"
  | (name, value) :: fields =>
    ", " ++ Text.quote name ++ ": " ++ inner value ++ innerFields fields

end

def display : Json → String
  | .text value => value
  | value => inner value

end Surveyor.Json
