import Surveyor.Number.Binary64

/-!
The values that YAML documents hold. A time is only known to be one, since nothing depends on which it is.
-/
namespace Surveyor.Yaml

inductive Value where
  | null
  | bool (value : Bool)
  | int (value : Int)
  | real (value : Binary64)
  | text (value : String)
  | bytes (value : List Nat)
  | time
  | list (items : List Value)
  | mapping (entries : List (Value × Value))
  | set (items : List Value)
  deriving Inhabited

namespace Value

/-- The value of the last entry whose key is the text. -/
def get? (key : String) (entries : List (Value × Value)) : Option Value :=
  (entries.reverse.find? fun (name, _) => match name with
    | text value => value == key
    | _ => false).map (·.2)

/-- Values that count as no value at all: nothing, falsehood, zero and what is empty. -/
def isVoid : Value → Bool
  | null => true
  | bool value => !value
  | int value => value == 0
  | real (.finite _ magnitude) => magnitude == 0
  | real _ => false
  | text value => value.isEmpty
  | bytes value => value.isEmpty
  | time => false
  | list items => items.isEmpty
  | mapping entries => entries.isEmpty
  | set items => items.isEmpty

end Value

end Surveyor.Yaml
