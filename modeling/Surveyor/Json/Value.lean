import Surveyor.Fields
import Surveyor.Number.Binary64

/-!
JSON values. Integers are kept apart from other numbers and have any size; the fields of an object keep the order of
their first appearance.
-/
namespace Surveyor

inductive Json where
  | null
  | bool (value : Bool)
  | int (value : Int)
  | real (value : Binary64)
  | text (value : String)
  | array (items : List Json)
  | object (fields : List (String × Json))
  deriving Inhabited

namespace Json

def fields : Json → List (String × Json)
  | object fields => fields
  | _ => []

def items? : Json → Option (List Json)
  | array items => some items
  | _ => none

def text? : Json → Option String
  | text value => some value
  | _ => none

end Json

end Surveyor
