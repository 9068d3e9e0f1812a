/-!
Named values in the order in which their names first appear.
-/
namespace Surveyor.Fields

def get? {α : Type} (name : String) (fields : List (String × α)) : Option α :=
  (fields.find? fun field => field.1 == name).map (·.2)

/-- Gives a name a value: in its place when the name is there, else at the end. -/
def set {α : Type} (fields : List (String × α)) (name : String) (value : α) : List (String × α) :=
  match fields with
  | [] => [(name, value)]
  | field :: rest => if field.1 == name then (name, value) :: rest else field :: set rest name value

/-- Takes names and values one after the other; of equal names the last value counts. -/
def ofList {α : Type} (entries : List (String × α)) : List (String × α) :=
  entries.foldl (fun fields (name, value) => set fields name value) []

end Surveyor.Fields
