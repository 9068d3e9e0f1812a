import Surveyor.Disk
import Surveyor.Json.Reader

/-!
The package manifest of a workspace, as far as a survey needs it. Fields of another type than expected are passed over.
-/
namespace Surveyor

structure Manifest where
  name : String := ""
  description : String := ""
  version : Option String := none
  license : Option String := none
  author : Option String := none
  keywords : List String := []
  scripts : List (String × String) := []
  dependencies : List String := []
  devDependencies : List String := []
  deriving DecidableEq, Repr

namespace Manifest

def fileName : String := "package.json"

def allDependencies (manifest : Manifest) : List String := manifest.dependencies ++ manifest.devDependencies

private def filledText? : Option Json → Option String
  | some (.text value) => if value.isEmpty then none else some value
  | _ => none

/-- An author is a name, or an object with a name. -/
private def authorOf : Option Json → Option String
  | some (.object fields) => filledText? (Fields.get? "name" fields)
  | value => filledText? value

private def namesOf : Option Json → List String
  | some (.object fields) => fields.map (·.1)
  | _ => []

def scriptsOf : Option Json → List (String × String)
  | some (.object fields) => fields.filterMap fun (name, value) => value.text?.map fun command => (name, command)
  | _ => []

def ofFields (fields : List (String × Json)) : Manifest where
  name := ((Fields.get? "name" fields).bind Json.text?).getD ""
  description := ((Fields.get? "description" fields).bind Json.text?).getD ""
  version := filledText? (Fields.get? "version" fields)
  license := filledText? (Fields.get? "license" fields)
  author := authorOf (Fields.get? "author" fields)
  keywords := (((Fields.get? "keywords" fields).bind Json.items?).getD []).filterMap Json.text?
  scripts := scriptsOf (Fields.get? "scripts" fields)
  dependencies := namesOf (Fields.get? "dependencies" fields)
  devDependencies := namesOf (Fields.get? "devDependencies" fields)

/-- The manifest of a workspace. One that cannot be read, is no object or is empty counts as missing; only an integer
with too many digits is a failure. -/
def load (disk : Disk) (root : String) : Except Json.Fault (Option Manifest) :=
  match disk.read (Path.locate root.toList fileName.toList) with
  | .error _ => .ok none
  | .ok text =>
    match Json.read text with
    | .ok (.object (field :: fields)) => .ok (some (ofFields (field :: fields)))
    | .ok _ | .error .malformed => .ok none
    | .error fault => .error fault

end Manifest

end Surveyor
