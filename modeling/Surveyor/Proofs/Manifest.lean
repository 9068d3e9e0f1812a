import Surveyor.Manifest
import Surveyor.Proofs.Json.Distinct

/-! The scripts of a manifest are a mapping from names to commands. -/

namespace Surveyor.Manifest

/-- The second manifest has all dependencies and scripts of the first one. -/
structure Within (first second : Manifest) : Prop where
  dependencies : ∀ name ∈ first.allDependencies, name ∈ second.allDependencies
  scripts : ∀ script ∈ first.scripts, script ∈ second.scripts

def Distinct (manifest : Manifest) : Prop := Fields.Distinct manifest.scripts

theorem ofFields_distinct {fields : List (String × Json)} (each : ∀ field ∈ fields, field.2.Distinct) :
    (ofFields fields).Distinct := by
  change Fields.Distinct (scriptsOf (Fields.get? "scripts" fields))
  unfold scriptsOf
  split
  next scripts found =>
    cases each _ (Fields.mem_of_get? found) with
    | object names => exact names.filterMap Json.text?
  next => exact List.nodup_nil

/-- A manifest that was found in a workspace has a command for each name of a script. -/
theorem load_distinct {disk : Disk} {root : String} {manifest : Manifest}
    (loaded : load disk root = .ok (some manifest)) : manifest.Distinct := by
  unfold load at loaded
  split at loaded
  next => cases loaded
  next text found =>
    split at loaded
    next field fields read =>
      cases loaded
      cases Json.read_distinct read with
      | object names each => exact ofFields_distinct each
    all_goals cases loaded

end Surveyor.Manifest
