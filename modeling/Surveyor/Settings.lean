import Surveyor.Disk
import Surveyor.Number.Numeral
import Surveyor.Number.Shortest
import Surveyor.Text.Casing
import Surveyor.Yaml.Document

/-!
Settings of a workspace, read from a YAML file at its root by any reader of such documents. Each setting is coerced on
its own and keeps its default when it is missing or does not fit; only a file that cannot be read as a mapping is a
failure.
-/
namespace Surveyor

structure CacheSettings where
  timeToLive : Binary64 := .finite false 30
  deriving DecidableEq, Repr

structure ScanSettings where
  maxFiles : Int := 5000
  excludePaths : List String := []
  deriving DecidableEq, Repr

structure GraphSettings where
  clusterDepth : Int := 1
  deriving DecidableEq, Repr

structure MetricsSettings where
  enabled : Bool := true
  maxFiles : Int := 200
  deriving DecidableEq, Repr

structure Settings where
  root : String
  cache : CacheSettings := {}
  scan : ScanSettings := {}
  graph : GraphSettings := {}
  metrics : MetricsSettings := {}
  deriving DecidableEq, Repr

namespace Settings

def fileName : String := ".devarchitect.yml"

inductive Failure where
  | unreadable (fault : Fault)
  | document (fault : Yaml.Fault)
  | notMapping
  /-- A number of seconds is beyond the largest number. -/
  | tooLarge
  /-- An integer has too many digits to be written out. -/
  | tooLong
  /-- The location itself cannot be used. -/
  | location (fault : Fault)
  deriving DecidableEq, Repr

namespace Failure

/-- Whether a survey goes on with the defaults. -/
def isTolerated : Failure → Bool
  | unreadable _ | notMapping => true
  | document fault => fault == .malformed
  | _ => false

/-- The text of a failure. The cause that stands behind a colon after it, if a file cannot be read or parsed, is left
out, and so is the text for a location, which comes from the file system. -/
def message : Failure → String
  | unreadable _ => "Failed to read " ++ fileName
  | document .malformed => "Failed to parse " ++ fileName
  | document fault => fault.message
  | notMapping => fileName ++ " must contain a mapping at the root"
  | tooLarge => "int too large to convert to float"
  | tooLong =>
    "Exceeds the limit (4300 digits) for integer string conversion; use sys.set_int_max_str_digits() to " ++
      "increase the limit"
  | location _ => ""

end Failure

open Yaml (Value)

/-- The entries of a section; a section that is no mapping has none. -/
def entriesOf : Option Value → List (Value × Value)
  | some (.mapping entries) => entries
  | _ => []

def realOf : Option Value → Except Failure (Option Binary64)
  | some (.int value) =>
    let real := Binary64.ofInt value
    if real.isInfinite then .error .tooLarge else .ok (some real)
  | some (.real value) => .ok (some value)
  | some (.text value) => .ok (Numeral.real? value.toList)
  | _ => .ok none

def intOf : Option Value → Option Int
  | some (.int value) => some value
  | some (.text value) =>
    match Numeral.integer 10 value.toList with
    | .ok value => some value
    | .error _ => none
  | _ => none

def boolOf : Option Value → Option Bool
  | some (.bool value) => some value
  | some (.text value) =>
    let word := Text.lower (Text.trim value)
    if ["true", "yes", "1"].contains word then some true
    else if ["false", "no", "0"].contains word then some false
    else none
  | _ => none

def digitsText (value : Int) : Except Failure String :=
  if Numeral.digitLimit < (toString value.natAbs).length then .error .tooLong else .ok (toString value)

/-- A scalar of a list as text. Other members of lists are passed over. -/
def itemText : Value → Except Failure (Option String)
  | .text value => .ok (some value)
  | .int value => (digitsText value).map some
  | .real value => .ok (some value.text)
  | .bool value => .ok (some (if value then "True" else "False"))
  | _ => .ok none

def textsOf : Option Value → Except Failure (List String)
  | some (.text value) => .ok [value]
  | some (.list items) => (items.mapM itemText).map fun found => found.filterMap id
  | some (.bytes value) => .ok (value.map toString)
  | _ => .ok []

/-- The value when it is in order, else the default. -/
def orDefault {α : Type} (default : α) (isValid : α → Bool) (found : Option α) : α :=
  match found with
  | some value => if isValid value then value else default
  | none => default

def ofEntries (root : String) (entries : List (Value × Value)) : Except Failure Settings := do
  let entryOf := fun (part name : String) => Value.get? name (entriesOf (Value.get? part entries))
  let timeToLive ← realOf (entryOf "cache" "ttl_seconds")
  let excludePaths ← textsOf (entryOf "scan" "exclude_paths")
  let start : Settings := { root }
  return { root
           cache := ⟨orDefault start.cache.timeToLive (Binary64.le (.finite false 0)) timeToLive⟩
           scan := ⟨orDefault start.scan.maxFiles (0 < ·) (intOf (entryOf "scan" "max_files")), excludePaths⟩
           graph := ⟨orDefault start.graph.clusterDepth (0 ≤ ·) (intOf (entryOf "graph" "cluster_depth"))⟩
           metrics :=
             ⟨(boolOf (entryOf "metrics" "enabled")).getD start.metrics.enabled,
              orDefault start.metrics.maxFiles (0 < ·) (intOf (entryOf "metrics" "max_files"))⟩ }

/-- How deep settings reach into a document: the document, a section, a list and its members. -/
def depth : Nat := 4

/-- The settings that a text holds. A document that counts as no value holds none. -/
def ofText (root text : String) (reader : Yaml.Reader := Yaml.load depth) : Except Failure Settings :=
  if Text.isEmptyLine text.toList then ofEntries root []
  else
    match reader text.toList with
    | .error fault => .error (.document fault)
    | .ok value =>
      if value.isVoid then ofEntries root []
      else
        match value with
        | .mapping entries => ofEntries root entries
        | _ => .error .notMapping

/-- The location of the file for a path to it, to its folder or to a neighbour of it. -/
def fileLocation (disk : Disk) (path : List Char) : Except Failure (List Char) :=
  let own := fileName.toList
  match disk.entry path with
  | .error .nameTooLong => .error (.location .nameTooLong)
  | .ok (.folder _) => .ok (Path.resolve (Path.locate path own))
  | _ =>
    if Path.name path = own then .ok (Path.resolve path)
    else .ok (Path.resolve (Path.locate (Path.folder path) own))

/-- Reads the settings for a path. A file that is not there leaves the defaults. -/
def load (disk : Disk) (path : List Char) (reader : Yaml.Reader := Yaml.load depth) : Except Failure Settings := do
  let location ← fileLocation disk path
  let root := String.ofList (Path.folder location)
  match disk.entry location with
  | .error .nameTooLong => throw (.location .nameTooLong)
  | .error _ => return { root }
  | .ok _ =>
    match disk.read location with
    | .error fault => throw (.unreadable fault)
    | .ok text => ofText root text reader

end Settings

end Surveyor
