import Surveyor.Disk
import Surveyor.FileKind
import Surveyor.Leading
import Surveyor.Metrics.Declaration
import Surveyor.Metrics.Endpoint

/-!
Measures of source code: what each file declares, added up over the files that are looked at.
-/
namespace Surveyor

inductive Complexity where
  | low
  | medium
  | high
  deriving DecidableEq, Repr

namespace Complexity

def name : Complexity → String
  | low => "low"
  | medium => "medium"
  | high => "high"

/-- The complexity that a number of declared symbols stands for. -/
def ofSymbols (symbols : Nat) : Complexity :=
  if symbols < 50 then low else if symbols < 250 then medium else high

end Complexity

structure CodeMetrics where
  files : Int := 0
  classes : Int := 0
  functions : Int := 0
  interfaces : Int := 0
  components : Int := 0
  hooks : Int := 0
  endpoints : List String := []
  notes : List String := []
  complexity : Complexity := .low
  deriving DecidableEq, Repr

namespace Metrics

structure FileFacts where
  classes : Nat
  functions : Nat
  interfaces : Nat
  hooks : Nat
  isComponent : Bool
  endpoints : List String
  notes : List String
  deriving DecidableEq, Repr

def notesPerFile : Nat := 3

def noteLimit : Nat := 10

def endpointLimit : Nat := 20

def FileFacts.ofText (path text : String) : FileFacts :=
  let chars := text.toList
  { classes := (Text.collect readClass chars).length
    functions := (Text.collect readFunction chars).length
    interfaces := (Text.collect readInterface chars).length
    hooks := (Text.collect readHook chars).length
    isComponent := isComponentText chars
    endpoints := Metrics.endpoints path chars
    notes := ((Metrics.notes chars).take notesPerFile).map String.ofList }

def total (count : FileFacts → Nat) (facts : List FileFacts) : Nat := facts.foldr (fun fact sum => count fact + sum) 0

def ofFacts (facts : List FileFacts) : CodeMetrics where
  files := facts.length
  classes := total FileFacts.classes facts
  functions := total FileFacts.functions facts
  interfaces := total FileFacts.interfaces facts
  components := facts.countP (·.isComponent)
  hooks := total FileFacts.hooks facts
  endpoints := (facts.flatMap (·.endpoints)).eraseDups.take endpointLimit
  notes := (facts.flatMap (·.notes)).take noteLimit
  complexity := .ofSymbols (total FileFacts.classes facts + total FileFacts.functions facts)

/-- Whether a file is source code that is neither a test nor a configuration. -/
def isMeasured (path : String) : Bool :=
  FileKind.endsWithAny (Text.lower path) FileKind.sourceExtensions && FileKind.ofPath path == .source

def factsOf (disk : Disk) (root path : String) : Logged (Option FileFacts) :=
  let location := Path.locate root.toList path.toList
  match disk.read location with
  | .ok text => pure (some (FileFacts.ofText path text))
  | .error fault => do
    Logged.write ⟨.debug, "metrics", "Skipping unreadable file " ++ String.ofList location, some (.file fault)⟩
    return none

/-- Measures the first files among the paths that are source code; those that cannot be read are passed over. -/
def measure (disk : Disk) (root : String) (limit : Int) (paths : List String) : Logged CodeMetrics := do
  let facts ← Logged.mapList (factsOf disk root) (leading limit (paths.filter isMeasured))
  return ofFacts (facts.filterMap id)

end Metrics

end Surveyor
