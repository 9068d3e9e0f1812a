import Surveyor.Number.Numeral
import Surveyor.Progress.Rubric

/-!
Facts and figures that several checks share.
-/
namespace Surveyor.Progress

/-- The decimal digits of a whole number, unless they are too many. -/
def written (number : Int) : Except Unscorable String :=
  if Nat.pow 10 Numeral.digitLimit ≤ number.natAbs then .error .overlong else .ok (toString number)

/-- The nearest real number to a quotient of counts. -/
def ratio (part whole : Int) : Except Unscorable Binary64 :=
  if whole = 0 then .error .divisionByZero
  else
    match Binary64.ofRat (part / whole) with
    | .infinite _ => .error .ratioOverflow
    | nearest => .ok nearest

/-- A ratio in percent, to the nearest integer. -/
def percent (ratio : Binary64) : String :=
  match (ratio.mul (.ofInt 100)).toRat? with
  | some value => toString (roundToInt value) ++ "%"
  | none => "inf%"

/-- A ratio in percent, as a whole number. -/
def wholePercent (ratio : Binary64) : Except Unscorable String :=
  match ratio.mul (.ofInt 100) with
  | .nan => .error (.unroundable .nan)
  | .infinite _ => .error (.unroundable .infinite)
  | .finite negative magnitude => do
    return (← written (roundToInt (if negative then -magnitude else magnitude))) ++ "%"

namespace ProjectFacts

def scripts (facts : ProjectFacts) : List (String × String) := (facts.manifest.map (·.scripts)).getD []

def dependencies (facts : ProjectFacts) : List String := (facts.manifest.map (·.allDependencies)).getD []

def placeholder : String := "no test specified"

/-- Whether a script with one of the parts in its name does something. -/
def hasScript (facts : ProjectFacts) (parts : List String) : Bool :=
  facts.scripts.any fun (name, command) =>
    parts.any (Text.contains (Text.lower name)) && !Text.contains command placeholder

def hasFolder (facts : ProjectFacts) (names : List String) : Bool := names.any facts.stats.folders.contains

/-- The files of the graph whose paths hold a keyword. -/
def filesWith (facts : ProjectFacts) (keywords : List String) : List String :=
  (facts.graph.map (·.pathsWithAny keywords)).getD []

def edgeCount (facts : ProjectFacts) : Nat := (facts.graph.map (·.edgeCount)).getD 0

def hasAliases (facts : ProjectFacts) : Bool := (facts.graph.map (·.aliases.hasRules)).getD false

def endpointCount (facts : ProjectFacts) : Nat := (facts.metrics.map (·.endpoints.length)).getD 0

def declaresInterfaces (facts : ProjectFacts) : Bool := facts.metrics.any (0 < ·.interfaces)

/-- The number of interfaces of code that was measured. -/
def interfaceCount (facts : ProjectFacts) : Except Unscorable Int :=
  match facts.metrics with
  | some metrics => .ok metrics.interfaces
  | none => .error .unmeasured

/-- Names of folders that stand for a layer of the architecture. -/
def layerNames : List String :=
  ["api", "components", "controllers", "features", "hooks", "lib", "models", "modules", "pages", "providers", "routes",
   "services", "store", "stores", "types", "utils", "views"]

def layerCount (facts : ProjectFacts) : Nat := layerNames.countP facts.stats.folders.contains

/-- Test files to code files. Without code files it is zero. -/
def testRatio (facts : ProjectFacts) : Except Unscorable Binary64 :=
  if facts.stats.code = 0 then .ok (.finite false 0) else ratio facts.stats.test facts.stats.code

def isConnected (node : FileNode) : Bool := !node.imports.isEmpty || !node.importedBy.isEmpty

/-- The share of source files that have an edge. -/
def connectedRatio (facts : ProjectFacts) : Except Unscorable Binary64 :=
  match facts.graph with
  | none => .ok (.finite false 0)
  | some graph =>
    let sources := graph.nodes.filter (·.kind == .source)
    if sources.isEmpty then .ok (.finite false 0) else ratio (sources.countP isConnected) sources.length

/-- Files for a database that some other file imports. -/
def importedDatabaseFiles (facts : ProjectFacts) : List String :=
  match facts.graph with
  | none => []
  | some graph =>
    (graph.pathsWithAny ["db", "database", "prisma"]).filter fun path => !(graph.dependents path).isEmpty

def endToEndTools : List String := ["@playwright/test", "playwright", "cypress"]

/-- Whether there are tools for end-to-end tests, on top of a test framework or of tests. -/
def hasEndToEndTools (facts : ProjectFacts) : Bool :=
  ((facts.signals.labels .testing).isSome || facts.stats.test != 0) &&
    endToEndTools.any facts.dependencies.contains

end ProjectFacts

end Surveyor.Progress
