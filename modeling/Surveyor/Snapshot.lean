import Surveyor.Asset
import Surveyor.Command
import Surveyor.Environment
import Surveyor.FileStats
import Surveyor.Graph.Build
import Surveyor.Metrics.Measure
import Surveyor.Progress.Rubrics
import Surveyor.Readme
import Surveyor.Roadmap
import Surveyor.Settings

/-!
The whole survey of a workspace: every fact that one run over its files yields. A root that cannot be listed, an
integer of the manifest with too many digits and a location beyond the longest one end it without a snapshot.
-/
namespace Surveyor

structure Snapshot where
  root : String
  name : String
  project : ProjectType
  manifest : Option Manifest
  markers : Markers
  signals : Signals
  stats : FileStats
  graph : Graph
  metrics : Option CodeMetrics
  roadmap : List Phase
  concept : String
  environment : List EnvVariable
  commands : List ProjectCommand
  assets : List Asset

namespace Snapshot

/-- A text unless it is empty. -/
private def filled? (text : String) : Option String := if text.isEmpty then none else some text

/-- The name of a project: that of its manifest, else that of its folder. -/
def nameOf (manifest : Option Manifest) (root : String) : String :=
  (manifest.bind fun manifest => filled? manifest.name).getD (String.ofList (Path.name root.toList))

/-- The concept of a project: what its readme says, else what its manifest says. -/
def conceptOf (readme : Option String) (manifest : Option Manifest) : String :=
  (readme.bind filled?).getD ((manifest.map (·.description)).getD "")

inductive Failure where
  | listing (refusal : Listing.Refusal)
  | manifest (fault : Json.Fault)
  /-- A file cannot even be looked for. -/
  | location (fault : Fault)
  deriving DecidableEq, Repr

/-- The survey of a workspace whose manifest is known. -/
def ofManifest (disk : Disk) (settings : Settings) (listing : Listing) (manifest : Option Manifest) :
    Logged (Except Failure Snapshot) := do
  let root := listing.root
  let markers := Markers.detect disk root listing.files
  let signals := Signals.detect manifest markers
  let project := ProjectType.ofMarkers markers
  let stats := FileStats.ofFiles listing.files
  let metrics ←
    if settings.metrics.enabled then some <$> Metrics.measure disk root settings.metrics.maxFiles listing.files
    else pure none
  let graph ← Graph.build disk listing { clusterDepth := settings.graph.clusterDepth }
  match ← Readme.load disk root with
  | .error fault => return .error (.location fault)
  | .ok readme =>
    let name := nameOf manifest root
    let message := "Analyzed " ++ name ++ ": " ++ toString stats.total ++ " files, " ++ toString graph.size ++
      " graph nodes, " ++ toString graph.edgeCount ++ " edges"
    Logged.write ⟨.debug, "workspace", message, none⟩
    match ← Environment.load disk root with
    | .error fault => return .error (.location fault)
    | .ok environment =>
      return .ok { root, name, project, manifest, markers, signals, stats, graph, metrics
                   roadmap := Roadmap.propose project signals markers manifest
                   concept := conceptOf readme manifest
                   environment
                   commands := ProjectCommand.ofProject manifest markers listing.files
                   assets := Asset.ofFiles Asset.fileLimit listing.files }

def ofListing (disk : Disk) (settings : Settings) (listing : Listing) : Logged (Except Failure Snapshot) :=
  match Manifest.load disk listing.root with
  | .error fault => pure (.error (.manifest fault))
  | .ok manifest => ofManifest disk settings listing manifest

def take (disk : Disk) (settings : Settings) (path : String) : Logged (Except Failure Snapshot) := do
  let rules := settings.scan.excludePaths.filterMap IgnoreRule.parse?
  match ← Listing.scan disk rules settings.scan.maxFiles path with
  | .ok listing => ofListing disk settings listing
  | .error refusal => return .error (.listing refusal)

def facts (snapshot : Snapshot) : Progress.ProjectFacts where
  signals := snapshot.signals
  markers := snapshot.markers
  stats := snapshot.stats
  manifest := snapshot.manifest
  metrics := snapshot.metrics
  graph := some snapshot.graph

def score (snapshot : Snapshot) (title : String) : Logged (Except Progress.Unscorable Assessment) :=
  Progress.Registry.standard.score title snapshot.facts

/-- Scores phases in order, up to the first one that has no score. -/
def scoreAll (snapshot : Snapshot) :
    List String → Logged (Except Progress.Unscorable (List Assessment))
  | [] => pure (.ok [])
  | title :: rest => do
    match ← snapshot.score title with
    | .error unscorable => return .error unscorable
    | .ok first => return (← snapshot.scoreAll rest).map (first :: ·)

end Snapshot

end Surveyor
