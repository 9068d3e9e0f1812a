import Surveyor.Cache
import Surveyor.Snapshot

/-!
An analyzer of workspaces. It keeps the last snapshot for as long as its cache lets it: a hit touches no file, a miss
reads the settings and runs the whole survey. A path is made a root first, by the host on which the workspace is.
-/
namespace Surveyor

structure Analyzer where
  cache : Cache Snapshot := {}
  /-- Settings that hold for every workspace; without them each workspace has its own. -/
  settings : Option Settings := none
  /-- Whether settings of a workspace may change the cache's time to live. -/
  ownsCache : Bool := true
  /-- What the files of settings are read with. -/
  yaml : Yaml.Reader := Yaml.load Settings.depth

namespace Analyzer

inductive Failure where
  /-- The path stands for no location. -/
  | root (fault : Host.Fault)
  | settings (failure : Settings.Failure)
  | survey (failure : Snapshot.Failure)
  | score (unscorable : Progress.Unscorable)

/-- A snapshot, with whether it was taken just now. -/
structure Outcome where
  snapshot : Snapshot
  isNew : Bool

def owning (settings : Option Settings) : Analyzer where
  cache := { timeToLive := ((settings.map Settings.cache).getD {}).timeToLive }
  settings

def sharing (cache : Cache Snapshot) (settings : Option Settings) : Analyzer := { cache, settings, ownsCache := false }

/-- The settings for a workspace. Only those that were read change the cache. -/
def settingsFor (disk : Disk) (analyzer : Analyzer) (root : String) :
    Logged (Except Failure Settings × Analyzer) :=
  match analyzer.settings with
  | some settings => pure (.ok settings, analyzer)
  | none =>
    match disk.entry root.toList with
    | .error .nameTooLong => pure (.error (.settings (.location .nameTooLong)), analyzer)
    | .ok (.folder _) =>
      match Settings.load disk root.toList analyzer.yaml with
      | .ok settings =>
        let cache :=
          if analyzer.ownsCache then { analyzer.cache with timeToLive := settings.cache.timeToLive } else analyzer.cache
        pure (.ok settings, { analyzer with cache })
      | .error failure =>
        if failure.isTolerated then do
          let message := "Ignoring invalid configuration in " ++ root
          Logged.write ⟨.warning, "workspace", message, some (.text failure.message)⟩
          return (.ok { root }, analyzer)
        else pure (.error (.settings failure), analyzer)
    | _ => pure (.ok { root }, analyzer)

def refresh (disk : Disk) (now : Rat) (analyzer : Analyzer) (root : String) :
    Logged (Except Failure Snapshot × Analyzer) := do
  let (settings, analyzer) ← analyzer.settingsFor disk root
  match settings with
  | .error failure => return (.error failure, analyzer)
  | .ok settings =>
    match ← Snapshot.take disk settings root with
    | .error failure => return (.error (.survey failure), analyzer)
    | .ok snapshot => return (.ok snapshot, { analyzer with cache := analyzer.cache.store now root snapshot })

/-- Analyzes the workspace at an absolute path, as a host makes it of any other. -/
def analyze (disk : Disk) (now : Rat) (analyzer : Analyzer) (path : String) :
    Logged (Except Failure Outcome × Analyzer) := do
  let root := String.ofList (Path.resolve path.toList)
  match ← analyzer.cache.get now root with
  | some snapshot => return (.ok ⟨snapshot, false⟩, analyzer)
  | none =>
    let (taken, analyzer) ← analyzer.refresh disk now root
    return (taken.map fun snapshot => ⟨snapshot, true⟩, analyzer)

/-- Analyzes the workspace that a path stands for. Where it stands for none, not even the cache is asked. -/
def analyzeFrom (host : Host) (disk : Disk) (now : Rat) (analyzer : Analyzer) (path : String) :
    Logged (Except Failure Outcome × Analyzer) :=
  match host.root path with
  | .error fault => pure (.error (.root fault), analyzer)
  | .ok root => analyzer.analyze disk now root

/-- Scores phases against the snapshot of a workspace, which comes with them. -/
def progress (host : Host) (disk : Disk) (now : Rat) (analyzer : Analyzer) (path : String) (titles : List String) :
    Logged (Except Failure (List Assessment) × Option Outcome × Analyzer) := do
  let (found, analyzer) ← analyzer.analyzeFrom host disk now path
  match found with
  | .error failure => return (.error failure, none, analyzer)
  | .ok outcome => return ((← outcome.snapshot.scoreAll titles).mapError Failure.score, some outcome, analyzer)

def invalidate (analyzer : Analyzer) : Analyzer := { analyzer with cache := analyzer.cache.invalidate }

end Analyzer

end Surveyor
