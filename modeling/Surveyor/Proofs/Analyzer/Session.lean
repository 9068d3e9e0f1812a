import Surveyor.Proofs.Analyzer.Analysis

/-! Runs of one analyzer over several workspaces, while their files and the clock change. What the cache holds at any time
is the last rebuild that no invalidation has followed, and its time to live is always a number. -/

namespace Surveyor

/-- An analyzer with the disk and the time that it finds. -/
structure Session where
  disk : Disk
  now : Rat
  analyzer : Analyzer

namespace Session
open Analyzer

inductive Event where
  | change (disk : Disk)
  /-- The clock shows another time, which may be an earlier one. -/
  | tick (now : Rat)
  | invalidate
  | analyze (path : String)

def found (session : Session) (path : String) : Except Failure Outcome × Analyzer :=
  (analyze session.disk session.now session.analyzer path).value

def step (session : Session) : Event → Session
  | .change disk => { session with disk }
  | .tick now => { session with now }
  | .invalidate => { session with analyzer := session.analyzer.invalidate }
  | .analyze path => { session with analyzer := (session.found path).2 }

def run (session : Session) (events : List Event) : Session := events.foldl step session

/-- The rebuild that is known after an event: a new one takes the place of the last one, an invalidation takes it away. -/
def knownAfter (session : Session) (known : Option (CacheEntry Snapshot)) : Event → Option (CacheEntry Snapshot)
  | .change _ | .tick _ => known
  | .invalidate => none
  | .analyze path =>
    match (session.found path).1 with
    | .ok ⟨snapshot, true⟩ => some ⟨snapshot, session.now, rootOf path⟩
    | _ => known

/-- The last rebuild of a run, unless it was followed by an invalidation. -/
def standing (session : Session) (known : Option (CacheEntry Snapshot)) : List Event → Option (CacheEntry Snapshot)
  | [] => known
  | event :: rest => (session.step event).standing (session.knownAfter known event) rest

theorem run_preserves (kept : Session → Prop) (each : ∀ session event, kept session → kept (session.step event))
    {start : Session} (holds : kept start) (events : List Event) : kept (start.run events) := by
  induction events generalizing start with
  | nil => exact holds
  | cons event rest ih => exact ih (each start event holds)

theorem found_hit {session : Session} {path : String} {snapshot : Snapshot}
    (hit : (session.analyzer.cache.get session.now (rootOf path)).value = some snapshot) :
    session.found path = (.ok ⟨snapshot, false⟩, session.analyzer) := analyze_hit hit

theorem found_miss {session : Session} {path : String}
    (miss : (session.analyzer.cache.get session.now (rootOf path)).value = none) :
    session.found path =
      match survey session.disk session.analyzer.settings (rootOf path) session.analyzer.yaml with
      | .ok snapshot =>
        (.ok ⟨snapshot, true⟩,
          (session.analyzer.adopting session.disk (rootOf path)).storing session.now (rootOf path) snapshot)
      | .error failure => (.error failure, session.analyzer.adopting session.disk (rootOf path)) := analyze_miss miss

/-- All that an analysis can come to: a hit, a new snapshot, or a failure. -/
theorem found_cases (session : Session) (path : String) :
    let root := rootOf path
    let adopted := session.analyzer.adopting session.disk root
    (∃ snapshot, session.found path = (.ok ⟨snapshot, false⟩, session.analyzer)) ∨
      (∃ snapshot, survey session.disk session.analyzer.settings root session.analyzer.yaml = .ok snapshot ∧
        session.found path = (.ok ⟨snapshot, true⟩, adopted.storing session.now root snapshot)) ∨
      ∃ failure, session.found path = (.error failure, adopted) := by
  intro root adopted
  cases kept : (session.analyzer.cache.get session.now root).value with
  | some snapshot => exact .inl ⟨snapshot, found_hit kept⟩
  | none =>
    rw [found_miss kept]
    cases survey session.disk session.analyzer.settings root session.analyzer.yaml with
    | ok snapshot => exact .inr (.inl ⟨snapshot, rfl, rfl⟩)
    | error failure => exact .inr (.inr ⟨failure, rfl⟩)

theorem step_entry (session : Session) (event : Event) :
    (session.step event).analyzer.cache.entry = session.knownAfter session.analyzer.cache.entry event := by
  cases event with
  | change | tick | invalidate => rfl
  | analyze path =>
    simp only [step, knownAfter]
    rcases session.found_cases path with ⟨snapshot, hit⟩ | ⟨snapshot, -, rebuilt⟩ | ⟨failure, failed⟩
    · rw [hit]
    · rw [rebuilt]
      rfl
    · rw [failed]
      exact adopting_entry

theorem run_entry (session : Session) (events : List Event) :
    (session.run events).analyzer.cache.entry = session.standing session.analyzer.cache.entry events := by
  induction events generalizing session with
  | nil => rfl
  | cons event rest ih =>
    -- What is known starts out as what the cache holds, and each event keeps the two together.
    have further := ih (session.step event)
    rw [step_entry] at further
    exact further

theorem step_settings (session : Session) (event : Event) :
    (session.step event).analyzer.settings = session.analyzer.settings ∧
      (session.step event).analyzer.ownsCache = session.analyzer.ownsCache ∧
      (session.step event).analyzer.yaml = session.analyzer.yaml := by
  cases event with
  | change | tick | invalidate => exact ⟨rfl, rfl, rfl⟩
  | analyze path =>
    simp only [step]
    rcases session.found_cases path with ⟨snapshot, hit⟩ | ⟨snapshot, -, rebuilt⟩ | ⟨failure, failed⟩
    · rw [hit]
      exact ⟨rfl, rfl, rfl⟩
    · rw [rebuilt]
      exact ⟨adopting_settings, adopting_ownsCache, adopting_yaml⟩
    · rw [failed]
      exact ⟨adopting_settings, adopting_ownsCache, adopting_yaml⟩

theorem run_settings (start : Session) (events : List Event) :
    (start.run events).analyzer.settings = start.analyzer.settings ∧
      (start.run events).analyzer.ownsCache = start.analyzer.ownsCache ∧
      (start.run events).analyzer.yaml = start.analyzer.yaml := by
  refine run_preserves (fun session => session.analyzer.settings = start.analyzer.settings ∧
    session.analyzer.ownsCache = start.analyzer.ownsCache ∧ session.analyzer.yaml = start.analyzer.yaml)
    (fun session event ⟨settings, owns, yaml⟩ => ?_) ⟨rfl, rfl, rfl⟩ events
  obtain ⟨sameSettings, sameOwns, sameYaml⟩ := session.step_settings event
  exact ⟨sameSettings.trans settings, sameOwns.trans owns, sameYaml.trans yaml⟩

theorem step_number {session : Session} (number : session.analyzer.cache.timeToLive ≠ .nan) (event : Event) :
    (session.step event).analyzer.cache.timeToLive ≠ .nan := by
  cases event with
  | change | tick | invalidate => exact number
  | analyze path =>
    simp only [step]
    rcases session.found_cases path with ⟨snapshot, hit⟩ | ⟨snapshot, -, rebuilt⟩ | ⟨failure, failed⟩
    · rwa [hit]
    · rw [rebuilt]
      exact adopting_number number
    · rw [failed]
      exact adopting_number number

theorem run_number {start : Session} (number : start.analyzer.cache.timeToLive ≠ .nan) (events : List Event) :
    (start.run events).analyzer.cache.timeToLive ≠ .nan :=
  run_preserves (·.analyzer.cache.timeToLive ≠ .nan) (fun _ event number => step_number number event) number events

/-! ## What an analysis gives back -/

/-- The last rebuild was for the root of a path, no invalidation has followed it, and the time since then is less than the
time to live. What a cache held before the run counts as a rebuild. -/
def Fresh (start : Session) (events : List Event) (path : String) (snapshot : Snapshot) : Prop :=
  ∃ time, start.standing start.analyzer.cache.entry events = some ⟨snapshot, time, rootOf path⟩ ∧
    (start.run events).analyzer.cache.timeToLive.Exceeds ((start.run events).now - time)

theorem hit_iff_fresh {start : Session} (number : start.analyzer.cache.timeToLive ≠ .nan) {events : List Event}
    {path : String} {snapshot : Snapshot} :
    ((start.run events).analyzer.cache.get (start.run events).now (rootOf path)).value = some snapshot ↔
      start.Fresh events path snapshot := by
  rw [Cache.get_eq_some_iff (run_number number events), run_entry]
  rfl

/-- What an analysis gives back after any run. The last rebuild comes back, from any disk, if it is still fresh for this
root. In every other case there is a whole survey of the disk as it is now, and its snapshot is what the cache holds. -/
theorem found_after_run {start : Session} (number : start.analyzer.cache.timeToLive ≠ .nan) (events : List Event)
    (path : String) :
    let session := start.run events
    (∀ snapshot, start.Fresh events path snapshot →
      ∀ disk, ({ session with disk } : Session).found path = (.ok ⟨snapshot, false⟩, session.analyzer)) ∧
    ((∀ snapshot, ¬ start.Fresh events path snapshot) →
      (session.found path).1 =
        (survey session.disk start.analyzer.settings (rootOf path) start.analyzer.yaml).map
          (fun snapshot => ⟨snapshot, true⟩) ∧
      ∀ snapshot, (session.found path).1 = .ok ⟨snapshot, true⟩ →
        (session.found path).2.cache.entry = some ⟨snapshot, session.now, rootOf path⟩) := by
  intro session
  refine ⟨fun snapshot fresh disk => found_hit ((hit_iff_fresh number).mpr fresh), fun stale => ?_⟩
  have missed : (session.analyzer.cache.get session.now (rootOf path)).value = none := by
    refine Option.eq_none_iff_forall_ne_some.mpr fun snapshot kept => ?_
    exact stale snapshot ((hit_iff_fresh number).mp kept)
  obtain ⟨same, -, reader⟩ := start.run_settings events
  rw [found_miss missed, show session.analyzer.settings = start.analyzer.settings from same,
    show session.analyzer.yaml = start.analyzer.yaml from reader]
  cases survey session.disk start.analyzer.settings (rootOf path) start.analyzer.yaml with
  | error failure => exact ⟨rfl, fun snapshot found => by cases found⟩
  | ok snapshot =>
    refine ⟨rfl, fun other found => ?_⟩
    cases found
    rfl

/-- Whether an analysis has taken a new snapshot. -/
def rebuilds (session : Session) (path : String) : Bool :=
  match (session.found path).1 with
  | .ok outcome => outcome.isNew
  | .error _ => false

theorem exists_of_rebuilds {session : Session} {path : String} (rebuilt : session.rebuilds path = true) :
    ∃ snapshot, (session.found path).1 = .ok ⟨snapshot, true⟩ := by
  unfold rebuilds at rebuilt
  split at rebuilt
  next outcome found =>
    obtain ⟨snapshot, isNew⟩ := outcome
    exact ⟨snapshot, by rw [found, show isNew = true from rebuilt]⟩
  next => cases rebuilt

/-- A workspace that asks for five seconds, as a new analyzer finds it. -/
def asking : Session where
  disk := Disk.workspace [(Settings.fileName, "cache:\n  ttl_seconds: 5\n")]
  now := 0
  analyzer := owning none

theorem found_after_run_asking :
    let session := asking.run [.analyze "/w", .tick 4]
    asking.analyzer.cache.timeToLive ≠ .nan ∧
      ∃ snapshot, ∀ disk, ({ session with disk } : Session).found "/w" = (.ok ⟨snapshot, false⟩, session.analyzer) := by
  intro session
  have number : asking.analyzer.cache.timeToLive ≠ .nan := by decide
  obtain ⟨snapshot, rebuilt⟩ : ∃ snapshot, (asking.found "/w").1 = .ok ⟨snapshot, true⟩ :=
    exists_of_rebuilds (by decide +kernel)
  have stands : asking.standing asking.analyzer.cache.entry [.analyze "/w", .tick 4] =
      some ⟨snapshot, 0, rootOf "/w"⟩ := by
    simp only [standing, knownAfter, rebuilt]
    rfl
  have early : (asking.run [.analyze "/w", .tick 4]).analyzer.cache.timeToLive.Exceeds
      ((asking.run [.analyze "/w", .tick 4]).now - 0) := by
    rw [Binary64.exceeds_iff (run_number number _)]
    decide +kernel
  exact ⟨number, snapshot, (found_after_run number _ "/w").1 snapshot ⟨0, stands, early⟩⟩

/-! ## The time to live after a rebuild -/

/-- The time to live after a rebuild is what the entries of the workspace ask for, and the default if they ask for
nothing. A document that is passed over leaves the time to live of the workspace before. -/
theorem timeToLive_after_rebuild (disk : Disk) (now : Rat) (events : List Event) (path : String) {snapshot : Snapshot}
    (rebuilt : (((Session.mk disk now (owning none)).run events).found path).1 = .ok ⟨snapshot, true⟩) :
    let session := (Session.mk disk now (owning none)).run events
    (session.found path).2.cache.timeToLive =
      match Settings.entriesAt session.disk (rootOf path).toList with
      | .ok entries => (Settings.statedSeconds? entries).getD (.finite false 30)
      | .error _ => session.analyzer.cache.timeToLive := by
  intro session
  obtain ⟨own, owns, reader⟩ : session.analyzer.settings = none ∧ session.analyzer.ownsCache = true ∧
      session.analyzer.yaml = Yaml.load Settings.depth := run_settings _ events
  rcases session.found_cases path with ⟨other, hit⟩ | ⟨other, surveyed, same⟩ | ⟨failure, failed⟩
  · simp [session, hit] at rebuilt
  · rw [own, reader] at surveyed
    have asked := asked?_of_survey (resolve_rootOf path) surveyed
    have taken : (session.found path).2.cache.timeToLive =
        (asked? session.disk (rootOf path)).getD session.analyzer.cache.timeToLive := by
      rw [same]
      simp [storing, Cache.store, adopting, own, owns, reader]
    rw [taken, asked]
    cases Settings.entriesAt session.disk (rootOf path).toList <;> rfl
  · simp [session, failed] at rebuilt

theorem timeToLive_after_rebuild_asking :
    (∃ snapshot, (asking.found "/w").1 = .ok ⟨snapshot, true⟩) ∧
      (asking.found "/w").2.cache.timeToLive = .finite false 5 := by
  obtain ⟨snapshot, rebuilt⟩ : ∃ snapshot, (asking.found "/w").1 = .ok ⟨snapshot, true⟩ :=
    exists_of_rebuilds (by decide +kernel)
  refine ⟨⟨snapshot, rebuilt⟩, ?_⟩
  have same : (Session.mk asking.disk 0 (owning none)).run [] = asking := rfl
  have taken := timeToLive_after_rebuild asking.disk 0 [] "/w" rebuilt
  rw [same] at taken
  rw [taken]
  decide +kernel

/-- The five seconds outlive the document that asked for them. -/
theorem timeToLive_after_rebuild_malformed :
    let session := asking.run [.analyze "/w", .change (Disk.workspace [(Settings.fileName, "cache: [\n")]), .tick 5]
    session.rebuilds "/w" = true ∧ (Settings.entriesAt session.disk (rootOf "/w").toList).isOk = false ∧
      (session.found "/w").2.cache.timeToLive ≠ .finite false 30 := by
  decide +kernel

end Session

end Surveyor
