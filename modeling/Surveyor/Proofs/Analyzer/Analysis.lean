import Surveyor.Analyzer
import Surveyor.Proofs.Analyzer.Survey
import Surveyor.Proofs.Cache
import Surveyor.Proofs.Json.Overlong
import Surveyor.Proofs.Settings

/-! One analysis. A hit leaves everything as it is. A miss reads the settings of the workspace, takes over their time to
live and then runs the survey, so that a survey that fails after its listing leaves the new time to live behind. -/

namespace Surveyor.Analyzer

/-- The root that a path stands for, which is also what the cache knows a workspace by. -/
def rootOf (path : String) : String := String.ofList (Path.resolve path.toList)

/-- The settings that hold for a workspace: those that are given, else its own. -/
def settingsAt (disk : Disk) (given : Option Settings) (root : String)
    (yaml : Yaml.Reader := Yaml.load Settings.depth) : Except Failure Settings :=
  (settingsFor disk { settings := given, yaml } root).value.1

/-- What the whole survey of a workspace comes to. Neither the cache nor the clock have a part in it. -/
def survey (disk : Disk) (given : Option Settings) (root : String) (yaml : Yaml.Reader := Yaml.load Settings.depth) :
    Except Failure Snapshot :=
  (settingsAt disk given root yaml).bind fun settings => (Snapshot.take disk settings root).value.mapError .survey

/-- The time to live that a workspace asks for, if there are settings to be read. -/
def asked? (disk : Disk) (root : String) (yaml : Yaml.Reader := Yaml.load Settings.depth) : Option Binary64 :=
  match disk.entry root.toList with
  | .ok (.folder _) => (Settings.load disk root.toList yaml).toOption.map fun settings => settings.cache.timeToLive
  | _ => none

/-- An analyzer that has read the settings of a workspace. A shared cache and given settings keep the time to live. -/
def adopting (disk : Disk) (analyzer : Analyzer) (root : String) : Analyzer :=
  if analyzer.ownsCache && analyzer.settings.isNone then
    { analyzer with
      cache := { analyzer.cache with timeToLive := (asked? disk root analyzer.yaml).getD analyzer.cache.timeToLive } }
  else analyzer

def storing (now : Rat) (analyzer : Analyzer) (root : String) (snapshot : Snapshot) : Analyzer :=
  { analyzer with cache := analyzer.cache.store now root snapshot }

variable {disk : Disk} {now : Rat} {analyzer : Analyzer} {root : String} {yaml : Yaml.Reader}

@[simp] theorem resolve_rootOf (path : String) : Path.resolve (rootOf path).toList = (rootOf path).toList := by
  simp [rootOf]

@[simp] theorem adopting_settings : (analyzer.adopting disk root).settings = analyzer.settings := by
  unfold adopting
  split <;> rfl

@[simp] theorem adopting_ownsCache : (analyzer.adopting disk root).ownsCache = analyzer.ownsCache := by
  unfold adopting
  split <;> rfl

@[simp] theorem adopting_yaml : (analyzer.adopting disk root).yaml = analyzer.yaml := by
  unfold adopting
  split <;> rfl

@[simp] theorem adopting_entry : (analyzer.adopting disk root).cache.entry = analyzer.cache.entry := by
  unfold adopting
  split <;> rfl

theorem adopting_of_none (silent : asked? disk root analyzer.yaml = none) : analyzer.adopting disk root = analyzer := by
  simp [adopting, silent]

theorem asked?_of_error {failure : Settings.Failure} (failed : Settings.load disk root.toList yaml = .error failure) :
    asked? disk root yaml = none := by
  unfold asked?
  split
  next => simp [failed, Except.toOption]
  next => rfl

theorem asked?_of_outside (outside : ∀ children, disk.entry root.toList ≠ .ok (.folder children)) :
    asked? disk root yaml = none := by
  unfold asked?
  split
  next children found => exact absurd found (outside children)
  next => rfl

theorem asked?_number {seconds : Binary64} (asks : asked? disk root yaml = some seconds) : seconds ≠ .nan := by
  unfold asked? at asks
  split at asks
  next children found =>
    cases loaded : Settings.load disk root.toList yaml with
    | error failure => simp [loaded, Except.toOption] at asks
    | ok settings =>
      obtain ⟨entries, -, same⟩ := Settings.timeToLive_load found loaded
      obtain rfl : settings.cache.timeToLive = seconds := by simpa [loaded, Except.toOption] using asks
      rw [same]
      cases stated : Settings.statedSeconds? entries with
      | none => exact Binary64.noConfusion
      | some seconds => exact Settings.statedSeconds?_number stated
  next => cases asks

theorem adopting_number (number : analyzer.cache.timeToLive ≠ .nan) :
    (analyzer.adopting disk root).cache.timeToLive ≠ .nan := by
  cases asks : asked? disk root analyzer.yaml with
  | none => rwa [adopting_of_none asks]
  | some seconds =>
    unfold adopting
    split
    next => simpa [asks] using asked?_number asks
    next => exact number

theorem settingsFor_value : (settingsFor disk analyzer root).value =
    (settingsAt disk analyzer.settings root analyzer.yaml, analyzer.adopting disk root) := by
  obtain ⟨cache, given, owned, yaml⟩ := analyzer
  cases given with
  | some settings => simp [settingsFor, settingsAt, adopting]
  | none =>
    simp only [settingsFor, settingsAt]
    split
    next long =>
      have outside : ∀ children, disk.entry root.toList ≠ .ok (.folder children) := by simp [long]
      rw [adopting_of_none (asked?_of_outside outside)]
      rfl
    next children found =>
      cases loaded : Settings.load disk root.toList yaml with
      | ok settings => cases owned <;> simp [adopting, asked?, found, loaded, Except.toOption]
      | error failure =>
        rw [adopting_of_none (asked?_of_error loaded)]
        dsimp only
        split <;> rfl
    next outside =>
      rw [adopting_of_none (asked?_of_outside outside)]
      rfl

theorem refresh_value : (refresh disk now analyzer root).value =
    match survey disk analyzer.settings root analyzer.yaml with
    | .ok snapshot => (.ok snapshot, (analyzer.adopting disk root).storing now root snapshot)
    | .error failure => (.error failure, analyzer.adopting disk root) := by
  simp only [refresh, survey, Logged.value_bind, settingsFor_value]
  cases settingsAt disk analyzer.settings root analyzer.yaml with
  | error failure => rfl
  | ok settings =>
    simp only [Except.bind, Logged.value_bind]
    cases (Snapshot.take disk settings root).value <;> rfl

/-- A hit changes nothing and looks at no file. -/
theorem analyze_hit {path : String} {snapshot : Snapshot}
    (hit : (analyzer.cache.get now (rootOf path)).value = some snapshot) :
    (analyze disk now analyzer path).value = (.ok ⟨snapshot, false⟩, analyzer) := by
  rw [rootOf] at hit
  simp only [analyze, Logged.value_bind, hit, Logged.value_pure]

theorem analyze_miss {path : String} (miss : (analyzer.cache.get now (rootOf path)).value = none) :
    (analyze disk now analyzer path).value =
      match survey disk analyzer.settings (rootOf path) analyzer.yaml with
      | .ok snapshot => (.ok ⟨snapshot, true⟩, (analyzer.adopting disk (rootOf path)).storing now (rootOf path) snapshot)
      | .error failure => (.error failure, analyzer.adopting disk (rootOf path)) := by
  rw [rootOf] at miss ⊢
  simp only [analyze, Logged.value_bind, miss, Logged.value_pure, refresh_value]
  split <;> rfl

/-! ## What an analysis can fail with -/

/-- What lets an analysis of a root go by its contract: the root has a location, and if it is a folder, no value of its
settings is unfit and a survey of it goes through. Given settings are never read again. -/
def Sound (disk : Disk) (given : Option Settings) (yaml : Yaml.Reader) (root : String) : Prop :=
  disk.entry root.toList ≠ .error .nameTooLong ∧
    ∀ children, disk.entry root.toList = .ok (.folder children) →
      (given = none → ∀ failure, ¬ Settings.Unfit disk root.toList yaml failure) ∧ Snapshot.Surveyable disk root

/-- A result that the contract announces: a snapshot, or the refusal of a root that is not there or is a file. -/
inductive Announced (disk : Disk) (root : String) : Except Failure Outcome → Prop where
  | found (outcome : Outcome) : Announced disk root (.ok outcome)
  | missing (gone : disk.entry root.toList = .error .missing ∨ disk.entry root.toList = .error .notFolder) :
      Announced disk root (.error (.survey (.listing (.missing root))))
  | notFolder {content : ByteArray} (held : disk.entry root.toList = .ok (.file content)) :
      Announced disk root (.error (.survey (.listing (.notFolder root))))

theorem announced_iff {result : Except Failure Outcome} (present : disk.entry root.toList ≠ .error .missing)
    (reached : disk.entry root.toList ≠ .error .notFolder)
    (noFile : ∀ content, disk.entry root.toList ≠ .ok (.file content)) :
    Announced disk root result ↔ ∃ outcome, result = .ok outcome := by
  constructor
  · rintro (outcome | gone | held)
    · exact ⟨outcome, rfl⟩
    · exact (gone.elim present reached).elim
    · exact (noFile _ held).elim
  · rintro ⟨outcome, rfl⟩
    exact .found outcome

theorem Sound.of_outside (short : disk.entry root.toList ≠ .error .nameTooLong)
    (outside : ∀ children, disk.entry root.toList ≠ .ok (.folder children)) (given : Option Settings) :
    Sound disk given yaml root :=
  ⟨short, fun children found => absurd found (outside children)⟩

theorem outside_of_gone (gone : disk.entry root.toList = .error .missing ∨ disk.entry root.toList = .error .notFolder) :
    disk.entry root.toList ≠ .error .nameTooLong ∧ ∀ children, disk.entry root.toList ≠ .ok (.folder children) := by
  rcases gone with gone | gone <;> simp [gone]

theorem outside_of_file {content : ByteArray} (held : disk.entry root.toList = .ok (.file content)) :
    disk.entry root.toList ≠ .error .nameTooLong ∧ ∀ children, disk.entry root.toList ≠ .ok (.folder children) := by
  simp [held]

theorem settingsAt_outside (short : disk.entry root.toList ≠ .error .nameTooLong)
    (outside : ∀ children, disk.entry root.toList ≠ .ok (.folder children)) (given : Option Settings) :
    ∃ settings, settingsAt disk given root yaml = .ok settings := by
  cases given with
  | some settings => exact ⟨settings, rfl⟩
  | none =>
    simp only [settingsAt, settingsFor]
    exact ⟨_, rfl⟩

theorem settingsAt_folder {children : List (String × Entry)} (found : disk.entry root.toList = .ok (.folder children))
    {failure : Failure} :
    settingsAt disk none root yaml = .error failure ↔
      ∃ unfit, failure = .settings unfit ∧ Settings.Unfit disk root.toList yaml unfit := by
  simp only [settingsAt, settingsFor, found, ← Settings.load_unfit_iff found]
  cases loaded : Settings.load disk root.toList yaml with
  | ok settings => simp
  | error unfit =>
    cases tolerated : unfit.isTolerated with
    | true => simp [tolerated]
    | false =>
      simp only [tolerated, Bool.false_eq_true, if_false, Except.error.injEq, Logged.value_pure]
      constructor
      · rintro rfl
        exact ⟨unfit, rfl, rfl, tolerated⟩
      · rintro ⟨other, rfl, rfl, -⟩
        rfl

section
variable (given : Option Settings) (resolved : Path.resolve root.toList = root.toList)
include resolved

theorem survey_missing (gone : disk.entry root.toList = .error .missing ∨ disk.entry root.toList = .error .notFolder) :
    survey disk given root yaml = .error (.survey (.listing (.missing root))) := by
  obtain ⟨short, outside⟩ := outside_of_gone gone
  obtain ⟨settings, same⟩ := settingsAt_outside short outside given
  rw [survey, same, Except.bind, Snapshot.take_missing settings resolved gone, Except.mapError]

theorem survey_file {content : ByteArray} (held : disk.entry root.toList = .ok (.file content)) :
    survey disk given root yaml = .error (.survey (.listing (.notFolder root))) := by
  obtain ⟨short, outside⟩ := outside_of_file held
  obtain ⟨settings, same⟩ := settingsAt_outside short outside given
  rw [survey, same, Except.bind, Snapshot.take_file settings resolved held, Except.mapError]

theorem survey_long (long : disk.entry root.toList = .error .nameTooLong) :
    survey disk given root yaml =
      .error (if given.isNone then .settings (.location .nameTooLong)
        else .survey (.listing (.unusable .nameTooLong))) := by
  cases given with
  | none => simp [survey, settingsAt, settingsFor, long, Except.bind]
  | some settings =>
    rw [survey, settingsAt, settingsFor, Logged.value_pure, Except.bind, Snapshot.take_long settings resolved long,
      Except.mapError]
    rfl

theorem folder_of_survey {snapshot : Snapshot} (surveyed : survey disk given root yaml = .ok snapshot) :
    ∃ children, disk.entry root.toList = .ok (.folder children) := by
  rcases disk.entry_cases root.toList with gone | long | ⟨content, held⟩ | folder
  · simp [survey_missing given resolved gone] at surveyed
  · simp [survey_long given resolved long] at surveyed
  · simp [survey_file given resolved held] at surveyed
  · exact folder

end

section
variable (given : Option Settings) (resolved : Path.resolve root.toList = root.toList)
  {children : List (String × Entry)} (found : disk.entry root.toList = .ok (.folder children))
include resolved found

theorem survey_sound (sound : Sound disk given yaml root) : ∃ snapshot, survey disk given root yaml = .ok snapshot := by
  obtain ⟨fits, surveyable⟩ := sound.2 children found
  have held : ∃ settings, settingsAt disk given root yaml = .ok settings := by
    cases given with
    | some settings => exact ⟨settings, rfl⟩
    | none =>
      cases read : settingsAt disk none root yaml with
      | ok settings => exact ⟨settings, rfl⟩
      | error failure =>
        obtain ⟨unfit, -, present⟩ := (settingsAt_folder found).mp read
        exact absurd present (fits rfl unfit)
  obtain ⟨settings, same⟩ := held
  obtain ⟨snapshot, taken⟩ := Snapshot.take_eq_ok settings resolved found surveyable
  exact ⟨snapshot, by rw [survey, same, Except.bind, taken, Except.mapError]⟩

/-- An unsound folder fails with its settings, or late in the survey. -/
theorem survey_unsound (unsound : ¬ Sound disk given yaml root) :
    (∃ unfit, survey disk given root yaml = .error (.settings unfit) ∧
        Settings.load disk root.toList yaml = .error unfit) ∨
      ∃ failure, survey disk given root yaml = .error (.survey failure) ∧ failure.isLate = true := by
  cases read : settingsAt disk given root yaml with
  | error failure =>
    cases given with
    | some settings => cases read
    | none =>
      obtain ⟨unfit, rfl, present⟩ := (settingsAt_folder found).mp read
      exact .inl ⟨unfit, by rw [survey, read, Except.bind], ((Settings.load_unfit_iff found).mpr present).1⟩
  | ok settings =>
    have blocked : ¬ Snapshot.Surveyable disk root := by
      intro surveyable
      refine unsound ⟨by simp [found], fun others _ => ⟨?_, surveyable⟩⟩
      rintro rfl unfit present
      have failed := (settingsAt_folder found).mpr ⟨unfit, rfl, present⟩
      simp [read] at failed
    obtain ⟨failure, failed, late⟩ := Snapshot.take_eq_error settings resolved found blocked
    exact .inr ⟨failure, by rw [survey, read, Except.bind, failed, Except.mapError], late⟩

theorem exists_survey_iff : (∃ snapshot, survey disk given root yaml = .ok snapshot) ↔ Sound disk given yaml root := by
  refine ⟨fun ⟨snapshot, surveyed⟩ => ?_, survey_sound given resolved found⟩
  by_contra unsound
  rcases survey_unsound given resolved found unsound with ⟨unfit, failed, -⟩ | ⟨failure, failed, -⟩
  · simp [failed] at surveyed
  · simp [failed] at surveyed

end

theorem survey_announced_iff (given : Option Settings) (resolved : Path.resolve root.toList = root.toList) :
    Announced disk root ((survey disk given root yaml).map fun snapshot => ⟨snapshot, true⟩) ↔
      Sound disk given yaml root := by
  rcases disk.entry_cases root.toList with gone | long | ⟨content, held⟩ | ⟨children, found⟩
  · obtain ⟨short, outside⟩ := outside_of_gone gone
    rw [survey_missing given resolved gone]
    exact iff_of_true (.missing gone) (.of_outside short outside given)
  · rw [survey_long given resolved long, announced_iff (by simp [long]) (by simp [long]) (by simp [long])]
    exact iff_of_false (by simp [Except.map]) fun sound => sound.1 long
  · obtain ⟨short, outside⟩ := outside_of_file held
    rw [survey_file given resolved held]
    exact iff_of_true (.notFolder held) (.of_outside short outside given)
  · rw [announced_iff (by simp [found]) (by simp [found]) (by simp [found]), ← exists_survey_iff given resolved found]
    cases survey disk given root yaml <;> simp [Except.map]

theorem analyze_announced {path : String} :
    Announced disk (rootOf path) (analyze disk now analyzer path).value.1 ↔
      (∃ snapshot, (analyzer.cache.get now (rootOf path)).value = some snapshot) ∨
        Sound disk analyzer.settings analyzer.yaml (rootOf path) := by
  cases kept : (analyzer.cache.get now (rootOf path)).value with
  | some snapshot =>
    rw [analyze_hit kept]
    exact iff_of_true (.found _) (.inl ⟨snapshot, rfl⟩)
  | none =>
    rw [analyze_miss kept]
    simp only [reduceCtorEq, exists_false, false_or, ← survey_announced_iff _ (resolve_rootOf path)]
    cases survey disk analyzer.settings (rootOf path) analyzer.yaml <;> rfl

/-! ## From any path -/

theorem rootOf_root {host : Host} {path : String} (rooted : host.root path = .ok root) : rootOf root = root := by
  rw [rootOf, Host.resolve_root rooted, String.ofList_toList]

/-- On any host a path from the top has a root, the one that its steps lead to. -/
theorem root_absolute (host : Host) {path : String} (top : path.toList.head? = some '/') (plain : '\x00' ∉ path.toList) :
    host.root path = .ok (rootOf path) := by
  have start : Path.lead path.toList ≠ [] := fun empty => Path.lead_eq_nil_iff.mp empty top
  have same : host.expand path.toList = .ok path.toList := by
    unfold Host.expand
    split
    next empty _ => exact absurd empty start
    next => rfl
  simp only [Host.root, same, bind, Except.bind, plain, if_false, Path.join, top, if_true]
  rfl

theorem analyzeFrom_absolute (host : Host) {path : String} (top : path.toList.head? = some '/')
    (plain : '\x00' ∉ path.toList) : analyzeFrom host disk now analyzer path = analyze disk now analyzer path := by
  simp only [analyzeFrom, root_absolute host top plain, analyze, rootOf, String.toList_ofList, Path.resolve_resolve]

/-- When an analysis goes by its contract: the path has a root, and either the cache still holds its snapshot, or the root
is sound. A path has none if it holds a zero character, or starts at the home of somebody who has none. An unsound root
has too long a location, values of its settings that stand for nothing, or an integer of its manifest with too many
digits. There are no links here, no limits on nesting but those of the reader of settings, and no rights but that of
listing a folder. -/
theorem analyzeFrom_announced_iff (host : Host) (disk : Disk) (now : Rat) (analyzer : Analyzer) (path : String) :
    (∃ root, host.root path = .ok root ∧ Announced disk root (analyzeFrom host disk now analyzer path).value.1) ↔
      ∃ root, host.root path = .ok root ∧
        ((∃ snapshot, (analyzer.cache.get now root).value = some snapshot) ∨
          Sound disk analyzer.settings analyzer.yaml root) := by
  refine exists_congr fun root => and_congr_right fun rooted => ?_
  have same := rootOf_root rooted
  have announced : Announced disk (rootOf root) (analyze disk now analyzer root).value.1 ↔ _ := analyze_announced
  rw [same] at announced
  rw [← announced, analyzeFrom, rooted]

/-- A workspace whose settings hold a date that is in no calendar, and ask for nothing by it. -/
def datedWorkspace : Disk := Disk.workspace [(Settings.fileName, "released: 2024-02-30\n")]

theorem not_announced_date :
    ¬ ∃ root, ({} : Host).root "/w" = .ok root ∧
      Announced datedWorkspace root (analyzeFrom {} datedWorkspace 0 (owning none) "/w").value.1 := by
  have refused : (match (analyzeFrom {} datedWorkspace 0 (owning none) "/w").value.1 with
      | .error (.settings (.document .day)) => true
      | _ => false) = true := by decide +kernel
  rintro ⟨root, -, announced⟩
  split at refused
  next same =>
    rw [same] at announced
    cases announced
  next => cases refused

/-! ## What an analysis leaves behind -/

/-- What a workspace has asked for when a survey of it went through: what its entries say, or nothing at all if its
document was passed over. -/
theorem asked?_of_survey {snapshot : Snapshot} (resolved : Path.resolve root.toList = root.toList)
    (surveyed : survey disk none root yaml = .ok snapshot) :
    asked? disk root yaml = (Settings.entriesAt disk root.toList yaml).toOption.map fun entries =>
      (Settings.statedSeconds? entries).getD (.finite false 30) := by
  obtain ⟨children, found⟩ := folder_of_survey none resolved surveyed
  cases loaded : Settings.load disk root.toList yaml with
  | ok settings =>
    obtain ⟨entries, read, same⟩ := Settings.timeToLive_load found loaded
    simp [asked?, found, loaded, read, same, Except.toOption]
  | error failure =>
    -- What is wrong with a single value is not passed over, so that no survey could have gone through.
    have tolerated : failure.isTolerated = true := by
      by_contra severe
      have unfit := (Settings.load_unfit_iff found).mp ⟨loaded, by simpa using severe⟩
      have failed := (settingsAt_folder found).mpr ⟨failure, rfl, unfit⟩
      simp [survey, failed, Except.bind] at surveyed
    rw [asked?_of_error loaded, Settings.entriesAt_of_tolerated found loaded tolerated]
    rfl

/-- A failure after the settings were taken over. -/
def Failure.isLate : Failure → Bool
  | survey failure => failure.isLate
  | .root _ | settings _ | score _ => false

/-- Before that, nothing is taken over: there is no folder, or there are no settings to be read. -/
theorem adopting_of_early {failure : Failure} (resolved : Path.resolve root.toList = root.toList)
    (failed : survey disk analyzer.settings root analyzer.yaml = .error failure) (early : failure.isLate = false) :
    analyzer.adopting disk root = analyzer := by
  by_cases folder : ∃ children, disk.entry root.toList = .ok (.folder children)
  · obtain ⟨children, found⟩ := folder
    by_cases sound : Sound disk analyzer.settings analyzer.yaml root
    · obtain ⟨snapshot, taken⟩ := survey_sound analyzer.settings resolved found sound
      simp [taken] at failed
    · rcases survey_unsound analyzer.settings resolved found sound with ⟨unfit, -, loaded⟩ | ⟨other, same, late⟩
      · exact adopting_of_none (asked?_of_error loaded)
      · obtain rfl : Failure.survey other = failure := by simpa [same] using failed
        simp [Failure.isLate, late] at early
  · exact adopting_of_none (asked?_of_outside (not_exists.mp folder))

/-- A failed analysis keeps the snapshot of the cache. It keeps the time to live as well, unless it fails late: then
that of the failed workspace stays behind. -/
theorem analyze_failed {path : String} {failure : Failure}
    (failed : (analyze disk now analyzer path).value.1 = .error failure) :
    let after := (analyze disk now analyzer path).value.2
    after.cache.entry = analyzer.cache.entry ∧
      after = if failure.isLate then analyzer.adopting disk (rootOf path) else analyzer := by
  intro after
  cases kept : (analyzer.cache.get now (rootOf path)).value with
  | some snapshot => simp [analyze_hit kept] at failed
  | none =>
    have value : (analyze disk now analyzer path).value = _ := analyze_miss kept
    cases surveyed : survey disk analyzer.settings (rootOf path) analyzer.yaml with
    | ok snapshot => simp [value, surveyed] at failed
    | error other =>
      rw [surveyed] at value
      obtain rfl : other = failure := by simpa [value] using failed
      have same : after = analyzer.adopting disk (rootOf path) := congrArg Prod.snd value
      rw [same]
      refine ⟨adopting_entry, ?_⟩
      cases late : other.isLate with
      | true => rfl
      | false => exact adopting_of_early (resolve_rootOf path) surveyed late

/-- An analyzer that holds the snapshot of a workspace. -/
def holding : Analyzer := (analyze (Disk.workspace [("index.ts", "")]) 0 (owning none) "/w").value.2

theorem analyze_failed_missing :
    holding.cache.entry.isSome = true ∧
      (analyze {} 1 holding "/gone").value.1 = .error (.survey (.listing (.missing (rootOf "/gone")))) ∧
      (analyze {} 1 holding "/gone").value.2 = holding := by
  have gone : ({} : Disk).entry (rootOf "/gone").toList = .error .missing := by
    rw [Disk.entry, if_neg (by decide)]
    rfl
  have foreign : (holding.cache.get 1 (rootOf "/gone")).value = none :=
    Option.isNone_iff_eq_none.mp (by decide +kernel)
  have failed : (analyze {} 1 holding "/gone").value.1 = .error (.survey (.listing (.missing (rootOf "/gone")))) := by
    rw [analyze_miss foreign, survey_missing _ (resolve_rootOf "/gone") (.inl gone)]
  exact ⟨by decide +kernel, failed, (analyze_failed failed).2⟩

/-- A workspace with a time to live of its own, whose manifest is an integer of 4301 digits. -/
def overlongWorkspace : Disk :=
  Disk.workspace [(Settings.fileName, "cache:\n  ttl_seconds: 5\n"),
    (Manifest.fileName, String.ofList ('1' :: List.replicate 4300 '0'))]

theorem load_overlongWorkspace : Manifest.load overlongWorkspace "/w" = .error (.longInteger 4301) := by
  have digits : ∀ c ∈ '1' :: List.replicate 4300 '0', c.isDigit = true :=
    List.forall_mem_cons.mpr ⟨rfl, fun c member => List.eq_of_mem_replicate member ▸ rfl⟩
  have size : (List.replicate 4300 '0').length = 4300 := List.length_replicate
  have plain : '\r' ∉ (String.ofList ('1' :: List.replicate 4300 '0')).toList := by
    rw [String.toList_ofList]
    exact fun member => absurd (digits _ member) (by decide)
  have refused := Json.read_digits digits (by decide) (by rw [size]; decide)
  rw [size] at refused
  exact Manifest.load_eq_error (Disk.read_workspace rfl (by decide) (by decide) (by decide) plain) refused

/-- Its settings are in force after the analysis has failed. -/
theorem analyze_failed_manifest :
    (analyze overlongWorkspace 0 (owning none) "/w").value.1 = .error (.survey (.manifest (.longInteger 4301))) ∧
      (analyze overlongWorkspace 0 (owning none) "/w").value.2.cache.timeToLive ≠ (owning none).cache.timeToLive := by
  have root : rootOf "/w" = "/w" := by decide
  have resolved : Path.resolve "/w".toList = "/w".toList := by decide
  have asks : asked? overlongWorkspace "/w" = some (.finite false 5) := by decide +kernel
  have failed : survey overlongWorkspace none "/w" = .error (.survey (.manifest (.longInteger 4301))) := by
    have fits : (settingsAt overlongWorkspace none "/w").isOk = true := by decide +kernel
    cases same : settingsAt overlongWorkspace none "/w" with
    | error failure => cases same ▸ fits
    | ok settings =>
      have taken : (Snapshot.take overlongWorkspace settings "/w").value = .error (.manifest (.longInteger 4301)) :=
        Snapshot.take_eq_manifest settings resolved (Disk.entry_workspace ..) load_overlongWorkspace
      rw [survey, same, Except.bind, taken, Except.mapError]
  have kept : ((owning none).cache.get 0 (rootOf "/w")).value = none := rfl
  have given : (owning none).settings = none := rfl
  have reader : (owning none).yaml = Yaml.load Settings.depth := rfl
  rw [analyze_miss kept, root, given, reader, failed]
  refine ⟨rfl, ?_⟩
  have taken : (adopting overlongWorkspace (owning none) "/w").cache.timeToLive = .finite false 5 := by
    rw [adopting, reader, asks]
    rfl
  rw [taken]
  decide

end Surveyor.Analyzer
