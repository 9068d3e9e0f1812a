import Surveyor.Proofs.Environment
import Surveyor.Proofs.Listing.Scan
import Surveyor.Proofs.Location
import Surveyor.Snapshot

/-! When a survey yields a snapshot. Files that are missing, unreadable or malformed leave their part of it empty. What
is left to fail are the root itself, an integer of the manifest with too many digits, and a root so deep that the files
which are looked for by name have no locations. -/

namespace Surveyor

namespace Manifest

/-- There is a manifest or none, unless an integer has too many digits. -/
theorem exists_load_eq_ok {disk : Disk} {root : String} :
    (∃ manifest, load disk root = .ok manifest) ↔
      ∀ text, disk.read (Path.locate root.toList fileName.toList) = .ok text → Json.overlong? text = none := by
  unfold load
  cases disk.read (Path.locate root.toList fileName.toList) with
  | error => simp
  | ok text =>
    simp only [Except.ok.injEq, forall_eq', Json.read]
    cases Json.overlong? text with
    | some digits => simp
    | none =>
      simp only [iff_true]
      cases Json.parse? text with
      | none => exact ⟨none, rfl⟩
      | some value =>
        dsimp only
        split
        next field fields _ => exact ⟨some (ofFields (field :: fields)), rfl⟩
        next => exact ⟨none, rfl⟩
        next => exact ⟨none, rfl⟩
        next same => cases same

theorem load_eq_error {disk : Disk} {root text : String} {digits : Nat}
    (held : disk.read (Path.locate root.toList fileName.toList) = .ok text)
    (refused : Json.read text = .error (.longInteger digits)) : load disk root = .error (.longInteger digits) := by
  unfold load
  rw [held]
  simp only [refused]

end Manifest

namespace Readme

theorem loadFirst_eq_error {disk : Disk} {root name : String} (rest : List String)
    (long : disk.entry (Path.locate root.toList name.toList) = .error .nameTooLong) :
    (loadFirst disk root (name :: rest)).value = .error .nameTooLong := by
  simp only [loadFirst, long]
  rfl

theorem loadFirst_eq_ok {disk : Disk} {root : String} {names : List String}
    (short : ∀ name ∈ names, disk.entry (Path.locate root.toList name.toList) ≠ .error .nameTooLong) :
    ∃ readme, (loadFirst disk root names).value = .ok readme := by
  induction names with
  | nil => exact ⟨none, rfl⟩
  | cons name rest ih =>
    obtain ⟨readme, later⟩ := ih fun other member => short other (List.mem_cons_of_mem _ member)
    simp only [loadFirst]
    split
    next long => exact absurd long (short name List.mem_cons_self)
    next =>
      split
      next text _ => exact ⟨some (summary text), rfl⟩
      next => exact ⟨readme, later⟩
    next => exact ⟨readme, later⟩

end Readme

namespace Snapshot

/-- What lets the survey of a folder through: no integer of its manifest has too many digits, and the files that are
looked for by their names have locations. -/
structure Surveyable (disk : Disk) (root : String) : Prop where
  manifest : ∀ text, disk.read (Path.locate root.toList Manifest.fileName.toList) = .ok text →
    Json.overlong? text = none
  sought : ∀ name ∈ Readme.fileNames ++ Environment.fileNames,
    disk.entry (Path.locate root.toList name.toList) ≠ .error .nameTooLong

/-- A survey can fail after it has listed the workspace. -/
def Failure.isLate : Failure → Bool
  | listing _ => false
  | manifest _ | location _ => true

variable {disk : Disk} (settings : Settings)

theorem ofManifest_eq_ok {listing : Listing} (manifest : Option Manifest)
    (sought : ∀ name ∈ Readme.fileNames ++ Environment.fileNames,
      disk.entry (Path.locate listing.root.toList name.toList) ≠ .error .nameTooLong) :
    ∃ snapshot, (ofManifest disk settings listing manifest).value = .ok snapshot := by
  obtain ⟨readme, described⟩ := Readme.loadFirst_eq_ok fun name member => sought name (List.mem_append_left _ member)
  obtain ⟨texts, declared⟩ := Environment.textsOf_eq_ok fun name member => sought name (List.mem_append_right _ member)
  unfold ofManifest
  -- Whether metrics are measured makes no difference to what follows.
  split
  all_goals
    simp only [Readme.load, Environment.load, Logged.value_bind, described, declared, Except.map, Logged.value_pure]
    exact ⟨_, rfl⟩

theorem ofManifest_eq_error {listing : Listing} (manifest : Option Manifest)
    (far : (Readme.load disk listing.root).value = .error .nameTooLong ∨
      (Environment.load disk listing.root).value = .error .nameTooLong) :
    ∃ fault, (ofManifest disk settings listing manifest).value = .error (.location fault) := by
  unfold ofManifest
  split
  all_goals
    cases readme : (Readme.load disk listing.root).value with
    | error fault =>
      simp only [Logged.value_bind, readme, Logged.value_pure]
      exact ⟨fault, rfl⟩
    | ok text =>
      have declared := far.resolve_left (by simp [readme])
      simp only [Logged.value_bind, readme, declared, Logged.value_pure]
      exact ⟨.nameTooLong, rfl⟩

/-- The names of a readme are of one size, so that the first of them is too long if any is. -/
theorem load_readme_eq_error {path : List Char} {children : List (String × Entry)} {name : String}
    (found : disk.entry (Path.resolve path) = .ok (.folder children)) (member : name ∈ Readme.fileNames)
    (long : disk.entry (Path.locate (Path.resolve path) name.toList) = .error .nameTooLong) :
    (Readme.load disk (String.ofList (Path.resolve path))).value = .error .nameTooLong := by
  have measured : ∀ name ∈ Readme.fileNames, Path.IsInward name.toList ∧ name.utf8ByteSize = 9 := by decide
  have limit : 9 ≤ Entry.nameLimit := by decide
  obtain ⟨inward, size⟩ := measured name member
  obtain ⟨inwardFirst, sizeFirst⟩ := measured "README.md" (by decide)
  have equal := Path.locate_size path inward inwardFirst (size.trans sizeFirst.symm)
  have first : disk.entry (Path.locate (Path.resolve path) "README.md".toList) = .error .nameTooLong := by
    rw [Disk.entry_locate_nameTooLong found inward (by omega)] at long
    rw [Disk.entry_locate_nameTooLong found inwardFirst (by omega), ← equal]
    exact long
  rw [Readme.load, Readme.fileNames]
  apply Readme.loadFirst_eq_error
  rw [String.toList_ofList]
  exact first

theorem ofListing_eq_ok {listing : Listing} (surveyable : Surveyable disk listing.root) :
    ∃ snapshot, (ofListing disk settings listing).value = .ok snapshot := by
  obtain ⟨manifest, loaded⟩ := Manifest.exists_load_eq_ok.mpr surveyable.manifest
  unfold ofListing
  rw [loaded]
  exact ofManifest_eq_ok settings manifest surveyable.sought

theorem ofListing_eq_error {listing : Listing} {path : List Char} {children : List (String × Entry)}
    (found : disk.entry (Path.resolve path) = .ok (.folder children))
    (root : listing.root = String.ofList (Path.resolve path)) (blocked : ¬ Surveyable disk listing.root) :
    ∃ failure, (ofListing disk settings listing).value = .error failure ∧ failure.isLate = true := by
  unfold ofListing
  cases loaded : Manifest.load disk listing.root with
  | error fault => exact ⟨.manifest fault, rfl, rfl⟩
  | ok manifest =>
    have far : ∃ name ∈ Readme.fileNames ++ Environment.fileNames,
        disk.entry (Path.locate listing.root.toList name.toList) = .error .nameTooLong := by
      by_contra! near
      exact blocked ⟨Manifest.exists_load_eq_ok.mp ⟨manifest, loaded⟩, near⟩
    obtain ⟨name, member, long⟩ := far
    have ended : (Readme.load disk listing.root).value = .error .nameTooLong ∨
        (Environment.load disk listing.root).value = .error .nameTooLong := by
      rcases List.mem_append.mp member with readme | environment
      · rw [root, String.toList_ofList] at long
        exact .inl (root ▸ load_readme_eq_error found readme long)
      · have texts := Environment.textsOf_eq_error ⟨name, environment, long⟩
        exact .inr (by simp [Environment.load, texts, Except.map])
    obtain ⟨fault, failed⟩ := ofManifest_eq_error settings manifest ended
    exact ⟨.location fault, failed, rfl⟩

/-! ## The whole survey, by what stands at the root -/

section
variable {root : String} (resolved : Path.resolve root.toList = root.toList)
include resolved

theorem take_missing (gone : disk.entry root.toList = .error .missing ∨ disk.entry root.toList = .error .notFolder) :
    (take disk settings root).value = .error (.listing (.missing root)) := by
  rcases gone with gone | gone <;> simp only [take, Listing.scan, Listing.scanAt, resolved, gone] <;> rfl

theorem take_file {content : ByteArray} (found : disk.entry root.toList = .ok (.file content)) :
    (take disk settings root).value = .error (.listing (.notFolder root)) := by
  simp only [take, Listing.scan, Listing.scanAt, resolved, found]
  rfl

theorem take_long (long : disk.entry root.toList = .error .nameTooLong) :
    (take disk settings root).value = .error (.listing (.unusable .nameTooLong)) := by
  simp only [take, Listing.scan, Listing.scanAt, resolved, long]
  rfl

theorem scan_folder {children : List (String × Entry)} (found : disk.entry root.toList = .ok (.folder children))
    (rules : List IgnoreRule) (cap : Int) :
    ∃ listing : Listing, listing.root = root ∧ (Listing.scan disk rules cap root).value = .ok listing := by
  rw [Listing.scan, resolved]
  exact ⟨_, String.ofList_toList, Listing.scanAt_folder found rules cap root⟩

theorem take_folder {children : List (String × Entry)} (found : disk.entry root.toList = .ok (.folder children)) :
    ∃ listing : Listing, listing.root = root ∧
      (take disk settings root).value = (ofListing disk settings listing).value := by
  obtain ⟨listing, rooted, scanned⟩ := scan_folder resolved found
    (settings.scan.excludePaths.filterMap IgnoreRule.parse?) settings.scan.maxFiles
  refine ⟨listing, rooted, ?_⟩
  simp only [take, Logged.value_bind, scanned]

theorem take_eq_manifest {children : List (String × Entry)} {fault : Json.Fault}
    (found : disk.entry root.toList = .ok (.folder children)) (loaded : Manifest.load disk root = .error fault) :
    (take disk settings root).value = .error (.manifest fault) := by
  obtain ⟨listing, rfl, same⟩ := take_folder settings resolved found
  unfold ofListing at same
  rw [same, loaded]
  rfl

theorem take_eq_ok {children : List (String × Entry)} (found : disk.entry root.toList = .ok (.folder children))
    (surveyable : Surveyable disk root) : ∃ snapshot, (take disk settings root).value = .ok snapshot := by
  obtain ⟨listing, rfl, same⟩ := take_folder settings resolved found
  rw [same]
  exact ofListing_eq_ok settings surveyable

theorem take_eq_error {children : List (String × Entry)} (found : disk.entry root.toList = .ok (.folder children))
    (blocked : ¬ Surveyable disk root) :
    ∃ failure, (take disk settings root).value = .error failure ∧ failure.isLate = true := by
  obtain ⟨listing, rfl, same⟩ := take_folder settings resolved found
  rw [same]
  refine ofListing_eq_error settings (resolved ▸ found) ?_ blocked
  rw [resolved, String.ofList_toList]

end

end Snapshot

end Surveyor
