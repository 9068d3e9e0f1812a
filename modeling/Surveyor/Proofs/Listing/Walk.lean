import Mathlib.Data.List.Infix
import Mathlib.Data.List.Nodup
import Mathlib.Data.String.Basic
import Surveyor.Listing
import Surveyor.Proofs.Sequence

/-! A listing as a filter over the whole tree. Folders that are kept out or cannot be listed are never entered, and names
are only sorted among those that stay; this comes to the same as a walk over all files from which the unwanted ones are
taken. -/

namespace Surveyor.Listing
open Sequence

mutual

/-- All files at and below an entry, each as the names that lead to it: those of a folder itself, then those below each
of its folders, always in the order of their names. -/
def walk : Entry → List (List String)
  | .file _ => []
  | .folder children =>
    (byName (children.filter (·.2.isFile))).map (fun child => [child.1]) ++
      (byName (walkFolders children)).flatMap fun (name, inner) => inner.map (name :: ·)

def walkFolders : List (String × Entry) → List (String × List (List String))
  | [] => []
  | (_, .file _) :: rest => walkFolders rest
  | (name, .folder children) :: rest => (name, walk (.folder children)) :: walkFolders rest

end

def pathOf (names : List String) : String := "/".intercalate names

def excluded (rules : List IgnoreRule) (names : List String) (isFolder : Bool) : Bool :=
  rules.any (·.excludes (pathOf names) isFolder)

/-- Whether nothing keeps a file out: neither its own name or path, nor those of a folder on the way to it. -/
def Kept (rules : List IgnoreRule) (names : List String) : Prop :=
  names.getLastD "" ∉ foreignFiles ∧ excluded rules names false = false ∧
    ∀ folder ∈ names.inits, folder ≠ [] → folder ≠ names →
      folder.getLastD "" ∉ foreignFolders ∧ excluded rules folder true = false

instance (rules : List IgnoreRule) (names : List String) : Decidable (Kept rules names) :=
  inferInstanceAs (Decidable (_ ∧ _ ∧ _))

/-! ## The order of names -/

theorem byName_perm {α : Type} (entries : List (String × α)) : (byName entries).Perm entries :=
  List.mergeSort_perm ..

@[simp] theorem mem_byName {α : Type} {entries : List (String × α)} {entry : String × α} :
    entry ∈ byName entries ↔ entry ∈ entries := (byName_perm entries).mem_iff

theorem mem_of_mem_byName {α : Type} {entries : List (String × α)} {keeps : String × α → Bool} {entry : String × α}
    (member : entry ∈ byName (entries.filter keeps)) : entry ∈ entries := (List.mem_filter.mp (mem_byName.mp member)).1

theorem byName_map {α β : Type} (f : String × α → β) (entries : List (String × α)) :
    byName (entries.map fun entry => (entry.1, f entry)) = (byName entries).map fun entry => (entry.1, f entry) := by
  symm
  apply List.map_mergeSort
  intro a _ b _
  rfl

theorem byName_sorted {α : Type} (entries : List (String × α)) : (byName entries).Pairwise fun a b => a.1 ≤ b.1 := by
  have sorted := @List.pairwise_mergeSort (String × α) (fun a b => a.1 ≤ b.1)
    (fun a b c first second => by simpa using le_trans (of_decide_eq_true first) (of_decide_eq_true second))
    (fun a b => by simpa using le_total a.1 b.1) entries
  exact sorted.imp fun before => of_decide_eq_true before

/-- Distinct names have one order only, so it makes no difference when entries are left out. -/
theorem byName_filter {α : Type} {entries : List (String × α)} (distinct : (entries.map (·.1)).Nodup)
    (keeps : String × α → Bool) : byName (entries.filter keeps) = (byName entries).filter keeps := by
  refine List.Perm.eq_of_pairwise ?_ (byName_sorted _) ((byName_sorted entries).filter keeps)
    ((byName_perm _).trans ((byName_perm entries).filter keeps).symm)
  intro a b first second low high
  have left := (List.mem_filter.mp (mem_byName.mp first)).1
  have right := mem_byName.mp (List.mem_filter.mp second).1
  exact List.inj_on_of_nodup_map distinct left right (le_antisymm low high)

/-! ## Folders -/

theorem walkFolders_eq (children : List (String × Entry)) :
    walkFolders children = (children.filter (·.2.isFolder)).map fun child => (child.1, walk child.2) := by
  induction children with
  | nil => rfl
  | cons child rest ih =>
    obtain ⟨name, entry⟩ := child
    cases entry with
    | file content => simpa [walkFolders, Entry.isFolder] using ih
    | folder inner => simp [walkFolders, Entry.isFolder, ih]

theorem walk_folder (children : List (String × Entry)) :
    walk (.folder children) = (byName (children.filter (·.2.isFile))).map (fun child => [child.1]) ++
      (byName (children.filter (·.2.isFolder))).flatMap fun child => (walk child.2).map (child.1 :: ·) := by
  rw [walk, walkFolders_eq, byName_map, List.flatMap_map]

section
variable {rules : List IgnoreRule} {unlistable? : String → Option Fault}

theorem visitsOfFolders_eq (path : String) (children : List (String × Entry)) :
    visitsOfFolders rules unlistable? path children =
      ((children.filter (·.2.isFolder)).filter fun child => keepsFolder rules path child.1).map
        fun child => (child.1, visits rules unlistable? (below path child.1) child.2) := by
  induction children with
  | nil => rfl
  | cons child rest ih =>
    obtain ⟨name, entry⟩ := child
    cases entry with
    | file content => simpa [visitsOfFolders, Entry.isFolder] using ih
    | folder inner =>
      by_cases kept : keepsFolder rules path name
      · simp [visitsOfFolders, Entry.isFolder, kept, ih]
      · simp [visitsOfFolders, Entry.isFolder, kept, ih]

/-- The files that a walk meets. -/
def met (rules : List IgnoreRule) (unlistable? : String → Option Fault) (path : String) (tree : Entry) : List String :=
  (visits rules unlistable? path tree).filterMap Visit.file?

theorem met_closed {path : String} {fault : Fault} (closed : unlistable? path = some fault)
    (children : List (String × Entry)) : met rules unlistable? path (.folder children) = [] := by
  rw [met, visits, closed]
  rfl

theorem met_folder {path : String} (listed : unlistable? path = none) {children : List (String × Entry)}
    (distinct : (children.map (·.1)).Nodup) :
    met rules unlistable? path (.folder children) = ownFiles rules path children ++
      (byName (children.filter (·.2.isFolder))).flatMap fun child =>
        if keepsFolder rules path child.1 then met rules unlistable? (below path child.1) child.2 else [] := by
  have distinct : ((children.filter (·.2.isFolder)).map (·.1)).Nodup := distinct.sublist (List.filter_sublist.map _)
  have own : (Visit.file? ∘ Visit.file) = some := rfl
  rw [met, visits, listed]
  simp only [List.filterMap_append, List.filterMap_map, own, List.filterMap_some]
  rw [visitsOfFolders_eq, byName_map, byName_filter distinct, List.flatMap_map, flatMap_filter, List.filterMap_flatMap]
  congr 1
  apply List.flatMap_congr
  intro child _
  split <;> rfl

end

theorem walk_ne_nil {tree : Entry} {names : List String} (member : names ∈ walk tree) : names ≠ [] := by
  cases tree with
  | file content => simp [walk] at member
  | folder children =>
    rw [walk_folder] at member
    rcases List.mem_append.mp member with own | inner
    · obtain ⟨child, -, rfl⟩ := List.mem_map.mp own
      simp
    · obtain ⟨child, -, inside⟩ := List.mem_flatMap.mp inner
      obtain ⟨rest, -, rfl⟩ := List.mem_map.mp inside
      simp

/-! ## What is kept below a folder -/

/-- What is asked of a file when the folders above it are known to be kept. -/
def KeptUnder (rules : List IgnoreRule) (above names : List String) : Prop :=
  names.getLastD "" ∉ foreignFiles ∧ excluded rules (above ++ names) false = false ∧
    ∀ folder ∈ names.inits, folder ≠ [] → folder ≠ names →
      folder.getLastD "" ∉ foreignFolders ∧ excluded rules (above ++ folder) true = false

instance (rules : List IgnoreRule) (above names : List String) : Decidable (KeptUnder rules above names) :=
  inferInstanceAs (Decidable (_ ∧ _ ∧ _))

/-- What is asked of the folders around a file when those further up can be listed. -/
def OpenUnder (unlistable? : String → Option Fault) (above names : List String) : Prop :=
  ∀ folder ∈ names.inits, folder ≠ names → unlistable? (pathOf (above ++ folder)) = none

instance (unlistable? : String → Option Fault) (above names : List String) :
    Decidable (OpenUnder unlistable? above names) := inferInstanceAs (Decidable (∀ _ ∈ _, _))

theorem pathOf_filled {names : List String} (proper : ∀ name ∈ names, Entry.IsName name) (filled : names ≠ []) :
    (pathOf names).isEmpty = false := by
  obtain ⟨first, rest, rfl⟩ := List.exists_cons_of_ne_nil filled
  have named : first ≠ "" := fun same => (proper first (by simp)).1 (by simp [same])
  by_cases alone : rest = []
  · simpa [alone, pathOf, String.intercalate_singleton] using named
  · simp [pathOf, String.intercalate_cons_of_ne_nil alone, named]

theorem pathOf_concat {above : List String} (proper : ∀ name ∈ above, Entry.IsName name) (name : String) :
    pathOf (above ++ [name]) = below (pathOf above) name := by
  by_cases top : above = []
  · simp [top, pathOf, below, String.intercalate_singleton, String.intercalate_nil]
  · rw [below, pathOf_filled proper top, pathOf, String.intercalate_append_of_ne_nil top (by simp),
      String.intercalate_singleton]
    rfl

theorem keptUnder_singleton {rules : List IgnoreRule} {above : List String}
    (proper : ∀ name ∈ above, Entry.IsName name) (name : String) :
    KeptUnder rules above [name] ↔ keepsFile rules (pathOf above) name = true := by
  simp [KeptUnder, keepsFile, excluded, pathOf_concat proper]

/-- A file below a folder is kept when the folder is and, from there, the file. -/
theorem keptUnder_cons {rules : List IgnoreRule} {above : List String} (proper : ∀ name ∈ above, Entry.IsName name)
    {name : String} {names : List String} (filled : names ≠ []) :
    KeptUnder rules above (name :: names) ↔
      keepsFolder rules (pathOf above) name = true ∧ KeptUnder rules (above ++ [name]) names := by
  have last {names : List String} (filled : names ≠ []) : (name :: names).getLastD "" = names.getLastD "" := by
    obtain ⟨first, rest, rfl⟩ := List.exists_cons_of_ne_nil filled
    simp
  have own : keepsFolder rules (pathOf above) name = true ↔
      name ∉ foreignFolders ∧ excluded rules (above ++ [name]) true = false := by
    simp [keepsFolder, excluded, pathOf_concat proper]
  rw [own]
  constructor
  · rintro ⟨named, free, above⟩
    have top := above [name] (by simp [List.mem_inits]) (by simp) (by simpa using filled.symm)
    refine ⟨top, last filled ▸ named, by simpa using free, fun folder inside proper short => ?_⟩
    have inner := above (name :: folder) (by simpa using inside) (by simp) (by simpa using short)
    rw [last proper] at inner
    simpa using inner
  · rintro ⟨top, named, free, inner⟩
    refine ⟨(last filled).symm ▸ named, by simpa using free, fun folder inside proper short => ?_⟩
    cases folder with
    | nil => exact absurd rfl proper
    | cons first folder =>
      obtain ⟨deeper, rfl⟩ : folder ∈ names.inits ∧ name = first := by simpa using inside
      by_cases direct : folder = []
      · simpa [direct] using top
      · rw [last direct]
        simpa using inner folder deeper direct (by simpa using short)

section
variable {unlistable? : String → Option Fault} {above : List String}

theorem openUnder_singleton (name : String) :
    OpenUnder unlistable? above [name] ↔ unlistable? (pathOf above) = none := by
  simp [OpenUnder]

theorem openUnder_cons {name : String} {names : List String} :
    OpenUnder unlistable? above (name :: names) ↔
      unlistable? (pathOf above) = none ∧ OpenUnder unlistable? (above ++ [name]) names := by
  simp [OpenUnder]

theorem unlistable?_of_openUnder {names : List String} (filled : names ≠ [])
    (isOpen : OpenUnder unlistable? above names) : unlistable? (pathOf above) = none := by
  obtain ⟨name, rest, rfl⟩ := List.exists_cons_of_ne_nil filled
  exact (openUnder_cons.mp isOpen).1

end

private theorem ownFiles_eq {rules : List IgnoreRule} {unlistable? : String → Option Fault} {above : List String}
    (proper : ∀ name ∈ above, Entry.IsName name) (listed : unlistable? (pathOf above) = none)
    (children : List (String × Entry)) :
    ownFiles rules (pathOf above) children =
      (((byName (children.filter (·.2.isFile))).map fun child => [child.1]).filter
        fun names => KeptUnder rules above names ∧ OpenUnder unlistable? above names).map
          fun names => pathOf (above ++ names) := by
  unfold ownFiles
  induction byName (children.filter (·.2.isFile)) with
  | nil => rfl
  | cons child rest ih =>
    by_cases kept : keepsFile rules (pathOf above) child.1
    · simp [kept, listed, keptUnder_singleton proper, openUnder_singleton, pathOf_concat proper, ih]
    · simp [kept, keptUnder_singleton proper, ih]

/-- Leaving folders out on the way down comes to the same as asking each file for all folders above it. -/
theorem met_eq (rules : List IgnoreRule) (unlistable? : String → Option Fault) {tree : Entry} (valid : tree.Valid)
    {above : List String} (proper : ∀ name ∈ above, Entry.IsName name) :
    met rules unlistable? (pathOf above) tree =
      ((walk tree).filter fun names => KeptUnder rules above names ∧ OpenUnder unlistable? above names).map
        fun names => pathOf (above ++ names) := by
  induction valid generalizing above with
  | file content => rfl
  | @folder children distinct named inner ih =>
    cases listed : unlistable? (pathOf above) with
    | some fault =>
      have none : (walk (.folder children)).filter
          (fun names => KeptUnder rules above names ∧ OpenUnder unlistable? above names) = [] := by
        apply List.filter_eq_nil_iff.mpr
        intro names inside both
        have isOpen := unlistable?_of_openUnder (walk_ne_nil inside) (of_decide_eq_true both).2
        simp [listed] at isOpen
      rw [met_closed listed, none, List.map_nil]
    | none =>
      rw [met_folder listed distinct, walk_folder, List.filter_append, List.map_append,
        ownFiles_eq proper listed, List.filter_flatMap, List.map_flatMap]
      congr 1
      apply List.flatMap_congr
      intro child member
      have present : child ∈ children := mem_of_mem_byName member
      have deeper : ∀ name ∈ above ++ [child.1], Entry.IsName name := by
        intro name inside
        rcases List.mem_append.mp inside with old | new
        · exact proper name old
        · exact List.mem_singleton.mp new ▸ named child present
      have below : (walk child.2).filter
            ((fun names => decide (KeptUnder rules above names ∧ OpenUnder unlistable? above names)) ∘ (child.1 :: ·)) =
          (walk child.2).filter fun names => keepsFolder rules (pathOf above) child.1 &&
            decide (KeptUnder rules (above ++ [child.1]) names ∧ OpenUnder unlistable? (above ++ [child.1]) names) := by
        apply List.filter_congr
        intro names inside
        rw [Function.comp_apply, Bool.eq_iff_iff, decide_eq_true_iff, keptUnder_cons proper (walk_ne_nil inside),
          openUnder_cons]
        simp [listed, and_assoc]
      rw [← pathOf_concat proper, ih child present deeper, List.filter_map, List.map_map, below]
      split
      next kept => simp [kept, Function.comp_def]
      next kept => simp [kept]

/-! ## Paths tell files apart -/

theorem pathOf_injective {a b : List String} (properA : ∀ name ∈ a, Entry.IsName name)
    (properB : ∀ name ∈ b, Entry.IsName name) (filledA : a ≠ []) (filledB : b ≠ []) (same : pathOf a = pathOf b) :
    a = b := by
  have split {names : List String} (proper : ∀ name ∈ names, Entry.IsName name) (filled : names ≠ []) :
      (pathOf names).toList.splitOn '/' = names.map String.toList := by
    rw [pathOf, String.toList_intercalate]
    apply List.splitOn_intercalate '/' _ (by simpa using filled)
    intro part member
    obtain ⟨name, inside, rfl⟩ := List.mem_map.mp member
    exact (proper name inside).2.1
  have parts : a.map String.toList = b.map String.toList := by
    rw [← split properA filledA, ← split properB filledB, same]
  exact List.map_injective_iff.mpr (fun _ _ => String.toList_inj.mp) parts

theorem met_eq_walk (rules : List IgnoreRule) (unlistable? : String → Option Fault) {tree : Entry} (valid : tree.Valid) :
    met rules unlistable? "" tree =
      ((walk tree).filter fun names => Kept rules names ∧ OpenUnder unlistable? [] names).map pathOf := by
  have inside : ∀ name ∈ ([] : List String), Entry.IsName name := by simp
  have top := met_eq rules unlistable? valid inside
  rwa [pathOf, String.intercalate_nil] at top

end Surveyor.Listing
