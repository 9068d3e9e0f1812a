import Surveyor.Proofs.Listing.Walk
import Surveyor.Proofs.Path.Joining
import Surveyor.Proofs.Tree

/-! What a scan lists: of the files that nothing keeps out and whose folders can all be listed, the first ones up to the
cap. Which file comes first is said of any two files by themselves, so that there is only one such list. -/

namespace Surveyor

theorem Host.resolve_root {host : Host} {path root : String} (rooted : host.root path = .ok root) :
    Path.resolve root.toList = root.toList := by
  unfold Host.root at rooted
  cases expanded : host.expand path.toList with
  | error fault => simp [expanded, bind, Except.bind] at rooted
  | ok expansion =>
    simp only [expanded, bind, Except.bind] at rooted
    split at rooted
    next => cases rooted
    next =>
      cases rooted
      simp

namespace Listing
open Entry (HasFile)

theorem mem_walk {tree : Entry} (valid : tree.Valid) {names : List String} (filled : names ≠ []) :
    names ∈ walk tree ↔ HasFile tree names := by
  induction valid generalizing names with
  | file content => simp [walk, filled]
  | @folder children distinct named inner ih =>
    obtain ⟨name, rest, rfl⟩ := List.exists_cons_of_ne_nil filled
    rw [walk_folder, List.mem_append, Entry.hasFile_cons]
    constructor
    · rintro (own | below)
      · obtain ⟨⟨other, entry⟩, member, same⟩ := List.mem_map.mp own
        obtain ⟨present, isFile⟩ := List.mem_filter.mp (mem_byName.mp member)
        cases same
        cases entry with
        | file content => exact ⟨_, present, .here content⟩
        | folder _ => cases isFile
      · obtain ⟨child, member, inside⟩ := List.mem_flatMap.mp below
        obtain ⟨names, further, same⟩ := List.mem_map.mp inside
        cases same
        have present := mem_of_mem_byName member
        exact ⟨_, present, (ih child present (walk_ne_nil further)).mp further⟩
    · rintro ⟨entry, present, further⟩
      by_cases last : rest = []
      · subst last
        have isFile : entry.isFile = true := by cases further; rfl
        exact .inl (List.mem_map.mpr ⟨_, mem_byName.mpr (List.mem_filter.mpr ⟨present, isFile⟩), rfl⟩)
      · have isFolder : entry.isFolder = true := by
          cases further with
          | here => exact absurd rfl last
          | inner => rfl
        have member : (name, entry) ∈ byName (children.filter (·.2.isFolder)) :=
          mem_byName.mpr (List.mem_filter.mpr ⟨present, isFolder⟩)
        exact .inr (List.mem_flatMap.mpr ⟨_, member, List.mem_map_of_mem ((ih _ present last).mpr further)⟩)

theorem mem_walk_folder {children : List (String × Entry)} (valid : (Entry.folder children).Valid)
    {names : List String} : names ∈ walk (.folder children) ↔ HasFile (.folder children) names := by
  by_cases filled : names = []
  · subst filled
    exact iff_of_false (fun member => walk_ne_nil member rfl) Entry.not_hasFile_nil
  · exact mem_walk valid filled

/-! ## The order of files -/

/-- Which of two files comes first, by the names that lead to them. In a folder its own files come before those of its
folders, and both come in the order of their names. -/
def Precedes : List String → List String → Prop
  | [file], [other] => file < other
  | [_], _ :: _ :: _ => True
  | folder :: inner :: rest, other :: further :: more =>
    folder < other ∨ folder = other ∧ Precedes (inner :: rest) (further :: more)
  | _, _ => False

theorem precedes_cons {folder other : String} {names others : List String} (filled : names ≠ [])
    (otherFilled : others ≠ []) :
    Precedes (folder :: names) (other :: others) ↔ folder < other ∨ folder = other ∧ Precedes names others := by
  obtain ⟨first, rest, rfl⟩ := List.exists_cons_of_ne_nil filled
  obtain ⟨second, more, rfl⟩ := List.exists_cons_of_ne_nil otherFilled
  rw [Precedes]

theorem Precedes.asymm {names others : List String} (before : Precedes names others) : ¬ Precedes others names := by
  fun_induction Precedes names others with
  | case1 file other => exact lt_asymm before
  | case2 => exact id
  | case3 folder inner rest other further more ih =>
    rw [precedes_cons (by simp) (by simp)]
    rintro (after | ⟨rfl, after⟩)
    · rcases before with earlier | ⟨rfl, -⟩
      · exact lt_asymm earlier after
      · exact lt_irrefl _ after
    · exact ih (before.resolve_left (lt_irrefl _)).2 after
  | case4 => exact before.elim

theorem Precedes.nodup {files : List (List String)} (ordered : files.Pairwise Precedes) : files.Nodup := by
  refine ordered.imp fun {first second} before same => ?_
  subst same
  exact before.asymm before

theorem byName_lt {children : List (String × Entry)} (distinct : (children.map (·.1)).Nodup)
    (keeps : String × Entry → Bool) : (byName (children.filter keeps)).Pairwise fun a b => a.1 < b.1 := by
  have apart : (byName (children.filter keeps)).Pairwise fun a b => a.1 ≠ b.1 := by
    refine List.pairwise_map.mp (((byName_perm _).map _).nodup_iff.mpr ?_)
    exact distinct.sublist (List.filter_sublist.map _)
  exact ((byName_sorted _).and apart).imp fun ⟨low, different⟩ => lt_of_le_of_ne low different

theorem walk_precedes {tree : Entry} (valid : tree.Valid) : (walk tree).Pairwise Precedes := by
  induction valid with
  | file content => exact List.Pairwise.nil
  | @folder children distinct named inner ih =>
    rw [walk_folder, List.pairwise_append]
    refine ⟨List.pairwise_map.mpr (byName_lt distinct _), List.pairwise_flatMap.mpr ⟨?_, ?_⟩, ?_⟩
    · intro child member
      refine List.pairwise_map.mpr ((ih child (mem_of_mem_byName member)).imp_of_mem fun first second before => ?_)
      exact (precedes_cons (walk_ne_nil first) (walk_ne_nil second)).mpr (.inr ⟨rfl, before⟩)
    · refine (byName_lt distinct _).imp fun before names first others second => ?_
      obtain ⟨rest, inside, rfl⟩ := List.mem_map.mp first
      obtain ⟨more, below, rfl⟩ := List.mem_map.mp second
      exact (precedes_cons (walk_ne_nil inside) (walk_ne_nil below)).mpr (.inl before)
    · intro own first names below
      obtain ⟨child, -, rfl⟩ := List.mem_map.mp first
      obtain ⟨folder, -, inside⟩ := List.mem_flatMap.mp below
      obtain ⟨rest, deeper, rfl⟩ := List.mem_map.mp inside
      obtain ⟨name, more, rfl⟩ := List.exists_cons_of_ne_nil (walk_ne_nil deeper)
      exact trivial

/-! ## Where folders are -/

/-- Where the folders of a workspace are. -/
theorem locate_pathOf {kept : List (List Char)} (whole : ∀ part ∈ kept, Path.IsProper part) {names : List String}
    (named : ∀ name ∈ names, Entry.IsName name) :
    Path.locate (Path.absolute kept) (pathOf names).toList = Path.absolute (kept ++ names.map String.toList) := by
  have proper : ∀ part ∈ names.map String.toList, Path.IsProper part := by
    intro part member
    obtain ⟨name, inside, rfl⟩ := List.mem_map.mp member
    exact (named name inside).isProper
  have path : (pathOf names).toList = Path.ofSegments (names.map String.toList) := String.toList_intercalate ..
  have relative := Path.ofSegments_head? proper
  rw [path, Path.locate, Path.tidy, Path.lead_join _ relative, Path.parts_join _ relative, Path.lead_absolute whole,
    Path.parts_absolute whole, Path.parts_ofSegments proper]
  rfl

theorem unlistable?_eq_none_iff {disk : Disk} {location : List Char} :
    disk.unlistable? location = none ↔
      (∃ children, disk.entry location = .ok (.folder children)) ∧ location ∉ disk.closed := by
  unfold Disk.unlistable?
  split
  next failed => simp [failed]
  next found => simp [found]
  next found => simp [found]

/-! ## What is eligible -/

/-- Whether a folder of a workspace can be listed: the names that lead to it and its location are not too long, and it is
not closed. -/
def IsListable (disk : Disk) (root : List Char) (folder : List String) : Prop :=
  (∀ name ∈ folder, name.utf8ByteSize ≤ Entry.nameLimit) ∧
    (String.ofList (Path.locate root (pathOf folder).toList)).utf8ByteSize ≤ Disk.locationLimit ∧
      Path.locate root (pathOf folder).toList ∉ disk.closed

instance (disk : Disk) (root : List Char) (folder : List String) : Decidable (IsListable disk root folder) :=
  inferInstanceAs (Decidable (_ ∧ _ ∧ _))

/-- Every folder around a file can be listed, from the root on. -/
def Reachable (disk : Disk) (root : List Char) (names : List String) : Prop :=
  ∀ folder ∈ names.inits, folder ≠ names → IsListable disk root folder

instance (disk : Disk) (root : List Char) (names : List String) : Decidable (Reachable disk root names) :=
  inferInstanceAs (Decidable (∀ _ ∈ _, _))

section
variable {disk : Disk} {root : List Char} {children : List (String × Entry)}

/-- What keeps a walk from going into the folders around a file are the limits and the rights alone. -/
theorem reachable_iff (resolved : Path.resolve root = root) (found : disk.entry root = .ok (.folder children))
    {names : List String} (held : HasFile (.folder children) names) :
    OpenUnder (fun folder => disk.unlistable? (Path.locate root folder.toList)) [] names ↔
      Reachable disk root names := by
  have valid := Disk.entry_valid found
  obtain ⟨kept, same, clean⟩ := Path.resolve_eq root
  rw [resolved] at same
  rw [same] at found
  have proper : ∀ part ∈ kept, Path.IsProper part := fun part member => (clean part member).1
  refine forall_congr' fun folder => forall_congr' fun inside => forall_congr' fun short => ?_
  have inside : folder <+: names := (List.mem_inits ..).mp inside
  have inner : ∀ name ∈ folder, Entry.IsName name := fun name member => held.isName valid name (inside.subset member)
  have entry := Disk.entry_descend found proper fun name member => (inner name member).isInward
  rw [List.nil_append, unlistable?_eq_none_iff, same, IsListable, locate_pathOf proper inner, entry,
    ← held.descend valid inside short]
  split
  next long => simp [Nat.not_le.mpr long]
  next fits => simp [Nat.not_lt.mp fits]

/-- The files that the walk of a scan meets are those that are kept and reachable. -/
theorem met_reachable (resolved : Path.resolve root = root) (found : disk.entry root = .ok (.folder children))
    (rules : List IgnoreRule) :
    met rules (fun folder => disk.unlistable? (Path.locate root folder.toList)) "" (.folder children) =
      ((walk (.folder children)).filter fun names => Kept rules names ∧ Reachable disk root names).map pathOf := by
  have valid := Disk.entry_valid found
  rw [met_eq_walk _ _ valid]
  congr 1
  refine List.filter_congr fun names member => ?_
  rw [decide_eq_decide, reachable_iff resolved found ((mem_walk_folder valid).mp member)]

end

/-- The files that a listing is taken from, in its order. -/
structure IsEligible (disk : Disk) (rules : List IgnoreRule) (root : List Char) (tree : Entry)
    (eligible : List (List String)) : Prop where
  mem_iff : ∀ names, names ∈ eligible ↔ HasFile tree names ∧ Kept rules names ∧ Reachable disk root names
  ordered : eligible.Pairwise Precedes

section
variable {disk : Disk} {rules : List IgnoreRule} {root : List Char} {tree : Entry}

theorem IsEligible.unique {eligible others : List (List String)} (first : IsEligible disk rules root tree eligible)
    (second : IsEligible disk rules root tree others) : eligible = others := by
  have perm : eligible.Perm others :=
    (List.perm_ext_iff_of_nodup (Precedes.nodup first.ordered) (Precedes.nodup second.ordered)).mpr fun names =>
      (first.mem_iff names).trans (second.mem_iff names).symm
  exact perm.eq_of_pairwise (fun _ _ _ _ before after => absurd after before.asymm) first.ordered second.ordered

theorem isEligible_filter {children : List (String × Entry)} (valid : (Entry.folder children).Valid) :
    IsEligible disk rules root (.folder children)
      ((walk (.folder children)).filter fun names => Kept rules names ∧ Reachable disk root names) where
  mem_iff names := by rw [List.mem_filter, decide_eq_true_iff, mem_walk_folder valid]
  ordered := (walk_precedes valid).filter _

end

/-! ## What is taken -/

theorem Visit.collect_value (room : Nat) (visits : List Visit) :
    (collect room visits).value =
      ((visits.filterMap file?).take room, decide (room < (visits.filterMap file?).length)) := by
  fun_induction collect room visits with
  | case1 => simp
  | case2 room fault rest ih =>
    rw [List.filterMap_cons_none (file?_closed fault)]
    exact ih
  | case3 => simp
  | case4 room path rest ih => simp [ih]

/-- The files that the walk of a scan meets. -/
theorem scanAt_folder {disk : Disk} {location : List Char} {children : List (String × Entry)}
    (found : disk.entry location = .ok (.folder children)) (rules : List IgnoreRule) (cap : Int) (path : String) :
    let files := met rules (fun folder => disk.unlistable? (Path.locate location folder.toList)) "" (.folder children)
    (scanAt disk rules cap path location).value =
      .ok ⟨String.ofList location, files.take cap.toNat, decide (cap.toNat < files.length)⟩ := by
  intro files
  simp only [scanAt, found, Logged.value_bind, Visit.collect_value]
  -- Whether the cap is logged makes no difference to the listing.
  split <;> rfl

theorem scanFrom_rooted {host : Host} {path root : String} (rooted : host.root path = .ok root) (disk : Disk)
    (rules : List IgnoreRule) (cap : Int) :
    scanFrom host disk rules cap path = scanAt disk rules cap path root.toList := by
  rw [scanFrom, rooted]

theorem pathOf_nodup {children : List (String × Entry)} (valid : (Entry.folder children).Valid)
    {files : List (List String)} (present : ∀ names ∈ files, HasFile (.folder children) names) (distinct : files.Nodup) :
    (files.map pathOf).Nodup := by
  have filled : ∀ names ∈ files, names ≠ [] := by
    rintro names member rfl
    exact Entry.not_hasFile_nil (present [] member)
  refine distinct.map_on fun a first b second same => ?_
  exact pathOf_injective ((present a first).isName valid) ((present b second).isName valid) (filled a first)
    (filled b second) same

/-- A scan of a folder lists the first ones of its eligible files, as many as the cap admits, and tells whether there are
more. -/
theorem scanFrom_eligible {host : Host} {disk : Disk} {path root : String} {children : List (String × Entry)}
    (rooted : host.root path = .ok root) (found : disk.entry root.toList = .ok (.folder children))
    (patterns : List String) (cap : Int) :
    let rules := patterns.filterMap IgnoreRule.parse?
    ∃ (listing : Listing) (eligible : List (List String)),
      (scanFrom host disk rules cap path).value = .ok listing ∧ listing.root = root ∧
        IsEligible disk rules root.toList (.folder children) eligible ∧
        listing.files = (eligible.map pathOf).take (max cap 0).toNat ∧ listing.files.Nodup ∧
        (listing.truncated = true ↔ (max cap 0).toNat < eligible.length) := by
  intro rules
  have valid := Disk.entry_valid found
  have isEligible : IsEligible disk rules root.toList (.folder children) _ := isEligible_filter valid
  have room : (max cap 0).toNat = cap.toNat := by omega
  have files := met_reachable (Host.resolve_root rooted) found rules
  have distinct := pathOf_nodup valid (fun names member => ((isEligible.mem_iff names).mp member).1)
    (Precedes.nodup isEligible.ordered)
  have scanned := scanAt_folder found rules cap path
  rw [files, String.ofList_toList, ← scanFrom_rooted rooted] at scanned
  refine ⟨_, _, scanned, rfl, isEligible, ?_, ?_, ?_⟩
  · rw [room]
  · exact distinct.sublist (List.take_sublist _ _)
  · rw [room, decide_eq_true_iff, List.length_map]

/-! ## Two workspaces -/

/-- A tree of empty files, each with the folders that lead to it. -/
def treeOf (files : List (List String)) : Entry := files.foldr (.put (.file .empty)) .empty

section
variable {files : List (List String)}

theorem treeOf_valid (named : ∀ names ∈ files, ∀ name ∈ names, Entry.IsName name) : (treeOf files).Valid := by
  induction files with
  | nil => exact .empty
  | cons names rest ih =>
    obtain ⟨first, later⟩ := List.forall_mem_cons.mp named
    exact .put (.file _) first (ih later)

/-- Files that are not in each other's way all stay. -/
theorem hasFile_treeOf (named : ∀ names ∈ files, ∀ name ∈ names, Entry.IsName name)
    (apart : files.Pairwise fun a b => ¬ a <+: b ∧ ¬ b <+: a) {names : List String} :
    HasFile (treeOf files) names ↔ names ∈ files := by
  induction files with
  | nil => simp [treeOf]
  | cons first rest ih =>
    obtain ⟨free, apart⟩ := List.pairwise_cons.mp apart
    obtain ⟨-, later⟩ := List.forall_mem_cons.mp named
    rw [treeOf, List.foldr_cons, ← treeOf, Entry.hasFile_put _ (treeOf_valid later), ih later apart, List.mem_cons]
    exact or_congr_right (and_iff_left_of_imp fun member => (free names member).symm)

end

/-- A disk with one folder, `/w`, and a tree in its place. -/
def mount (tree : Entry) (valid : tree.Valid) (closed : List (List Char)) : Disk where
  top := .put tree ["w"] .empty
  valid := .put valid (by decide) .empty
  closed

theorem entry_mount (tree : Entry) (valid : tree.Valid) (closed : List (List Char)) :
    (mount tree valid closed).entry "/w".toList = .ok tree := by
  have parts : Path.parts "/w".toList = [['w']] := by decide
  rw [Disk.entry, if_neg (by decide)]
  change Entry.walk _ _ ((Path.parts "/w".toList).map String.ofList) = _
  rw [parts]
  rfl

theorem rooted_mount : ({} : Host).root "/w" = .ok "/w" := by decide

/-- Files that are kept out, files that are not, and one in a folder that cannot be listed. -/
def nestedFiles : List (List String) :=
  [["z.ts"], ["src", "lib", "x.ts"], ["src", "b.ts"], ["src", "a.ts"], ["private", "p.ts"], ["node_modules", "m.js"],
    ["notes.md"]]

theorem isName_nestedFiles : ∀ names ∈ nestedFiles, ∀ name ∈ names, Entry.IsName name := by decide

def nested : Disk := mount (treeOf nestedFiles) (treeOf_valid isName_nestedFiles) ["/w/private".toList]

theorem scanFrom_eligible_nested :
    ∃ listing, (scanFrom {} nested (["*.md"].filterMap IgnoreRule.parse?) 3 "/w").value = .ok listing ∧
      listing.files = ["z.ts", "src/a.ts", "src/b.ts"] ∧ listing.truncated = true := by
  have found : nested.entry "/w".toList = .ok (.folder (treeOf nestedFiles).children) := entry_mount ..
  obtain ⟨listing, eligible, scanned, -, isEligible, files, -, truncated⟩ :=
    scanFrom_eligible rooted_mount found ["*.md"] 3
  let expected : List (List String) := [["z.ts"], ["src", "a.ts"], ["src", "b.ts"], ["src", "lib", "x.ts"]]
  have isExpected : IsEligible nested (["*.md"].filterMap IgnoreRule.parse?) "/w".toList
      (.folder (treeOf nestedFiles).children) expected := by
    constructor
    · intro names
      have same : expected.Perm (nestedFiles.filter fun names =>
          Kept (["*.md"].filterMap IgnoreRule.parse?) names ∧ Reachable nested "/w".toList names) := by decide +kernel
      have held : HasFile (.folder (treeOf nestedFiles).children) names ↔ names ∈ nestedFiles :=
        hasFile_treeOf isName_nestedFiles (by decide)
      rw [same.mem_iff, List.mem_filter, decide_eq_true_iff, held]
    · have before : "a.ts" < "b.ts" := by decide
      simp [expected, Precedes, before]
  obtain rfl := isEligible.unique isExpected
  exact ⟨listing, scanned, files.trans (by decide +kernel), truncated.mpr (by decide)⟩

/-- Seventeen folders in each other, each with as long a name as there may be. -/
def deepFolder : List String := List.replicate 17 (String.ofList (List.replicate Entry.nameLimit 'a'))

theorem isName_replicate {size : Nat} (long : 2 < size) :
    Entry.IsName (String.ofList (List.replicate size 'a')) := by
  have length (name : String) (same : String.ofList (List.replicate size 'a') = name) : name.toList.length = size := by
    rw [← same, String.toList_ofList, List.length_replicate]
  refine ⟨fun member => ?_, by simp [List.mem_replicate], by simp [List.mem_replicate]⟩
  simp only [List.mem_cons, List.not_mem_nil, or_false] at member
  rcases member with same | same | same
  all_goals
    have short := length _ same
    simp at short
    omega

theorem isName_deepFolder : ∀ name ∈ deepFolder, Entry.IsName name :=
  fun _ member => List.eq_of_mem_replicate member ▸ isName_replicate (by decide)

def deepFile : List String := deepFolder ++ ["y.ts"]

theorem isName_deepFile : ∀ names ∈ [deepFile], ∀ name ∈ names, Entry.IsName name := by
  intro names only name member
  rw [List.mem_singleton.mp only] at member
  rcases List.mem_append.mp member with folder | last
  · exact isName_deepFolder name folder
  · exact List.mem_singleton.mp last ▸ by decide

theorem treeOf_deepFile : ∃ children, treeOf [deepFile] = .folder children := ⟨_, rfl⟩

def deep : Disk := mount (treeOf [deepFile]) (treeOf_valid isName_deepFile) []

theorem length_le_utf8ByteSize (text : List Char) : text.length ≤ (String.ofList text).utf8ByteSize := by
  induction text with
  | nil => exact Nat.zero_le _
  | cons c rest ih =>
    have filled := Char.utf8Size_pos c
    rw [String.ofList_cons, String.utf8ByteSize_append, String.utf8ByteSize_singleton, List.length_cons]
    omega

theorem locationLimit_lt_deepFolder :
    Disk.locationLimit < (String.ofList (Path.locate "/w".toList (pathOf deepFolder).toList)).utf8ByteSize := by
  have whole : ∀ part ∈ [['w']], Path.IsProper part := List.forall_mem_singleton.mpr ⟨by decide, by decide, by decide⟩
  have names : deepFolder.map String.toList = List.replicate 17 (List.replicate Entry.nameLimit 'a') := by
    rw [deepFolder, List.map_replicate, String.toList_ofList]
  have size : Disk.locationLimit < (Path.absolute ([['w']] ++ deepFolder.map String.toList)).length := by
    rw [names]
    decide +kernel
  have root : "/w".toList = Path.absolute [['w']] := by decide
  rw [root, locate_pathOf whole isName_deepFolder]
  exact size.trans_le (length_le_utf8ByteSize _)

/-- A file that nothing keeps out is not listed where the location of its folder is too long. -/
theorem not_scanFrom_deep :
    HasFile (treeOf [deepFile]) deepFile ∧ Kept [] deepFile ∧
      (scanFrom {} deep [] 5000 "/w").value = .ok ⟨"/w", [], false⟩ := by
  have only {names : List String} : HasFile (treeOf [deepFile]) names ↔ names ∈ [deepFile] :=
    hasFile_treeOf isName_deepFile (List.pairwise_singleton _ _)
  refine ⟨only.mpr List.mem_cons_self, by decide +kernel, ?_⟩
  obtain ⟨children, same⟩ := treeOf_deepFile
  have found : deep.entry "/w".toList = .ok (.folder children) := same ▸ entry_mount ..
  have nothing : met [] (fun folder => deep.unlistable? (Path.locate "/w".toList folder.toList)) ""
      (.folder children) = [] := by
    rw [met_reachable (Host.resolve_root rooted_mount) found, List.map_eq_nil_iff, List.filter_eq_nil_iff]
    intro names member both
    have held := (mem_walk_folder (Disk.entry_valid found)).mp member
    obtain rfl := List.mem_singleton.mp (only.mp (same ▸ held))
    have inside : deepFolder ∈ deepFile.inits := (List.mem_inits ..).mpr (List.prefix_append _ _)
    obtain ⟨-, fits, -⟩ := (of_decide_eq_true both).2 deepFolder inside (by simp [deepFile])
    exact absurd fits (Nat.not_le.mpr locationLimit_lt_deepFolder)
  rw [scanFrom_rooted rooted_mount, scanAt_folder found, nothing]
  rfl

end Listing

end Surveyor
