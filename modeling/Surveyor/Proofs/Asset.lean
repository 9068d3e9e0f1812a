import Mathlib.Data.List.Forall2
import Mathlib.Data.List.TakeWhile
import Mathlib.Data.Prod.Lex
import Mathlib.Data.String.Basic
import Surveyor.Asset
import Surveyor.Proofs.Fields
import Surveyor.Proofs.Text

/-! Media files of a listing. Only they count against the limit, so the first ones are taken, and only then are they put
in order. The order looks at categories and names alone; where it cannot tell two files apart, the listing does. -/

namespace Surveyor

/-! ## Words of a path -/

namespace Text

/-- A longest piece of a text with characters of one class, at least one. -/
def IsRun (p : Char → Bool) (word text : List Char) : Prop :=
  ∃ before after, text = before ++ (word ++ after) ∧ word ≠ [] ∧ (∀ c ∈ word, p c = true) ∧
    (∀ c ∈ before.getLast?, p c = false) ∧ ∀ c ∈ after.head?, p c = false

section Runs

variable {p : Char → Bool} {word : List Char}

theorem IsRun.append {text : List Char} (run : IsRun p word text) (front : List Char) {c : Char} (stops : p c = false) :
    IsRun p word (front ++ c :: text) := by
  obtain ⟨before, after, rfl, filled, inside, starts, ends⟩ := run
  refine ⟨front ++ c :: before, after, by simp, filled, inside, ?_, ends⟩
  intro last member
  cases before with
  | nil =>
    rw [List.getLast?_append_cons, List.getLast?_singleton, Option.mem_some_iff] at member
    rwa [← member]
  | cons d before =>
    rw [List.getLast?_append_cons, List.getLast?_cons_cons] at member
    exact starts last member

theorem isRun_of_mem_splitOnP {text : List Char} (member : word ∈ text.splitOnP fun c => !p c) (filled : word ≠ []) :
    IsRun p word text := by
  have split : text = text.takeWhile p ++ text.dropWhile p := List.takeWhile_append_dropWhile.symm
  have front : ∀ c ∈ text.takeWhile p, (!p c) = false := fun c inside => by simpa using List.mem_takeWhile_imp inside
  cases rest : text.dropWhile p with
  | nil =>
    rw [rest, List.append_nil] at split
    rw [split, List.splitOnP_eq_singleton front, List.mem_singleton, ← split] at member
    subst member
    refine ⟨[], [], by simp, filled, ?_, by simp, by simp⟩
    exact List.dropWhile_eq_nil_iff.mp rest
  | cons c later =>
    have stops : p c = false := ends_of_dropWhile_eq rest
    have shorter : later.length < text.length := by
      rw [split, rest, List.length_append, List.length_cons]
      omega
    rw [split, rest, List.splitOnP_append_cons _ _ (by simp [stops]), List.splitOnP_eq_singleton front,
      List.singleton_append] at member
    rcases List.mem_cons.mp member with rfl | member
    · refine ⟨[], c :: later, by rw [List.nil_append, ← rest, ← split], filled, ?_, by simp, ?_⟩
      · intro d inside
        exact List.mem_takeWhile_imp inside
      · intro d head
        rwa [← Option.some.inj head]
    · rw [split, rest]
      exact (isRun_of_mem_splitOnP member filled).append _ stops
termination_by text.length

theorem mem_splitOnP_of_isRun {text : List Char} (run : IsRun p word text) : word ∈ text.splitOnP fun c => !p c := by
  obtain ⟨before, after, rfl, -, inside, starts, ends⟩ := run
  -- What stands behind the run begins with a character that ends it.
  have behind : word ∈ (word ++ after).splitOnP fun c => !p c := by
    have alone : word.splitOnP (fun c => !p c) = [word] := List.splitOnP_eq_singleton fun c member => by simp [inside c member]
    cases after with
    | nil => rw [List.append_nil, alone, List.mem_singleton]
    | cons c after =>
      rw [List.splitOnP_append_cons _ _ (by simp [ends c rfl]), alone]
      exact List.mem_append_left _ (List.mem_singleton.mpr rfl)
  rcases List.eq_nil_or_concat before with rfl | ⟨front, c, rfl⟩
  · exact behind
  · have stops : p c = false := starts c (by simp)
    rw [List.concat_eq_append, List.append_assoc, List.singleton_append, List.splitOnP_append_cons _ _ (by simp [stops])]
    exact List.mem_append_right _ behind

end Runs

end Text

namespace AssetCategory

theorem mem_pathWords {path : String} {word : List Char} :
    word ∈ pathWords path ↔ Text.IsRun isWordPart word (Text.lowerChars path.toList) := by
  rw [pathWords, List.mem_filter, bne_iff_ne]
  constructor
  · intro ⟨member, filled⟩
    exact Text.isRun_of_mem_splitOnP member filled
  · intro run
    refine ⟨Text.mem_splitOnP_of_isRun run, ?_⟩
    obtain ⟨before, after, -, filled, -⟩ := run
    exact filled

/-- Some word of the path starts with a hint of the entry. -/
def Tells (path : String) (entry : List String × AssetCategory) : Prop :=
  ∃ word, Text.IsRun isWordPart word (Text.lowerChars path.toList) ∧ ∃ hint ∈ entry.1, hint.toList <+: word

/-- The category that the first telling entry gives, or the ordinary one if none tells anything. -/
def Suits (path : String) (ordinary category : AssetCategory) : Prop :=
  (∃ before entry after, hints = before ++ entry :: after ∧ (∀ earlier ∈ before, ¬ Tells path earlier) ∧
    Tells path entry ∧ category = entry.2) ∨
  (∀ entry ∈ hints, ¬ Tells path entry) ∧ category = ordinary

theorem fits_iff_tells {path : String} {entry : List String × AssetCategory} :
    ((pathWords path).any fun word => entry.1.any fun hint => hint.toList.isPrefixOf word) = true ↔ Tells path entry := by
  simp only [List.any_eq_true, List.isPrefixOf_iff_prefix, mem_pathWords, Tells]

theorem ofPath_suits (path : String) (ordinary : AssetCategory) : Suits path ordinary (ofPath path ordinary) := by
  rw [ofPath]
  cases found : hints.find? fun entry =>
      (pathWords path).any fun word => entry.1.any fun hint => hint.toList.isPrefixOf word with
  | none =>
    refine .inr ⟨?_, rfl⟩
    intro entry member tells
    exact List.find?_eq_none.mp found entry member (fits_iff_tells.mpr tells)
  | some entry =>
    obtain ⟨fits, before, after, split, missed⟩ := List.find?_eq_some_iff_append.mp found
    refine .inl ⟨before, entry, after, split, ?_, fits_iff_tells.mp fits, rfl⟩
    intro earlier member tells
    have failed := missed earlier member
    rw [fits_iff_tells.mpr tells] at failed
    cases failed

end AssetCategory

namespace Asset

/-! ## The files that are taken -/

/-- A media file is told by the ending of its name alone. -/
def IsMedia (path : String) : Prop := (Fields.get? (FileStats.extension path) AssetCategory.extensions).isSome = true

instance (path : String) : Decidable (IsMedia path) := inferInstanceAs (Decidable (_ = true))

structure Describes (asset : Asset) (file : String) : Prop where
  path : asset.path = file
  name : asset.name = String.ofList (Path.name file.toList)
  extension : asset.extension = FileStats.extension file
  category : ∃ ordinary, Fields.get? asset.extension AssetCategory.extensions = some ordinary ∧
    AssetCategory.Suits file ordinary asset.category

theorem describes_of_ofPath? {path : String} {asset : Asset} (found : ofPath? path = some asset) :
    asset.Describes path := by
  unfold ofPath? at found
  obtain ⟨ordinary, listed, rfl⟩ := Option.map_eq_some_iff.mp found
  exact ⟨rfl, rfl, rfl, ordinary, listed, AssetCategory.ofPath_suits path ordinary⟩

theorem isSome_ofPath? (path : String) : (ofPath? path).isSome = true ↔ IsMedia path := by
  rw [ofPath?, Option.isSome_map, IsMedia]

theorem filterMap_describes (files : List String) :
    List.Forall₂ Describes (files.filterMap ofPath?) (files.filter IsMedia) := by
  induction files with
  | nil => exact List.Forall₂.nil
  | cons path files ih =>
    have media := isSome_ofPath? path
    cases found : ofPath? path with
    | none =>
      have other : ¬ IsMedia path := by simpa [found] using media
      rwa [List.filterMap_cons_none found, List.filter_cons_of_neg (by simpa using other)]
    | some asset =>
      have media : IsMedia path := by simpa [found] using media
      rw [List.filterMap_cons_some found, List.filter_cons_of_pos (by simpa using media)]
      exact List.Forall₂.cons (describes_of_ofPath? found) ih

/-! ## Their order -/

/-- What assets are sorted by. -/
def key (asset : Asset) : String ×ₗ String := toLex (asset.category.name, asset.name)

theorem comesBefore_iff {a b : Asset} : comesBefore a b = true ↔ a.key ≤ b.key := by
  simp [comesBefore, key, Prod.Lex.toLex_le_toLex]

theorem comesBefore_trans (a b c : Asset) (first : comesBefore a b = true) (second : comesBefore b c = true) :
    comesBefore a c = true :=
  comesBefore_iff.mpr ((comesBefore_iff.mp first).trans (comesBefore_iff.mp second))

theorem comesBefore_total (a b : Asset) : (comesBefore a b || comesBefore b a) = true := by
  rw [Bool.or_eq_true, comesBefore_iff, comesBefore_iff]
  exact le_total a.key b.key

/-- Sorting leaves the order of those among which it has no choice. -/
theorem filter_mergeSort (assets : List Asset) (shared : String ×ₗ String) :
    (assets.mergeSort comesBefore).filter (·.key = shared) = assets.filter (·.key = shared) := by
  have tied : (assets.filter (·.key = shared)).Pairwise fun a b => comesBefore a b = true := by
    apply List.pairwise_of_forall_mem_list
    intro a first b second
    have low : a.key = shared := of_decide_eq_true (List.mem_filter.mp first).2
    have high : b.key = shared := of_decide_eq_true (List.mem_filter.mp second).2
    rw [comesBefore_iff, low, high]
  have kept := (List.sublist_mergeSort comesBefore_trans comesBefore_total tied List.filter_sublist).filter (·.key = shared)
  have whole := ((List.mergeSort_perm assets comesBefore).filter (·.key = shared)).length_eq
  simp only [List.filter_filter, Bool.and_self] at kept
  exact (kept.eq_of_length whole.symm).symm

/-- The first media files of a listing, up to the limit, are the assets, each as often as it is listed; without a positive
limit there are none. They are sorted by the name of the category and by their own names, and among those for which both
are the same the listing is followed. -/
theorem ofFiles_sorted (limit : Int) (files : List String) :
    ∃ listed, List.Forall₂ Describes listed ((files.filter IsMedia).take limit.toNat) ∧
      (ofFiles limit files).Perm listed ∧ (ofFiles limit files).Pairwise (fun a b => a.key ≤ b.key) ∧
      ∀ shared, (ofFiles limit files).filter (·.key = shared) = listed.filter (·.key = shared) := by
  refine ⟨(files.filterMap ofPath?).take limit.toNat, ?_, ?_, ?_, ?_⟩
  · exact List.forall₂_take _ (filterMap_describes files)
  · exact List.mergeSort_perm ..
  · apply (List.pairwise_mergeSort comesBefore_trans comesBefore_total _).imp
    intro a b before
    exact comesBefore_iff.mp before
  · intro shared
    exact filter_mergeSort _ shared

end Asset

end Surveyor
