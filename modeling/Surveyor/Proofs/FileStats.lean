import Mathlib.Data.String.Basic
import Surveyor.FileStats
import Surveyor.Proofs.Progress.Answers
import Surveyor.Proofs.Sequence

/-! Counts of files. Each file counts by itself, so the counts of two listings add up to those of both together, and it
does not matter in which order files are listed. What makes a file a test or a component makes it code as well. -/

namespace Surveyor.FileStats
open Sequence

/-! ## Names of folders -/

theorem mem_sorted {name : String} {entries : List String} : name ∈ sorted entries ↔ name ∈ entries := by
  rw [sorted, List.mem_mergeSort, List.mem_eraseDups]

theorem sorted_nodup (entries : List String) : (sorted entries).Nodup :=
  (List.mergeSort_perm ..).nodup_iff.mpr (nodup_eraseDups entries)

theorem sorted_pairwise (entries : List String) : (sorted entries).Pairwise (· ≤ ·) := by
  have ordered := @List.pairwise_mergeSort String (fun a b => a ≤ b)
    (fun a b c first second => by simpa using le_trans (of_decide_eq_true first) (of_decide_eq_true second))
    (fun a b => by simpa using le_total a b) entries.eraseDups
  exact ordered.imp fun before => of_decide_eq_true before

/-- Names have one order only, so it is enough to know which ones there are. -/
theorem sorted_congr {first second : List String} (same : ∀ name, name ∈ first ↔ name ∈ second) :
    sorted first = sorted second := by
  have perm : (sorted first).Perm (sorted second) := by
    apply (List.perm_ext_iff_of_nodup (sorted_nodup first) (sorted_nodup second)).mpr
    intro name
    rw [mem_sorted, mem_sorted, same]
  apply List.Perm.eq_of_pairwise _ (sorted_pairwise first) (sorted_pairwise second) perm
  intro a b _ _ low high
  exact le_antisymm low high

/-! ## Listings taken together -/

/-- The counts of two listings together: numbers are added, and the folders are those of either one. -/
def join (first second : FileStats) : FileStats where
  total := first.total + second.total
  code := first.code + second.code
  test := first.test + second.test
  component := first.component + second.component
  config := first.config + second.config
  documentation := first.documentation + second.documentation
  style := first.style + second.style
  folders := sorted (first.folders ++ second.folders)

theorem ofFiles_append (first second : List String) :
    ofFiles (first ++ second) = (ofFiles first).join (ofFiles second) := by
  have folders : (ofFiles (first ++ second)).folders = ((ofFiles first).join (ofFiles second)).folders := by
    apply sorted_congr
    intro name
    simp only [ofFiles, List.flatMap_append, List.mem_append, mem_sorted]
  simp only [ofFiles, join, List.length_append, List.countP_append, Int.natCast_add] at folders ⊢
  rw [folders]

theorem ofFiles_perm {first second : List String} (perm : first.Perm second) : ofFiles first = ofFiles second := by
  have folders : (ofFiles first).folders = (ofFiles second).folders := by
    apply sorted_congr
    intro name
    exact (perm.flatMap_right _).mem_iff
  simp only [ofFiles, perm.length_eq, perm.countP_eq] at folders ⊢
  rw [folders]

/-! ## Files that count twice -/

theorem isCode_of_isTest {path : String} (test : isTest path = true) : isCode path = true :=
  (Bool.and_eq_true_iff.mp test).1

theorem isCode_of_isComponent {path : String} (component : isComponent path = true) : isCode path = true := by
  have within : ∀ ending ∈ componentExtensions, ending ∈ codeExtensions := by decide
  rw [isComponent, Bool.and_eq_true, List.contains_iff_mem] at component
  rw [isCode, List.contains_iff_mem]
  exact within _ component.1

/-- Tests and components are code, and code is among all files. -/
structure Nested (stats : FileStats) : Prop where
  test : stats.test ≤ stats.code
  component : stats.component ≤ stats.code
  code : stats.code ≤ stats.total

theorem ofFiles_nested (files : List String) : Nested (ofFiles files) where
  test := Int.ofNat_le.mpr (List.countP_mono_left fun _ _ test => isCode_of_isTest test)
  component := Int.ofNat_le.mpr (List.countP_mono_left fun _ _ component => isCode_of_isComponent component)
  code := Int.ofNat_le.mpr List.countP_le_length

/-- The share of tests among the code of a listing is a real number from zero to one. -/
theorem testRatio_ofFiles (facts : Progress.ProjectFacts) (files : List String) :
    ∃ share : Rat, { facts with stats := ofFiles files }.testRatio = .ok (.finite false share) ∧ 0 ≤ share ∧ share ≤ 1 := by
  unfold Progress.ProjectFacts.testRatio
  by_cases empty : (ofFiles files).code = 0
  · exact ⟨0, if_pos empty, le_refl 0, zero_le_one⟩
  · have present : files.countP isCode ≠ 0 := by simpa [ofFiles] using empty
    have within : files.countP isTest ≤ files.countP isCode := Int.ofNat_le.mp (ofFiles_nested files).test
    obtain ⟨share, ratio, above, below⟩ := Progress.ratio_share present within
    refine ⟨share, ?_, above, below⟩
    rw [if_neg empty]
    exact ratio

/-- The counts of two listings add up, whatever they have in common, and their folders are united. An order of the files
makes no difference. Among the files of a listing is its code, among its code are tests and components, and a ratio of
tests to code is never more than one. -/
theorem ofFiles_additive (first second : List String) :
    ofFiles (first ++ second) = (ofFiles first).join (ofFiles second) ∧
      (∀ name, name ∈ (ofFiles (first ++ second)).folders ↔
        name ∈ (ofFiles first).folders ∨ name ∈ (ofFiles second).folders) ∧
      (first.Perm second → ofFiles first = ofFiles second) ∧ (ofFiles first).Nested ∧
      ∀ facts : Progress.ProjectFacts, ∃ share : Rat,
        { facts with stats := ofFiles first }.testRatio = .ok (.finite false share) ∧ 0 ≤ share ∧ share ≤ 1 := by
  refine ⟨ofFiles_append first second, ?_, ofFiles_perm, ofFiles_nested first, ?_⟩
  · intro name
    rw [ofFiles_append, join, mem_sorted, List.mem_append]
  · intro facts
    exact testRatio_ofFiles facts first

theorem ofFiles_additive_swapped :
    ["src/components/Menu.tsx", "src/menu.test.ts"].Perm ["src/menu.test.ts", "src/components/Menu.tsx"] ∧
      ofFiles ["src/components/Menu.tsx", "src/menu.test.ts"] = ofFiles ["src/menu.test.ts", "src/components/Menu.tsx"] :=
  have perm := List.Perm.swap "src/menu.test.ts" "src/components/Menu.tsx" []
  ⟨perm, (ofFiles_additive _ _).2.2.1 perm⟩

end Surveyor.FileStats
