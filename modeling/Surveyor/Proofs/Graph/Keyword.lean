import Mathlib.Data.List.Infix
import Mathlib.Data.Prod.Lex
import Surveyor.Proofs.Sequence

/-! Paths that hold a keyword. They are added one by one, so those of an earlier keyword come first and none comes twice.
Each keyword adds the paths that hold none of the keywords before it, in the order of the graph. -/

namespace Surveyor.Graph
open Sequence

theorem mem_pathsWith {graph : Graph} {keyword path : String} :
    path ∈ graph.pathsWith keyword ↔ path ∈ graph.paths ∧ Text.contains (Text.lower path) (Text.lower keyword) = true := by
  rw [pathsWith, List.mem_filter]

theorem pathsWithAny_eq (graph : Graph) (keywords : List String) :
    graph.pathsWithAny keywords = (keywords.flatMap graph.pathsWith).eraseDups := by
  rw [pathsWithAny, ← List.foldl_flatMap, foldl_addOnce]

theorem mem_pathsWithAny {graph : Graph} {keywords : List String} {path : String} :
    path ∈ graph.pathsWithAny keywords ↔ ∃ keyword ∈ keywords, path ∈ graph.pathsWith keyword := by
  rw [pathsWithAny_eq, List.mem_eraseDups, List.mem_flatMap]

/-! ## The order of the paths -/

/-- The keyword stands somewhere in the path, in either case of its letters. -/
def Holds (path keyword : String) : Prop := (Text.lower keyword).toList <:+: (Text.lower path).toList

instance (path keyword : String) : Decidable (Holds path keyword) := inferInstanceAs (Decidable (List.IsInfix ..))

/-- Where a path stands: by the first keyword that it holds, and among paths with the same one by its place in the
graph. -/
def rank (graph : Graph) (keywords : List String) (path : String) : Nat ×ₗ Nat :=
  toLex (keywords.findIdx (Holds path ·), graph.paths.idxOf path)

theorem pathsWith_eq (graph : Graph) (keyword : String) : graph.pathsWith keyword = graph.paths.filter (Holds · keyword) := by
  refine List.filter_congr fun path _ => ?_
  rw [Bool.eq_iff_iff, decide_eq_true_iff]
  exact Text.occursIn_iff

theorem mem_pathsWithAny_iff {graph : Graph} {keywords : List String} {path : String} :
    path ∈ graph.pathsWithAny keywords ↔ path ∈ graph.paths ∧ ∃ keyword ∈ keywords, Holds path keyword := by
  simp only [mem_pathsWithAny, pathsWith_eq, List.mem_filter, decide_eq_true_iff]
  exact ⟨fun ⟨keyword, member, listed, held⟩ => ⟨listed, keyword, member, held⟩,
    fun ⟨listed, keyword, member, held⟩ => ⟨keyword, member, listed, held⟩⟩

/-- A further keyword adds the paths that hold it and hold none of the others. -/
theorem pathsWithAny_concat (graph : Graph) (keywords : List String) (keyword : String) :
    graph.pathsWithAny (keywords ++ [keyword]) = graph.pathsWithAny keywords ++
      graph.paths.eraseDups.filter fun path => Holds path keyword ∧ ∀ earlier ∈ keywords, ¬ Holds path earlier := by
  have added : (graph.pathsWith keyword).removeAll (keywords.flatMap graph.pathsWith) =
      graph.paths.filter fun path => Holds path keyword ∧ ∀ earlier ∈ keywords, ¬ Holds path earlier := by
    rw [pathsWith_eq, List.removeAll, List.filter_filter]
    refine List.filter_congr fun path member => ?_
    have known : path ∈ keywords.flatMap graph.pathsWith ↔ ∃ earlier ∈ keywords, Holds path earlier := by
      simp [pathsWith_eq, member]
    rw [List.elem_eq_mem, Bool.eq_iff_iff]
    simp [known, and_comm]
  rw [pathsWithAny_eq, pathsWithAny_eq, List.flatMap_append, List.flatMap_singleton, List.eraseDups_append, added,
    eraseDups_filter]

theorem rank_concat_of_holds {graph : Graph} {keywords : List String} {path : String} (keyword : String)
    (held : ∃ earlier ∈ keywords, Holds path earlier) :
    graph.rank (keywords ++ [keyword]) path = graph.rank keywords path := by
  have found : keywords.findIdx (Holds path ·) < keywords.length := by simpa [List.findIdx_lt_length] using held
  rw [rank, List.findIdx_append, if_pos found, rank]

theorem rank_concat_of_not_holds {graph : Graph} {keywords : List String} {path keyword : String}
    (held : Holds path keyword) (unheld : ∀ earlier ∈ keywords, ¬ Holds path earlier) :
    graph.rank (keywords ++ [keyword]) path = toLex (keywords.length, graph.paths.idxOf path) := by
  have last : keywords.findIdx (Holds path ·) = keywords.length := List.findIdx_eq_length.mpr (by simpa using unheld)
  have found : [keyword].findIdx (Holds path ·) = 0 := by simp [List.findIdx_cons, held]
  rw [rank, List.findIdx_append, if_neg (by omega), found, Nat.zero_add]

theorem pathsWithAny_pairwise (graph : Graph) (keywords : List String) :
    (graph.pathsWithAny keywords).Pairwise fun first second => graph.rank keywords first < graph.rank keywords second := by
  induction keywords using List.reverseRecOn with
  | nil => exact List.Pairwise.nil
  | append_singleton keywords keyword ih =>
    rw [pathsWithAny_concat]
    refine List.pairwise_append.mpr ⟨?_, ?_, ?_⟩
    · refine ih.imp_of_mem fun {first second} one other before => ?_
      rwa [rank_concat_of_holds keyword (mem_pathsWithAny_iff.mp one).2,
        rank_concat_of_holds keyword (mem_pathsWithAny_iff.mp other).2]
    · refine ((eraseDups_pairwise graph.paths).filter _).imp_of_mem fun {first second} one other before => ?_
      obtain ⟨held, unheld⟩ := of_decide_eq_true (List.mem_filter.mp one).2
      obtain ⟨also, neither⟩ := of_decide_eq_true (List.mem_filter.mp other).2
      rw [rank_concat_of_not_holds held unheld, rank_concat_of_not_holds also neither, Prod.Lex.toLex_lt_toLex]
      exact .inr ⟨rfl, before⟩
    · intro first one second other
      have early := (mem_pathsWithAny_iff.mp one).2
      obtain ⟨held, unheld⟩ := of_decide_eq_true (List.mem_filter.mp other).2
      rw [rank_concat_of_holds keyword early, rank_concat_of_not_holds held unheld, rank, Prod.Lex.toLex_lt_toLex]
      exact .inl (by simpa [List.findIdx_lt_length] using early)

/-- The paths of a graph that hold some keyword, each once, sorted by the first keyword that they hold and then by their
place in the graph. -/
theorem pathsWithAny_sorted (graph : Graph) (keywords : List String) :
    (∀ path, path ∈ graph.pathsWithAny keywords ↔ path ∈ graph.paths ∧ ∃ keyword ∈ keywords, Holds path keyword) ∧
      (graph.pathsWithAny keywords).Nodup ∧
      (graph.pathsWithAny keywords).Pairwise fun first second =>
        graph.rank keywords first < graph.rank keywords second := by
  have sorted := graph.pathsWithAny_pairwise keywords
  exact ⟨fun path => mem_pathsWithAny_iff, sorted.imp fun before same => before.ne (congrArg _ same), sorted⟩

end Surveyor.Graph
