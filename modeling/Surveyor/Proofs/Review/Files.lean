import Surveyor.Proofs.Graph.Keyword
import Surveyor.Proofs.Graph.Neighbourhood
import Surveyor.Review

/-! The files that are shown for a phase. The search may end in the middle of a neighbourhood; what it has by then is the
front of what it would have found without an end. -/

namespace Surveyor.Review
open Sequence

/-- As long as there is room for more, what was found by the end is the front of what is found without a limit. -/
theorem gathered_foldlM (paths : List String) {found : List String} (few : found.length < fileLimit) :
    gathered (paths.foldlM gather found) = (paths.foldl addOnce found).take fileLimit := by
  induction paths generalizing found with
  | nil => exact (List.take_of_length_le few.le).symm
  | cons path paths ih =>
    rw [List.foldlM_cons, List.foldl_cons, gather]
    by_cases full : fileLimit ≤ (addOnce found path).length
    · have exactly : (addOnce found path).length = fileLimit :=
        le_antisymm ((length_addOnce_le found path).trans few) full
      have front := List.prefix_iff_eq_take.mp (prefix_foldl_addOnce (addOnce found path) paths)
      rw [if_pos full]
      exact front.trans (by rw [exactly])
    · rw [if_neg full]
      exact ih (Nat.lt_of_not_le full)

/-- The search stops early at what an unlimited search would have found first. -/
theorem filesFor_eq (graph : Graph) (depth : Option Int) (title description : String) :
    filesFor graph depth title description =
      (((graph.pathsWithAny (Keyword.ofText (title ++ " " ++ description))).flatMap
        fun seed => graph.cluster seed depth).eraseDups).take fileLimit := by
  rw [filesFor, foldlM_flatMap, gathered_foldlM _ (by decide), foldl_addOnce]

theorem filesFor_near {listing : Listing} {graph : Graph} (tabulates : Graph.Tabulates listing graph)
    {depth : Option Int} {title description path : String} (member : path ∈ filesFor graph depth title description) :
    path ∈ graph.paths ∧ ∃ keyword ∈ Keyword.ofText (title ++ " " ++ description), ∃ seed ∈ graph.pathsWith keyword,
      graph.hops seed path ≤ (depth.getD graph.clusterDepth).toNat := by
  rw [filesFor_eq] at member
  obtain ⟨seed, chosen, inside⟩ := List.mem_flatMap.mp (List.mem_eraseDups.mp (List.mem_of_mem_take member))
  obtain ⟨keyword, told, holds⟩ := Graph.mem_pathsWithAny.mp chosen
  have near := ((tabulates.searched seed depth).mem_iff path).mp inside
  exact ⟨tabulates.mem_paths_of_near (Graph.mem_pathsWith.mp holds).1 near, keyword, told, seed, holds, near⟩

/-- Whatever graph was built: the files for a phase are the first ten in the neighbourhoods of the files with a keyword of
the phase in their paths, each of them once. -/
theorem filesFor_reached (disk : Disk) (clusterDepth : Int) (events : List Graph.Event) (depth : Option Int)
    (title description : String) :
    let graph := (Graph.Situation.run events { disk, graph := { clusterDepth } }).graph
    let keywords := Keyword.ofText (title ++ " " ++ description)
    let seeds := (keywords.flatMap graph.pathsWith).eraseDups
    let files := filesFor graph depth title description
    files = ((seeds.flatMap fun seed => graph.cluster seed depth).eraseDups).take 10 ∧
      files.length ≤ 10 ∧ files.Nodup ∧
      ∀ path ∈ files, path ∈ graph.paths ∧ ∃ keyword ∈ keywords, ∃ seed ∈ graph.pathsWith keyword,
        graph.undirected.edist seed path ≤ (max (depth.getD graph.clusterDepth) 0).toNat := by
  intro graph keywords seeds files
  have front : files = ((seeds.flatMap fun seed => graph.cluster seed depth).eraseDups).take 10 := by
    rw [show files = _ from filesFor_eq .., Graph.pathsWithAny_eq]
    rfl
  refine ⟨front, front ▸ List.length_take_le .., front ▸ (nodup_eraseDups _).take, fun path member => ?_⟩
  obtain ⟨listing, tabulates⟩ := Graph.Situation.exists_tabulates disk clusterDepth events
  have room : (max (depth.getD graph.clusterDepth) 0).toNat = (depth.getD graph.clusterDepth).toNat := by omega
  rw [room]
  exact filesFor_near tabulates member

end Surveyor.Review
