import Mathlib.Combinatorics.SimpleGraph.Metric
import Surveyor.Graph.Cluster
import Surveyor.Proofs.Graph.Rebuilding

/-! Clusters are neighbourhoods of the undirected import graph. A file may wait in the queue several times, with several
distances; since the queue is sorted, the first time that it leaves the queue carries the least of them. -/

namespace Surveyor.Graph

/-- The files that share an edge with a file. -/
def neighbours (graph : Graph) (path : String) : List String := graph.dependencies path ++ graph.dependents path

theorem neighbours_unknown {graph : Graph} {path : String} (unknown : graph.node? path = none) :
    graph.neighbours path = [] := by
  simp [neighbours, dependencies, dependents, unknown]

theorem neighbours_known {graph : Graph} {path : String} {node : FileNode} (found : graph.node? path = some node) :
    graph.neighbours path = node.imports ++ node.importedBy := by
  simp [neighbours, dependencies, dependents, found]

/-- The import graph without the direction of its edges. -/
def undirected (graph : Graph) : SimpleGraph String := SimpleGraph.fromRel fun a b => b ∈ graph.neighbours a

/-- The number of edges on a shortest way between two files. -/
noncomputable def hops (graph : Graph) (start path : String) : ℕ∞ := graph.undirected.edist start path

theorem hops_step {graph : Graph} {path next : String} (edge : graph.undirected.Adj path next) (start : String) :
    graph.hops start next ≤ graph.hops start path + 1 := by
  have last : graph.undirected.edist path next = 1 := SimpleGraph.edist_eq_one_iff_adj.mpr edge
  exact last ▸ SimpleGraph.edist_triangle

/-- The state of a search. The marked files are known to be in the order of their distances; the queue holds at most two
distances, the smaller one first. -/
structure Searching (graph : Graph) (start : String) (depth : Nat) (marked : List String)
    (queue : List (String × Nat)) : Prop where
  distinct : marked.Nodup
  ordered : marked.Pairwise fun a b => graph.hops start a ≤ graph.hops start b
  near : ∀ path ∈ marked, graph.hops start path ≤ depth
  /-- An entry may overstate how far away its file is. -/
  reached : ∀ entry ∈ queue, graph.hops start entry.1 ≤ entry.2 ∧ entry.2 ≤ depth
  sorted : queue.Pairwise fun a b => a.2 ≤ b.2
  span : ∀ a ∈ queue, ∀ b ∈ queue, b.2 ≤ a.2 + 1
  behind : ∀ path ∈ marked, ∀ entry ∈ queue, graph.hops start path ≤ entry.2
  begun : start ∈ marked ∨ (start, 0) ∈ queue
  /-- What is next to a marked file is marked or waits, unless it is too far away. -/
  frontier : ∀ path ∈ marked, ∀ distance < depth, graph.hops start path ≤ distance →
    ∀ next, graph.undirected.Adj path next → next ∈ marked ∨ ∃ entry ∈ queue, entry.1 = next ∧ entry.2 ≤ distance + 1

namespace Searching
variable {graph : Graph} {start : String} {depth : Nat} {marked : List String} {queue : List (String × Nat)}

theorem initial (graph : Graph) (start : String) (depth : Nat) : Searching graph start depth [] [(start, 0)] where
  distinct := List.nodup_nil
  ordered := List.Pairwise.nil
  near := by simp
  reached := by simp [hops]
  sorted := List.pairwise_singleton ..
  span := by simp
  behind := by simp
  begun := .inr (by simp)
  frontier := by simp

/-- For an unmarked file that a short walk leads to, someone in the queue is at least as near. -/
theorem waiting (searching : Searching graph start depth marked queue) {path : String}
    (walk : graph.undirected.Walk path start) (short : walk.length ≤ depth) (fresh : path ∉ marked) :
    ∃ entry ∈ queue, entry.2 ≤ walk.length := by
  induction walk with
  | nil =>
    rcases searching.begun with member | member
    · exact absurd member fresh
    · exact ⟨_, member, Nat.zero_le _⟩
  | @cons path next start edge rest ih =>
    rw [SimpleGraph.Walk.length_cons] at short ⊢
    by_cases member : next ∈ marked
    · have close : graph.hops start next ≤ rest.length := by
        rw [hops, SimpleGraph.edist_comm]
        exact SimpleGraph.edist_le rest
      rcases searching.frontier next member rest.length (by omega) close path edge.symm with
        marked | ⟨entry, inside, -, bound⟩
      · exact absurd marked fresh
      · exact ⟨entry, inside, bound⟩
    · obtain ⟨entry, inside, bound⟩ := ih searching (by omega) member
      exact ⟨entry, inside, by omega⟩

/-- A file that leaves the queue for the first time is as far away as its entry says. -/
theorem exact (searching : Searching graph start depth marked queue) {path : String} {distance : Nat}
    {rest : List (String × Nat)} (first : queue = (path, distance) :: rest) (fresh : path ∉ marked) :
    graph.hops start path = distance := by
  subst first
  obtain ⟨upper, bound⟩ := searching.reached (path, distance) (by simp)
  refine le_antisymm upper (le_of_not_gt fun less => ?_)
  obtain ⟨walk, length⟩ := SimpleGraph.exists_walk_of_edist_ne_top (ne_top_of_lt less)
  have shorter : walk.length < distance := by
    rw [hops, ← length] at less
    exact_mod_cast less
  obtain ⟨entry, member, earlier⟩ :=
    searching.waiting walk.reverse (by rw [SimpleGraph.Walk.length_reverse]; dsimp only at bound; omega) fresh
  rw [SimpleGraph.Walk.length_reverse] at earlier
  rcases List.mem_cons.mp member with rfl | later
  · dsimp only at earlier
    omega
  · have sorted := (List.pairwise_cons.mp searching.sorted).1 entry later
    dsimp only at sorted
    omega

/-- A file that is marked already leaves the queue without a trace. -/
theorem skip {path : String} {distance : Nat} {rest : List (String × Nat)}
    (searching : Searching graph start depth marked ((path, distance) :: rest)) (seen : path ∈ marked) :
    Searching graph start depth marked rest where
  distinct := searching.distinct
  ordered := searching.ordered
  near := searching.near
  reached entry member := searching.reached entry (List.mem_cons_of_mem _ member)
  sorted := (List.pairwise_cons.mp searching.sorted).2
  span a first b second := searching.span a (List.mem_cons_of_mem _ first) b (List.mem_cons_of_mem _ second)
  behind path member entry waits := searching.behind path member entry (List.mem_cons_of_mem _ waits)
  begun := by
    rcases searching.begun with member | member
    · exact .inl member
    · rcases List.mem_cons.mp member with same | later
      · obtain ⟨rfl, -⟩ := Prod.mk.inj same
        exact .inl seen
      · exact .inr later
  frontier := by
    intro other member far bound close next edge
    rcases searching.frontier other member far bound close next edge with marked | ⟨entry, waits, rfl, early⟩
    · exact .inl marked
    · rcases List.mem_cons.mp waits with rfl | later
      · exact .inl seen
      · exact .inr ⟨entry, later, rfl, early⟩

/-- Marking a file keeps the search sound when exactly its neighbours go to the end of the queue, one step further. -/
theorem mark {path : String} {distance : Nat} {rest : List (String × Nat)}
    (searching : Searching graph start depth marked ((path, distance) :: rest)) (fresh : path ∉ marked)
    (further : List (String × Nat))
    (near : ∀ entry ∈ further, distance < depth ∧ entry.2 = distance + 1 ∧ graph.undirected.Adj path entry.1)
    (all : distance < depth → ∀ next, graph.undirected.Adj path next → next ∈ marked ∨ (next, distance + 1) ∈ further) :
    Searching graph start depth (marked ++ [path]) (rest ++ further) := by
  have away : graph.hops start path = distance := searching.exact rfl fresh
  have bound : distance ≤ depth := (searching.reached (path, distance) (by simp)).2
  have window : ∀ entry ∈ rest ++ further, distance ≤ entry.2 ∧ entry.2 ≤ distance + 1 := by
    intro entry member
    rcases List.mem_append.mp member with old | new
    · exact ⟨(List.pairwise_cons.mp searching.sorted).1 entry old,
        searching.span (path, distance) (by simp) entry (List.mem_cons_of_mem _ old)⟩
    · have same := (near entry new).2.1
      omega
  have behind : ∀ other ∈ marked ++ [path], graph.hops start other ≤ distance := by
    intro other member
    rcases List.mem_append.mp member with old | new
    · exact searching.behind other old (path, distance) (by simp)
    · rw [List.mem_singleton.mp new, away]
  constructor
  case distinct =>
    refine List.nodup_append.mpr ⟨searching.distinct, by simp, ?_⟩
    intro other member last single same
    exact fresh (List.mem_singleton.mp single ▸ same ▸ member)
  case ordered =>
    refine List.pairwise_append.mpr ⟨searching.ordered, by simp, ?_⟩
    intro other member last single
    rw [List.mem_singleton.mp single, away]
    exact behind other (List.mem_append_left _ member)
  case near =>
    intro other member
    exact le_trans (behind other member) (by exact_mod_cast bound)
  case reached =>
    intro entry member
    rcases List.mem_append.mp member with old | new
    · exact searching.reached entry (List.mem_cons_of_mem _ old)
    · obtain ⟨room, same, edge⟩ := near entry new
      rw [same]
      exact ⟨by simpa [away] using hops_step edge start, by omega⟩
  case sorted =>
    refine List.pairwise_append.mpr ⟨(List.pairwise_cons.mp searching.sorted).2, ?_, ?_⟩
    · refine List.pairwise_of_forall_mem_list fun a first b second => ?_
      rw [(near a first).2.1, (near b second).2.1]
    · intro old first new last
      have same := (near new last).2.1
      have early := (window old (List.mem_append_left _ first)).2
      omega
  case span =>
    intro a first b second
    have low := (window a first).1
    have high := (window b second).2
    omega
  case behind =>
    intro other member entry waits
    have low := (window entry waits).1
    exact le_trans (behind other member) (by exact_mod_cast low)
  case begun =>
    rcases searching.begun with member | member
    · exact .inl (List.mem_append_left _ member)
    · rcases List.mem_cons.mp member with same | later
      · obtain ⟨rfl, -⟩ := Prod.mk.inj same
        exact .inl (by simp)
      · exact .inr (List.mem_append_left _ later)
  case frontier =>
    intro other member far room close next edge
    rcases List.mem_append.mp member with old | new
    · rcases searching.frontier other old far room close next edge with marked | ⟨entry, waits, rfl, early⟩
      · exact .inl (List.mem_append_left _ marked)
      · rcases List.mem_cons.mp waits with rfl | later
        · exact .inl (by simp)
        · exact .inr ⟨entry, List.mem_append_left _ later, rfl, early⟩
    · obtain rfl := List.mem_singleton.mp new
      have less : distance ≤ far := by
        rw [away] at close
        exact_mod_cast close
      rcases all (by omega) next edge with marked | waits
      · exact .inl (List.mem_append_left _ marked)
      · exact .inr ⟨_, List.mem_append_right _ waits, rfl, by dsimp only; omega⟩

/-- Once nobody waits, exactly the files within the depth are marked. -/
theorem mem_iff (searching : Searching graph start depth marked []) (path : String) :
    path ∈ marked ↔ graph.hops start path ≤ depth := by
  refine ⟨searching.near path, fun close => ?_⟩
  have finite : graph.undirected.edist start path ≠ ⊤ := ne_top_of_le_ne_top (ENat.natCast_ne_top depth) close
  obtain ⟨walk, length⟩ := SimpleGraph.exists_walk_of_edist_ne_top finite
  have short : walk.length ≤ depth := by
    rw [hops, ← length] at close
    exact_mod_cast close
  by_contra fresh
  obtain ⟨_, waits, -⟩ := searching.waiting walk.reverse (by rwa [SimpleGraph.Walk.length_reverse]) fresh
  simp at waits

/-- A search in a graph whose edges are held at both ends ends with nobody waiting. -/
theorem run {depth : Int} (both : ∀ a b, graph.undirected.Adj a b ↔ b ∈ graph.neighbours a)
    (searching : Searching graph start depth.toNat marked queue) :
    Searching graph start depth.toNat (clusterFrom graph depth marked queue) [] := by
  fun_induction clusterFrom graph depth marked queue with
  | case1 marked => exact searching
  | case2 marked path distance rest seen ih => exact ih (searching.skip seen)
  | case3 marked path distance rest fresh deep ih =>
    apply ih
    simpa using searching.mark fresh [] (by simp) (fun room => by omega)
  | case4 marked path distance rest fresh shallow unknown ih =>
    apply ih
    simpa using searching.mark fresh [] (by simp) (fun _ next edge => by simp [both, neighbours_unknown unknown] at edge)
  | case5 marked path distance rest fresh shallow node found further ih =>
    have around := neighbours_known found
    apply ih
    apply searching.mark fresh
    · intro entry member
      obtain ⟨next, inside, rfl⟩ := List.mem_map.mp member
      obtain ⟨inside, -⟩ := List.mem_filter.mp inside
      exact ⟨by omega, rfl, (both path next).mpr (around ▸ inside)⟩
    · intro _ next edge
      by_cases known : next ∈ marked
      · exact .inl known
      · have apart : next ≠ path := edge.ne.symm
        refine .inr (List.mem_map.mpr ⟨next, List.mem_filter.mpr ⟨around ▸ (both path next).mp edge, ?_⟩, rfl⟩)
        simp [known, apart]

end Searching

theorem clusterFrom_extends (graph : Graph) (depth : Int) (marked : List String) (queue : List (String × Nat)) :
    marked <+: clusterFrom graph depth marked queue := by
  fun_induction clusterFrom graph depth marked queue with
  | case1 marked => exact List.prefix_rfl
  | case2 marked path distance rest seen ih => exact ih
  | case3 | case4 | case5 => exact (List.prefix_append _ _).trans ‹_›

theorem cluster_extends (graph : Graph) (path : String) (depth : Option Int) : [path] <+: graph.cluster path depth := by
  rw [cluster, clusterFrom, dif_neg List.not_mem_nil]
  split
  · exact clusterFrom_extends graph _ [path] _
  · split <;> exact clusterFrom_extends graph _ [path] _

theorem cluster_unknown {graph : Graph} {path : String} (unknown : path ∉ graph.paths) (depth : Option Int) :
    graph.cluster path depth = [path] := by
  have absent : graph.node? path = none := by
    rw [node?, List.find?_eq_none]
    intro node member
    simpa using fun same => unknown (List.mem_map.mpr ⟨node, member, same⟩)
  rw [cluster, clusterFrom, dif_neg List.not_mem_nil]
  split
  · rw [clusterFrom, List.nil_append]
  · split
    next => rw [clusterFrom, List.nil_append]
    next found => simp [absent] at found

/-- In a built graph the two directions of an edge are one. -/
theorem Tabulates.undirected_iff {listing : Listing} {graph : Graph} (tabulates : Tabulates listing graph)
    (a b : String) :
    graph.undirected.Adj a b ↔ b ∈ graph.neighbours a := by
  have swap (a b : String) : b ∈ graph.neighbours a ↔ a ∈ graph.neighbours b := by
    simp only [neighbours, List.mem_append, tabulates.mem_dependencies_iff]
    exact or_comm
  have apart (a : String) : a ∉ graph.neighbours a := by
    simp only [neighbours, List.mem_append, ← tabulates.mem_dependencies_iff, or_self]
    intro imported
    cases found : graph.node? a with
    | none => simp [dependencies, found] at imported
    | some node =>
      obtain ⟨member, rfl⟩ := node?_some found
      exact tabulates.apart node member (by simpa [dependencies, found] using imported)
  simp only [undirected, SimpleGraph.fromRel_adj, swap b a, or_self]
  exact ⟨And.right, fun member => ⟨fun same => apart a (same ▸ member), member⟩⟩

/-- In a built graph a cluster is searched to its end. -/
theorem Tabulates.searched {listing : Listing} {graph : Graph} (tabulates : Tabulates listing graph) (path : String)
    (depth : Option Int) :
    Searching graph path (depth.getD graph.clusterDepth).toNat (graph.cluster path depth) [] :=
  (Searching.initial graph path _).run tabulates.undirected_iff

/-- Edges end at files of the graph. -/
theorem Tabulates.mem_paths_of_adj {listing : Listing} {graph : Graph} (tabulates : Tabulates listing graph)
    {path other : String} (edge : graph.undirected.Adj path other) : path ∈ graph.paths := by
  have near := (tabulates.undirected_iff other path).mp edge.symm
  rw [neighbours, List.mem_append, ← tabulates.mem_dependencies_iff] at near
  rcases near with imported | importing
  · cases found : graph.node? other with
    | none => simp [dependencies, found] at imported
    | some node =>
      obtain ⟨member, -⟩ := node?_some found
      exact tabulates.known node member path (by simpa [dependencies, found] using imported)
  · cases found : graph.node? path with
    | none => simp [dependencies, found] at importing
    | some node =>
      obtain ⟨member, rfl⟩ := node?_some found
      exact List.mem_map_of_mem member

theorem Tabulates.mem_paths_of_near {listing : Listing} {graph : Graph} (tabulates : Tabulates listing graph)
    {start path : String} {distance : Nat} (known : start ∈ graph.paths) (near : graph.hops start path ≤ distance) :
    path ∈ graph.paths := by
  have finite : graph.undirected.edist start path ≠ ⊤ := ne_top_of_le_ne_top (ENat.natCast_ne_top distance) near
  obtain ⟨walk, -⟩ := SimpleGraph.exists_walk_of_edist_ne_top finite
  cases walk.reverse with
  | nil => exact known
  | cons edge _ => exact tabulates.mem_paths_of_adj edge

/-- A cluster starts with its file and holds each file within the depth once, the nearer ones first. -/
theorem cluster_build (disk : Disk) (listing : Listing) (earlier : Graph) (path : String) (depth : Int) :
    let built := (build disk listing earlier).value
    let found := built.cluster path (some depth)
    (∀ a b, built.undirected.Adj a b ↔ b ∈ built.dependencies a ∨ b ∈ built.dependents a) ∧
    found.head? = some path ∧ found.Nodup ∧
    (∀ other, other ∈ found ↔ built.undirected.edist path other ≤ (max depth 0).toNat) ∧
    found.Pairwise (fun a b => built.undirected.edist path a ≤ built.undirected.edist path b) ∧
    (path ∉ built.paths → found = [path]) := by
  intro built found
  have tabulates : Tabulates listing built := build_tabulates disk listing earlier
  have searched : Searching built path depth.toNat found [] :=
    (Searching.initial built path depth.toNat).run tabulates.undirected_iff
  refine ⟨?_, ?_, searched.distinct, ?_, searched.ordered, ?_⟩
  · intro a b
    rw [tabulates.undirected_iff, neighbours, List.mem_append]
  · obtain ⟨rest, same⟩ := cluster_extends built path (some depth)
    change (built.cluster path (some depth)).head? = some path
    rw [← same]
    rfl
  · intro other
    have room : (max depth 0).toNat = depth.toNat := by omega
    rw [room]
    exact searched.mem_iff other
  · exact fun unknown => cluster_unknown unknown (some depth)

end Surveyor.Graph
