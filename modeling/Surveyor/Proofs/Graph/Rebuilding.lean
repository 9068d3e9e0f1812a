import Surveyor.Proofs.Graph.Construction

/-! Graphs over a changing disk. Whatever happened before, a build leaves the table of its own listing, with every
edge at both of its ends. -/

namespace Surveyor.Graph
open Sequence

/-- What the nodes of a listing look like, told without the order in which their edges were added. -/
structure Tabulates (listing : Listing) (graph : Graph) : Prop where
  /-- Nodes stand where their files are listed first. -/
  paths : graph.paths = listing.graphFiles.eraseDups
  kinds : ∀ node ∈ graph.nodes, node.kind = FileKind.ofPath node.path
  importers : ∀ node ∈ graph.nodes,
    node.importedBy = graph.paths.filter fun path => node.path ∈ graph.dependencies path
  distinct : ∀ node ∈ graph.nodes, node.imports.Nodup
  apart : ∀ node ∈ graph.nodes, node.path ∉ node.imports
  known : ∀ node ∈ graph.nodes, ∀ target ∈ node.imports, target ∈ graph.paths
  unparsed : ∀ node ∈ graph.nodes, node.kind ∉ [.source, .test, .style] → node.imports = []

/-- Each edge is held at both of its ends. -/
theorem Tabulates.mem_dependencies_iff {listing : Listing} {graph : Graph} (tabulates : Tabulates listing graph)
    (source target : String) : target ∈ graph.dependencies source ↔ source ∈ graph.dependents target := by
  have distinct : graph.paths.Nodup := tabulates.paths ▸ nodup_eraseDups _
  constructor
  · intro imported
    cases found : graph.node? source with
    | none => simp [dependencies, found] at imported
    | some node =>
      obtain ⟨member, rfl⟩ := node?_some found
      have inside : target ∈ node.imports := by simpa [dependencies, found] using imported
      obtain ⟨other, present, rfl⟩ := List.mem_map.mp (tabulates.known node member target inside)
      simp only [dependents, node?_of_mem distinct present, Option.map_some, Option.getD_some]
      rw [tabulates.importers other present]
      exact List.mem_filter.mpr ⟨List.mem_map_of_mem member, decide_eq_true imported⟩
  · intro importing
    cases found : graph.node? target with
    | none => simp [dependents, found] at importing
    | some node =>
      obtain ⟨member, rfl⟩ := node?_some found
      have inside : source ∈ node.importedBy := by simpa [dependents, found] using importing
      rw [tabulates.importers node member] at inside
      exact of_decide_eq_true (List.mem_filter.mp inside).2

private theorem importers_eq (disk : Disk) (listing : Listing) (earlier : Graph) (path : String) :
    ((bareNodes listing).filter fun other => path ∈ targetsOf disk listing other).map (·.path) =
      (build disk listing earlier).value.paths.filter fun other =>
        path ∈ (build disk listing earlier).value.dependencies other := by
  rw [build_paths, ← bareNodes_paths, List.filter_map]
  congr 1
  apply List.filter_congr
  intro other member
  simp only [Function.comp_apply, build_dependencies member, List.mem_eraseDups]

theorem build_tabulates (disk : Disk) (listing : Listing) (earlier : Graph) :
    Tabulates listing (build disk listing earlier).value where
  paths := build_paths disk listing earlier
  kinds := by
    intro node member
    obtain ⟨bare, inside, rfl⟩ := mem_build_nodes.mp member
    rw [entry_kind, entry_path, bareNodes_kind inside]
  importers := by
    intro node member
    obtain ⟨bare, inside, rfl⟩ := mem_build_nodes.mp member
    exact importers_eq disk listing earlier bare.path
  distinct := by
    intro node member
    obtain ⟨bare, inside, rfl⟩ := mem_build_nodes.mp member
    exact nodup_eraseDups _
  apart := by
    intro node member imported
    obtain ⟨bare, inside, rfl⟩ := mem_build_nodes.mp member
    exact targetsOf_apart disk listing bare (List.mem_eraseDups.mp imported)
  known := by
    intro node member target imported
    obtain ⟨bare, inside, rfl⟩ := mem_build_nodes.mp member
    rw [build_paths, List.mem_eraseDups]
    exact isNode_iff.mp (targetsOf_isNode (List.mem_eraseDups.mp imported))
  unparsed := by
    intro node member other
    obtain ⟨bare, inside, rfl⟩ := mem_build_nodes.mp member
    have unparsed : bare.kind.isParsed = false := by simpa [FileKind.isParsed] using other
    rw [entry_imports, targetsOf_unparsed unparsed, List.eraseDups_nil]

/-- What happens to a disk and to the graph over it. A scan that is refused leaves the graph as it is. -/
inductive Event where
  | change (disk : Disk)
  | build (listing : Listing)
  | scan (patterns : List String) (cap : Int) (path : String)

structure Situation where
  disk : Disk
  graph : Graph
  /-- What the last build saw. -/
  last : Option (Disk × Listing) := none

namespace Situation

def rebuild (now : Situation) (listing : Listing) : Situation :=
  { now with graph := (build now.disk listing now.graph).value, last := some (now.disk, listing) }

def step (now : Situation) : Event → Situation
  | .change disk => { now with disk }
  | .build listing => now.rebuild listing
  | .scan patterns cap path =>
    match (Listing.scan now.disk (patterns.filterMap IgnoreRule.parse?) cap path).value with
    | .ok listing => now.rebuild listing
    | .error _ => now

def run (events : List Event) (start : Situation) : Situation := events.foldl step start

/-- The graph is that of the last build alone. -/
def Settled (depth : Int) (now : Situation) : Prop :=
  now.graph = match now.last with
    | none => { clusterDepth := depth }
    | some (disk, listing) => (Graph.build disk listing { clusterDepth := depth }).value

theorem Settled.rebuild {depth : Int} {now : Situation} (settled : now.Settled depth) (listing : Listing) :
    (now.rebuild listing).Settled depth := by
  have same : now.graph.clusterDepth = depth := by
    rw [settled]
    cases now.last <;> rfl
  subst same
  rfl

theorem Settled.step {depth : Int} {now : Situation} (settled : now.Settled depth) (event : Event) :
    (now.step event).Settled depth := by
  cases event with
  | change disk => exact settled
  | build listing => exact settled.rebuild listing
  | scan patterns cap path =>
    unfold Situation.step
    dsimp only
    split
    next listing _ => exact settled.rebuild listing
    next => exact settled

theorem Settled.run {depth : Int} {start : Situation} (settled : start.Settled depth) (events : List Event) :
    (run events start).Settled depth := by
  induction events generalizing start with
  | nil => exact settled
  | cons event events ih => exact ih (settled.step event)

theorem exists_tabulates (disk : Disk) (depth : Int) (events : List Event) :
    ∃ listing, Tabulates listing (run events { disk, graph := { clusterDepth := depth } }).graph := by
  have fresh : Settled depth { disk, graph := { clusterDepth := depth } } := rfl
  have settled := fresh.run events
  unfold Settled at settled
  rw [settled]
  cases (run events { disk, graph := { clusterDepth := depth } }).last with
  | none => exact ⟨{ root := "" }, by constructor <;> simp [paths, Listing.graphFiles]⟩
  | some built => exact ⟨built.2, build_tabulates ..⟩

/-- After any run the table is that of the last listing, and the graph is the one that a fresh start would have built
from it. -/
theorem run_tabulates (disk : Disk) (depth : Int) (events : List Event) :
    let reached := run events { disk, graph := { clusterDepth := depth } }
    match reached.last with
    | none => reached.graph = { clusterDepth := depth }
    | some (seen, listing) =>
      Tabulates listing reached.graph ∧ reached.graph = (Graph.build seen listing { clusterDepth := depth }).value := by
  intro reached
  have fresh : Settled depth { disk, graph := { clusterDepth := depth } } := rfl
  have settled : reached.Settled depth := fresh.run events
  unfold Settled at settled
  cases last : reached.last with
  | none => simpa only [last] using settled
  | some built =>
    simp only [last] at settled
    exact ⟨settled ▸ build_tabulates .., settled⟩

end Situation

end Surveyor.Graph
