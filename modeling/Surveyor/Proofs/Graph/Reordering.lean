import Mathlib.Data.Prod.Lex
import Mathlib.Data.String.Basic
import Surveyor.Proofs.Graph.Construction

/-! Listings of the same files in another order. The compiler configuration is the least file by an order in which no
two files are equal, and every file is resolved against all the others. So two such listings only differ in the order of
nodes, and in the order of those that import a node. -/

namespace Surveyor

namespace AliasTable

/-- Where a path stands among configurations. -/
def rank (path : String) : ℕ ×ₗ String := toLex (Path.depth path.toList, path)

theorem rank_injective : Function.Injective rank := by
  intro a b same
  exact congrArg Prod.snd (toLex.injective same)

theorem comesBefore_iff {a b : String} : comesBefore a b = true ↔ rank a < rank b := by
  simp [comesBefore, rank, Prod.Lex.toLex_lt_toLex]

theorem least?_spec {entries : List String} {best : String} (found : least? comesBefore entries = some best) :
    best ∈ entries ∧ ∀ other ∈ entries, rank best ≤ rank other := by
  have keeps (first : String) (rest : List String) :
      let kept := rest.foldl (fun best entry => if comesBefore entry best then entry else best) first
      kept ∈ first :: rest ∧ ∀ other ∈ first :: rest, rank kept ≤ rank other := by
    induction rest generalizing first with
    | nil => simp
    | cons entry rest ih =>
      rw [List.foldl_cons]
      by_cases before : comesBefore entry first = true
      · rw [if_pos before]
        obtain ⟨member, least⟩ := ih entry
        refine ⟨List.mem_cons_of_mem _ member, fun other inside => ?_⟩
        rcases List.mem_cons.mp inside with rfl | later
        · exact (least entry List.mem_cons_self).trans (comesBefore_iff.mp before).le
        · exact least other later
      · rw [if_neg before]
        obtain ⟨member, least⟩ := ih first
        have start := least first List.mem_cons_self
        constructor
        · rcases List.mem_cons.mp member with same | later
          · rw [same]
            exact List.mem_cons_self
          · exact List.mem_cons_of_mem _ (List.mem_cons_of_mem _ later)
        · intro other inside
          rcases List.mem_cons.mp inside with rfl | later
          · exact start
          · rcases List.mem_cons.mp later with rfl | later
            · exact start.trans (not_lt.mp fun less => before (comesBefore_iff.mpr less))
            · exact least other (List.mem_cons_of_mem _ later)
  cases entries with
  | nil => cases found
  | cons first rest =>
    obtain rfl := Option.some.inj found
    exact keeps first rest

theorem least?_perm {one other : List String} (same : one.Perm other) :
    least? comesBefore one = least? comesBefore other := by
  cases first : least? comesBefore one with
  | none =>
    cases one with
    | nil =>
      rw [List.nil_perm.mp same]
      exact first.symm
    | cons => cases first
  | some best =>
    obtain ⟨member, least⟩ := least?_spec first
    cases second : least? comesBefore other with
    | none =>
      cases other with
      | nil => exact absurd (same.mem_iff.mp member) List.not_mem_nil
      | cons => cases second
    | some rival =>
      obtain ⟨inside, lower⟩ := least?_spec second
      have equal := le_antisymm (least rival (same.mem_iff.mpr inside)) (lower best (same.mem_iff.mp member))
      rw [rank_injective equal]

/-- The configuration of a workspace does not depend on the order in which its files are listed. -/
theorem configOf_perm {one other : List String} (same : one.Perm other) : configOf one = configOf other := by
  unfold configOf
  congr 1
  funext name
  exact least?_perm (same.filter _)

end AliasTable

namespace Graph

section Reordering
variable {one other : Listing} (files : one.files.Perm other.files)
include files

theorem isNode_perm : isNode one = isNode other := by
  funext path
  rw [Bool.eq_iff_iff, isNode_iff, isNode_iff]
  exact (files.filter _).mem_iff

variable (root : one.root = other.root)
include root

theorem bareNodes_perm : (bareNodes one).Perm (bareNodes other) := by
  have paths : one.graphFiles.eraseDups.Perm other.graphFiles.eraseDups := by
    refine (List.perm_ext_iff_of_nodup (Sequence.nodup_eraseDups _) (Sequence.nodup_eraseDups _)).mpr fun path => ?_
    simp only [List.mem_eraseDups]
    exact (files.filter _).mem_iff
  unfold bareNodes
  rw [root]
  exact paths.map _

theorem aliasesOf_perm (disk : Disk) : aliasesOf disk one = aliasesOf disk other := by
  rw [aliasesOf, aliasesOf, root, AliasTable.configOf_perm files]

theorem targetsOf_perm (disk : Disk) (node : FileNode) : targetsOf disk one node = targetsOf disk other node := by
  simp only [targetsOf, isNode_perm files, aliasesOf_perm files root]

end Reordering

theorem build_node?_eq_none {listing : Listing} {path : String} (absent : ∀ bare ∈ bareNodes listing, bare.path ≠ path)
    (disk : Disk) (earlier : Graph) : (build disk listing earlier).value.node? path = none := by
  rw [node?, List.find?_eq_none]
  intro node member
  obtain ⟨bare, inside, rfl⟩ := mem_build_nodes.mp member
  simpa using absent bare inside

theorem build_dependents {listing : Listing} {bare : FileNode} (member : bare ∈ bareNodes listing) (disk : Disk)
    (earlier : Graph) :
    (build disk listing earlier).value.dependents bare.path =
      ((bareNodes listing).filter fun other => bare.path ∈ targetsOf disk listing other).map (·.path) := by
  rw [dependents, build_node? member]
  rfl

/-- Listings of the same files give graphs that differ in the order of their nodes and of those that import a node, and
in nothing else. -/
theorem build_reordered {one other : Listing} (disk : Disk) (earlier before : Graph) (root : one.root = other.root)
    (files : one.files.Perm other.files) :
    let first := (build disk one earlier).value
    let second := (build disk other before).value
    first.paths.Perm second.paths ∧ first.aliases = second.aliases ∧
    ∀ path,
      (first.node? path).map (fun node => (node.kind, node.location, node.imports)) =
        (second.node? path).map (fun node => (node.kind, node.location, node.imports)) ∧
      ∀ importer, importer ∈ first.dependents path ↔ importer ∈ second.dependents path := by
  intro first second
  have nodes := bareNodes_perm files root
  refine ⟨?_, aliasesOf_perm files root disk, fun path => ?_⟩
  · simpa only [first, second, build_paths, bareNodes_paths] using nodes.map (·.path)
  by_cases known : ∃ bare ∈ bareNodes one, bare.path = path
  · obtain ⟨bare, member, rfl⟩ := known
    have inside : bare ∈ bareNodes other := nodes.mem_iff.mp member
    constructor
    · simp only [first, second, build_node? member, build_node? inside, Option.map_some, entry_kind, entry_imports,
        targetsOf_perm files root]
      rfl
    · intro importer
      simp only [first, second, build_dependents member, build_dependents inside, targetsOf_perm files root]
      exact ((nodes.filter _).map _).mem_iff
  · have absent : ∀ bare ∈ bareNodes one, bare.path ≠ path := fun bare member same => known ⟨bare, member, same⟩
    have missing : ∀ bare ∈ bareNodes other, bare.path ≠ path := fun bare member => absent bare (nodes.mem_iff.mpr member)
    simp [first, second, dependents, build_node?_eq_none absent, build_node?_eq_none missing]

/-- The nodes come in another order, and each imports what it did. -/
theorem build_reordered_pair :
    let turned : Listing := { pairListing with files := pairListing.files.reverse }
    let first := (build (pair "import './a'".toUTF8) pairListing {}).value
    let second := (build (pair "import './a'".toUTF8) turned {}).value
    pairListing.root = turned.root ∧ pairListing.files.Perm turned.files ∧
    first.paths = ["a.ts", "b.ts", "tsconfig.json"] ∧ second.paths = ["tsconfig.json", "b.ts", "a.ts"] ∧
    first.aliases = second.aliases ∧
    (first.node? "a.ts").map (fun node => (node.kind, node.location, node.imports)) =
      (second.node? "a.ts").map (fun node => (node.kind, node.location, node.imports)) := by
  intro turned first second
  have root : pairListing.root = turned.root := rfl
  have files : pairListing.files.Perm turned.files := by decide
  obtain ⟨-, aliases, nodes⟩ := build_reordered (pair "import './a'".toUTF8) {} {} root files
  refine ⟨root, files, ?_, ?_, aliases, (nodes "a.ts").1⟩
  · rw [build_paths]
    decide +kernel
  · rw [build_paths]
    decide +kernel

end Graph

end Surveyor
