import Surveyor.Proofs.Graph.Linking
import Surveyor.Proofs.Imports.Resolution

/-! The graph of a listing as a whole: which texts are read, what each of them imports, and the table of nodes that
the edges add up to. Nothing that happens while edges are added has a say in later edges. -/

namespace Surveyor.Graph
open Sequence

/-- Whether a path is a node, at whatever place of the listing it stands. -/
def isNode (listing : Listing) : String → Bool := isKnown (bareNodes listing)

def aliasesOf (disk : Disk) (listing : Listing) : AliasTable :=
  (AliasTable.load disk listing.root (AliasTable.configOf listing.files)).value

/-- The text that imports are read out of: that of a file of a parsed kind, if it can be read. -/
def parsedText (disk : Disk) (node : FileNode) : Option String :=
  if node.kind.isParsed then (disk.read node.location.toList).toOption else none

def targetsOf (disk : Disk) (listing : Listing) (node : FileNode) : List String :=
  match parsedText disk node with
  | some text => targetsIn (isNode listing) (aliasesOf disk listing) node.path (Imports.specifiers text)
  | none => []

theorem node?_of_mem {graph : Graph} (distinct : graph.paths.Nodup) {node : FileNode} (member : node ∈ graph.nodes) :
    graph.node? node.path = some node := by
  unfold paths at distinct
  unfold node?
  generalize graph.nodes = nodes at distinct member
  induction nodes with
  | nil => simp at member
  | cons first rest ih =>
    obtain ⟨apart, distinct⟩ := List.nodup_cons.mp distinct
    rcases List.mem_cons.mp member with rfl | later
    · simp
    · have different : first.path ≠ node.path := fun same => apart (List.mem_map.mpr ⟨node, later, same.symm⟩)
      rw [List.find?_cons_of_neg (by simpa using different), ih distinct later]

theorem node?_some {graph : Graph} {path : String} {node : FileNode} (found : graph.node? path = some node) :
    node ∈ graph.nodes ∧ node.path = path :=
  ⟨List.mem_of_find?_eq_some found, by simpa using List.find?_some found⟩

theorem bareNodes_paths (listing : Listing) : (bareNodes listing).map (·.path) = listing.graphFiles.eraseDups := by
  simp [bareNodes, Function.comp_def]

theorem bareNodes_distinct (listing : Listing) : ((bareNodes listing).map (·.path)).Nodup :=
  bareNodes_paths listing ▸ nodup_eraseDups _

theorem bareNodes_kind {listing : Listing} {bare : FileNode} (member : bare ∈ bareNodes listing) :
    bare.kind = FileKind.ofPath bare.path := by
  simp only [bareNodes, List.mem_map] at member
  obtain ⟨path, -, rfl⟩ := member
  dsimp only

theorem bareNodes_location {listing : Listing} {bare : FileNode} (member : bare ∈ bareNodes listing) :
    bare.location = String.ofList (Path.locate listing.root.toList bare.path.toList) := by
  simp only [bareNodes, List.mem_map] at member
  obtain ⟨path, -, rfl⟩ := member
  dsimp only

theorem load_congr {disk later : Disk} {root : String} {config : Option String}
    (same : ∀ path ∈ config, later.read (Path.locate root.toList path.toList) =
      disk.read (Path.locate root.toList path.toList)) :
    AliasTable.load later root config = AliasTable.load disk root config := by
  cases config with
  | none => rfl
  | some path => simp only [AliasTable.load, same path rfl]

theorem textOf_value (disk : Disk) (node : FileNode) :
    (textOf disk node).value = (disk.read node.location.toList).toOption := by
  unfold textOf
  cases disk.read node.location.toList <;> rfl

private theorem edges_eq_edgesAmong (disk : Disk) (listing : Listing) :
    (((bareNodes listing).filter (·.kind.isParsed)).zip
      (((bareNodes listing).filter (·.kind.isParsed)).map fun node => (textOf disk node).value)).flatMap
        (edgesFrom (isNode listing) (aliasesOf disk listing)) =
      edgesAmong (targetsOf disk listing) (bareNodes listing) := by
  rw [← List.map_prod_left_eq_zip, List.flatMap_map, flatMap_filter]
  apply List.flatMap_congr
  intro node _
  simp only [targetsOf, parsedText, textOf_value]
  split
  · cases (disk.read node.location.toList).toOption <;> rfl
  · rfl

/-- A build links a table without edges, and all its edges are those that this table resolves to. -/
theorem build_nodes (disk : Disk) (listing : Listing) (earlier : Graph) :
    (build disk listing earlier).value.nodes = table (targetsOf disk listing) (bareNodes listing) := by
  have bare : ∀ node ∈ bareNodes listing, node.imports = [] ∧ node.importedBy = [] := by
    intro node member
    obtain ⟨_, -, rfl⟩ := List.mem_map.mp member
    exact ⟨rfl, rfl⟩
  rw [← map_linked_eq_table _ (bareNodes_distinct listing) bare, ← edges_eq_edgesAmong]
  exact foldl_linkText ..

@[simp] theorem build_paths (disk : Disk) (listing : Listing) (earlier : Graph) :
    (build disk listing earlier).value.paths = listing.graphFiles.eraseDups := by
  rw [paths, build_nodes, table_paths, bareNodes_paths]

theorem build_distinct (disk : Disk) (listing : Listing) (earlier : Graph) :
    (build disk listing earlier).value.paths.Nodup := by
  rw [build_paths]
  exact nodup_eraseDups _

theorem isNode_iff {listing : Listing} {path : String} : isNode listing path = true ↔ path ∈ listing.graphFiles := by
  rw [← List.mem_eraseDups, ← bareNodes_paths]
  simp [isNode, isKnown]

theorem targetsOf_isNode {disk : Disk} {listing : Listing} {node : FileNode} {target : String}
    (member : target ∈ targetsOf disk listing node) : isNode listing target = true := by
  unfold targetsOf at member
  split at member
  · obtain ⟨resolved, -⟩ := List.mem_filter.mp member
    obtain ⟨_, -, found⟩ := List.mem_filterMap.mp resolved
    exact Imports.resolve_known found
  · simp at member

theorem targetsOf_apart (disk : Disk) (listing : Listing) (node : FileNode) :
    node.path ∉ targetsOf disk listing node := by
  unfold targetsOf
  split <;> simp [targetsIn]

theorem targetsOf_unparsed {disk : Disk} {listing : Listing} {node : FileNode} (unparsed : node.kind.isParsed = false) :
    targetsOf disk listing node = [] := by
  simp [targetsOf, parsedText, unparsed]

section Lookup
variable {disk : Disk} {listing : Listing} {earlier : Graph}

theorem mem_build_nodes {node : FileNode} :
    node ∈ (build disk listing earlier).value.nodes ↔
      ∃ bare ∈ bareNodes listing, entry (targetsOf disk listing) (bareNodes listing) bare = node := by
  rw [build_nodes]
  exact List.mem_map

theorem build_node? {bare : FileNode} (member : bare ∈ bareNodes listing) :
    (build disk listing earlier).value.node? bare.path =
      some (entry (targetsOf disk listing) (bareNodes listing) bare) :=
  node?_of_mem (build_distinct disk listing earlier) (mem_build_nodes.mpr ⟨bare, member, rfl⟩)

theorem build_dependencies {bare : FileNode} (member : bare ∈ bareNodes listing) :
    (build disk listing earlier).value.dependencies bare.path = (targetsOf disk listing bare).eraseDups := by
  rw [dependencies, build_node? member]
  rfl

end Lookup

theorem contains_build (disk : Disk) (listing : Listing) (earlier : Graph) :
    (build disk listing earlier).value.contains = isNode listing := by
  funext path
  rw [Bool.eq_iff_iff, isNode_iff, ← List.mem_eraseDups, ← build_paths disk listing earlier]
  simp [contains, node?, paths]

theorem parsedText_eq_some_iff {disk : Disk} {node : FileNode} {text : String} :
    parsedText disk node = some text ↔
      node.kind ∈ [.source, .test, .style] ∧ disk.read node.location.toList = .ok text := by
  have kinds : node.kind.isParsed = true ↔ node.kind ∈ [.source, .test, .style] := by simp [FileKind.isParsed]
  rw [← kinds]
  unfold parsedText
  cases disk.read node.location.toList <;> simp [Except.toOption]

/-- What a node imports is read out of its own text alone, against all nodes and the aliases of the whole listing. No
other file has a say, apart from the configuration that the aliases come from. -/
theorem build_imports {disk : Disk} {listing : Listing} {earlier : Graph} {node : FileNode}
    (member : node ∈ (build disk listing earlier).value.nodes) :
    let built := (build disk listing earlier).value
    let aliases := (AliasTable.load disk listing.root (AliasTable.configOf listing.files)).value
    let location (path : String) := Path.locate listing.root.toList path.toList
    (∀ text, node.kind ∈ [.source, .test, .style] → disk.read (location node.path) = .ok text →
      node.imports = (((Imports.specifiers text).filterMap
        (Imports.resolve built.contains aliases node.path)).filter (· ≠ node.path)).eraseDups) ∧
    ((¬ ∃ text, node.kind ∈ [.source, .test, .style] ∧ disk.read (location node.path) = .ok text) →
      node.imports = []) ∧
    ∀ (later : Disk) (before : Graph), later.read (location node.path) = disk.read (location node.path) →
      (∀ config ∈ AliasTable.configOf listing.files, later.read (location config) = disk.read (location config)) →
      (build later listing before).value.dependencies node.path = node.imports := by
  intro built aliases location
  obtain ⟨bare, inside, rfl⟩ := mem_build_nodes.mp member
  have place : bare.location.toList = location bare.path := by rw [bareNodes_location inside, String.toList_ofList]
  simp only [entry_path, entry_kind, entry_imports, ← place]
  refine ⟨?_, ?_, ?_⟩
  · intro text parsed readable
    have found : parsedText disk bare = some text := parsedText_eq_some_iff.mpr ⟨parsed, readable⟩
    simp only [targetsOf, found, built, contains_build]
    rfl
  · intro unread
    have found : parsedText disk bare = none := by
      rw [Option.eq_none_iff_forall_ne_some]
      exact fun text found => unread ⟨text, parsedText_eq_some_iff.mp found⟩
    simp [targetsOf, found]
  · intro later before own config
    have aliases : aliasesOf later listing = aliasesOf disk listing := congrArg Logged.value (load_congr config)
    have text : parsedText later bare = parsedText disk bare := by simp only [parsedText, own]
    rw [build_dependencies inside]
    simp only [targetsOf, aliases, text]

/-- Two files of which the first imports the second by an alias, next to specifiers that lead nowhere. -/
def pair (second : ByteArray) : Disk where
  top := .put (.file "import '@/b'; import './a'; import './c'".toUTF8) ["w", "a.ts"] <|
    .put (.file second) ["w", "b.ts"] <|
    .put (.file "\x7b\"compilerOptions\": \x7b\"paths\": \x7b\"@/*\": [\"./*\"]\x7d\x7d\x7d".toUTF8)
      ["w", "tsconfig.json"] .empty
  valid := .put (.file _) (by decide) <| .put (.file _) (by decide) <| .put (.file _) (by decide) .empty

def pairListing : Listing := { root := "/w", files := ["a.ts", "b.ts", "tsconfig.json"] }

def pairFirst : FileNode :=
  { path := "a.ts", location := "/w/a.ts", kind := .source, imports := ["b.ts"], importedBy := ["b.ts"] }

theorem build_imports_pair :
    let built := (build (pair "import './a'".toUTF8) pairListing {}).value
    pairFirst ∈ built.nodes ∧
    pairFirst.imports = (((Imports.specifiers "import '@/b'; import './a'; import './c'").filterMap
      (Imports.resolve built.contains built.aliases "a.ts")).filter (· ≠ "a.ts")).eraseDups ∧
    (build (pair ⟨#[0xff]⟩) pairListing {}).value.dependencies "a.ts" = pairFirst.imports := by
  have member : pairFirst ∈ (build (pair "import './a'".toUTF8) pairListing {}).value.nodes := by
    decide +kernel
  obtain ⟨own, -, apart⟩ := build_imports member
  refine ⟨member, own _ (by decide) (by decide +kernel), apart (pair ⟨#[0xff]⟩) {} ?_ ?_⟩
  · decide +kernel
  · decide +kernel

end Surveyor.Graph
