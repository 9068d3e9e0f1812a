import Surveyor.Graph.Build
import Surveyor.Proofs.Sequence

/-! Adding edges to a table of nodes while specifiers are resolved against it. Each edge is added at both of its ends at
once, so that after any number of edges a node holds the far ends of exactly those edges that touch it; the paths of the
table stay what they were, so no edge has a say in a later one. -/

namespace Surveyor.Graph
open Sequence

/-- A node with the far ends of the edges that touch it, each of them once. -/
def linked (edges : List (String × String)) (node : FileNode) : FileNode :=
  { node with
    imports := ((edges.filter (node.path = ·.1)).map (·.2)).foldl addOnce node.imports
    importedBy := ((edges.filter (node.path = ·.2)).map (·.1)).foldl addOnce node.importedBy }

@[simp] theorem linked_path (edges : List (String × String)) (node : FileNode) :
    (linked edges node).path = node.path := rfl

@[simp] theorem linked_nil : linked [] = id := rfl

theorem linked_append (first second : List (String × String)) (node : FileNode) :
    linked (first ++ second) node = linked second (linked first node) := by
  simp only [linked, List.filter_append, List.map_append, List.foldl_append]
  rfl

@[simp] theorem isKnown_linked (edges : List (String × String)) (nodes : List FileNode) :
    isKnown (nodes.map (linked edges)) = isKnown nodes := by
  funext path
  simp [isKnown, Function.comp_def]

theorem linkNodes_eq_map (nodes : List FileNode) (source target : String) :
    linkNodes nodes source target = nodes.map (linked [(source, target)]) := by
  apply List.map_congr_left
  intro node _
  simp only [linked, List.filter_cons, List.filter_nil, decide_eq_true_eq]
  congr 1 <;> split <;> rfl

/-! ## The loop over the texts -/

/-- What specifiers in a source file lead to among the known paths, apart from the file itself. -/
def targetsIn (known : String → Bool) (aliases : AliasTable) (source : String) (specifiers : List String) :
    List String :=
  (specifiers.filterMap (Imports.resolve known aliases source)).filter (· ≠ source)

def edgesFrom (known : String → Bool) (aliases : AliasTable) : FileNode × Option String → List (String × String)
  | (node, some text) => (targetsIn known aliases node.path (Imports.specifiers text)).map (node.path, ·)
  | (_, none) => []

/-- A specifier adds one edge or none, and no path comes or goes by it. -/
theorem linkSpecifier_eq (aliases : AliasTable) (source : String) (nodes : List FileNode) (specifier : String) :
    linkSpecifier aliases source nodes specifier =
      nodes.map (linked ((targetsIn (isKnown nodes) aliases source [specifier]).map (source, ·))) := by
  unfold linkSpecifier targetsIn
  cases resolved : Imports.resolve (isKnown nodes) aliases source specifier with
  | none => simp [resolved]
  | some target =>
    by_cases same : target = source
    · simp [resolved, same]
    · simp [resolved, same, linkNodes_eq_map]

/-- A partially linked table: the edges so far are at both of their ends, and since the paths are those of the table
without edges, all of them resolve as they would there. -/
theorem foldl_linkSpecifier (aliases : AliasTable) (source : String) (specifiers : List String)
    (nodes : List FileNode) :
    specifiers.foldl (linkSpecifier aliases source) nodes =
      nodes.map (linked ((targetsIn (isKnown nodes) aliases source specifiers).map (source, ·))) := by
  induction specifiers generalizing nodes with
  | nil => exact (List.map_id nodes).symm
  | cons specifier specifiers ih =>
    have split : targetsIn (isKnown nodes) aliases source (specifier :: specifiers) =
        targetsIn (isKnown nodes) aliases source [specifier] ++ targetsIn (isKnown nodes) aliases source specifiers := by
      rw [← List.singleton_append, targetsIn, List.filterMap_append, List.filter_append]
      rfl
    rw [List.foldl_cons, ih, linkSpecifier_eq, isKnown_linked, List.map_map, split, List.map_append]
    exact List.map_congr_left fun node _ => (linked_append _ _ node).symm

theorem linkText_eq (aliases : AliasTable) (nodes : List FileNode) (source : FileNode × Option String) :
    linkText aliases nodes source = nodes.map (linked (edgesFrom (isKnown nodes) aliases source)) := by
  obtain ⟨node, text⟩ := source
  cases text with
  | none => exact (List.map_id nodes).symm
  | some text => exact foldl_linkSpecifier aliases node.path (Imports.specifiers text) nodes

theorem foldl_linkText (aliases : AliasTable) (sources : List (FileNode × Option String)) (nodes : List FileNode) :
    sources.foldl (linkText aliases) nodes =
      nodes.map (linked (sources.flatMap (edgesFrom (isKnown nodes) aliases))) := by
  induction sources generalizing nodes with
  | nil => exact (List.map_id nodes).symm
  | cons source sources ih =>
    rw [List.foldl_cons, ih, linkText_eq, isKnown_linked, List.map_map, List.flatMap_cons]
    exact List.map_congr_left fun node _ => (linked_append _ _ node).symm

/-! ## The table that the edges add up to -/

section Table
variable (targets : FileNode → List String) (nodes : List FileNode)

def edgesAmong : List (String × String) := nodes.flatMap fun node => (targets node).map fun target => (node.path, target)

/-- A node that imports its targets and is imported by the nodes that have it as a target. -/
def entry (node : FileNode) : FileNode :=
  { node with
    imports := (targets node).eraseDups
    importedBy := (nodes.filter fun other => node.path ∈ targets other).map (·.path) }

def table : List FileNode := nodes.map (entry targets nodes)

@[simp] theorem entry_path (node : FileNode) : (entry targets nodes node).path = node.path := rfl

@[simp] theorem entry_kind (node : FileNode) : (entry targets nodes node).kind = node.kind := rfl

@[simp] theorem entry_imports (node : FileNode) : (entry targets nodes node).imports = (targets node).eraseDups := rfl

@[simp] theorem table_paths : (table targets nodes).map (·.path) = nodes.map (·.path) := by
  simp [table, Function.comp_def]

variable {nodes}

private theorem edgesAmong_from (distinct : (nodes.map (·.path)).Nodup) {node : FileNode} (member : node ∈ nodes) :
    ((edgesAmong targets nodes).filter (node.path = ·.1)).map (·.2) = targets node := by
  have own (other : FileNode) :
      (((targets other).map fun target => (other.path, target)).filter (node.path = ·.1)).map (·.2) =
        if node.path = other.path then targets other else [] := by
    split <;> simp [List.filter_map, Function.comp_def, *]
  simp only [edgesAmong, List.filter_flatMap, List.map_flatMap, own]
  induction nodes with
  | nil => simp at member
  | cons first rest ih =>
    obtain ⟨apart, distinct⟩ := List.nodup_cons.mp distinct
    rw [List.flatMap_cons]
    rcases List.mem_cons.mp member with rfl | later
    · have others : (rest.flatMap fun other => if node.path = other.path then targets other else []) = [] := by
        refine List.flatMap_eq_nil_iff.mpr fun other inside => if_neg fun same => apart ?_
        exact List.mem_map.mpr ⟨other, inside, same.symm⟩
      rw [others, if_pos rfl, List.append_nil]
    · have different : node.path ≠ first.path := fun same => apart (List.mem_map.mpr ⟨node, later, same⟩)
      rw [if_neg different, List.nil_append, ih distinct later]

private theorem edgesAmong_to (distinct : (nodes.map (·.path)).Nodup) (path : String) :
    (((edgesAmong targets nodes).filter (path = ·.2)).map (·.1)).eraseDups =
      (nodes.filter fun node => path ∈ targets node).map (·.path) := by
  have own (node : FileNode) :
      (((targets node).map fun target => (node.path, target)).filter (path = ·.2)).map (·.1) =
        ((targets node).filter (path = ·)).map fun _ => node.path := by
    simp [List.filter_map, Function.comp_def]
  have offered (node : FileNode) : (!((targets node).filter (path = ·)).isEmpty) = decide (path ∈ targets node) := by
    rw [Bool.eq_iff_iff]
    simp [List.filter_eq_nil_iff]
  simp only [edgesAmong, List.filter_flatMap, List.map_flatMap, own, eraseDups_flatMap_const _ distinct, offered]

/-- An edge may lead to a node that stands after its source. -/
theorem map_linked_eq_table (distinct : (nodes.map (·.path)).Nodup)
    (bare : ∀ node ∈ nodes, node.imports = [] ∧ node.importedBy = []) :
    nodes.map (linked (edgesAmong targets nodes)) = table targets nodes := by
  apply List.map_congr_left
  intro node member
  obtain ⟨noImports, noImporters⟩ := bare node member
  simp only [linked, entry, noImports, noImporters, foldl_addOnce, edgesAmong_from targets distinct member,
    edgesAmong_to targets distinct]

end Table

end Surveyor.Graph
