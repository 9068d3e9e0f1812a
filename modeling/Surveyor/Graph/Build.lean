import Surveyor.Graph.Basic
import Surveyor.Imports.Resolution
import Surveyor.Imports.Specifier
import Surveyor.Listing

/-!
Building the import graph of a listing. All nodes exist before the first edge is added, so that a file may import one
that is listed after it.
-/
namespace Surveyor.Graph

def bareNodes (listing : Listing) : List FileNode :=
  listing.graphFiles.eraseDups.map fun path =>
    { path
      location := String.ofList (Path.locate listing.root.toList path.toList)
      kind := FileKind.ofPath path }

def textOf (disk : Disk) (node : FileNode) : Logged (Option String) :=
  match disk.read node.location.toList with
  | .ok text => pure (some text)
  | .error fault => do
    Logged.write ⟨.debug, "graph", "Skipping unreadable file " ++ node.location, some (.file fault)⟩
    return none

def isKnown (nodes : List FileNode) (path : String) : Bool := nodes.any (·.path == path)

/-- Adds the edge that a specifier stands for, if it leads to another file of the table. -/
def linkSpecifier (aliases : AliasTable) (source : String) (nodes : List FileNode) (specifier : String) :
    List FileNode :=
  match Imports.resolve (isKnown nodes) aliases source specifier with
  | some target => if target = source then nodes else linkNodes nodes source target
  | none => nodes

/-- Adds the edges of a file with its text. A file that could not be read has none. -/
def linkText (aliases : AliasTable) (nodes : List FileNode) : FileNode × Option String → List FileNode
  | (node, some text) => (Imports.specifiers text).foldl (linkSpecifier aliases node.path) nodes
  | (_, none) => nodes

/-- The graph of a listing. Of an earlier graph only the default depth of clusters remains. -/
def build (disk : Disk) (listing : Listing) (graph : Graph) : Logged Graph := do
  let nodes := bareNodes listing
  let aliases ← AliasTable.load disk listing.root (AliasTable.configOf listing.files)
  let parsed := nodes.filter (·.kind.isParsed)
  let texts ← Logged.mapList (textOf disk) parsed
  let linked := (parsed.zip texts).foldl (linkText aliases) nodes
  Logged.write ⟨.info, "graph", "Built graph with " ++ toString nodes.length ++ " nodes", none⟩
  return { graph with root := some listing.root, aliases, nodes := linked }

end Surveyor.Graph
