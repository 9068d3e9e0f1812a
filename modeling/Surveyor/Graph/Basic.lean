import Surveyor.Imports.Alias
import Surveyor.FileKind
import Surveyor.Text.Casing

/-!
The import graph of a workspace. Each edge is held at both of its ends; nodes stand in the order in which their files
were listed.
-/
namespace Surveyor

structure FileNode where
  path : String
  location : String
  kind : FileKind
  imports : List String := []
  importedBy : List String := []
  deriving DecidableEq, Repr

structure Graph where
  clusterDepth : Int := 1
  /-- The location of the workspace; a graph that was never built has none. -/
  root : Option String := none
  aliases : AliasTable := {}
  nodes : List FileNode := []
  deriving DecidableEq, Repr

namespace Graph

def node? (graph : Graph) (path : String) : Option FileNode := graph.nodes.find? (·.path == path)

def contains (graph : Graph) (path : String) : Bool := (graph.node? path).isSome

def paths (graph : Graph) : List String := graph.nodes.map (·.path)

def size (graph : Graph) : Nat := graph.nodes.length

def dependencies (graph : Graph) (path : String) : List String := ((graph.node? path).map (·.imports)).getD []

def dependents (graph : Graph) (path : String) : List String := ((graph.node? path).map (·.importedBy)).getD []

def edges (graph : Graph) : List (String × String) :=
  graph.nodes.flatMap fun node => node.imports.map fun target => (node.path, target)

def edgeCount (graph : Graph) : Nat := graph.nodes.foldr (fun node count => node.imports.length + count) 0

/-- The paths that hold a keyword, in either case of its letters. -/
def pathsWith (graph : Graph) (keyword : String) : List String :=
  graph.paths.filter fun path => Text.contains (Text.lower path) (Text.lower keyword)

end Graph

/-- The entry at the end unless the list has it. -/
def addOnce (entries : List String) (entry : String) : List String :=
  if entry ∈ entries then entries else entries ++ [entry]

/-- The paths that hold some keyword: those of the first keyword, then further ones of the next. -/
def Graph.pathsWithAny (graph : Graph) (keywords : List String) : List String :=
  keywords.foldl (fun found keyword => (graph.pathsWith keyword).foldl addOnce found) []

/-- Adds an edge at both of its ends. -/
def linkNodes (nodes : List FileNode) (source target : String) : List FileNode :=
  nodes.map fun node =>
    { node with
      imports := if node.path = source then addOnce node.imports target else node.imports
      importedBy := if node.path = target then addOnce node.importedBy source else node.importedBy }

end Surveyor
