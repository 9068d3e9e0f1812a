import Surveyor.Graph.Basic

/-!
The neighbourhood of a file in the import graph, breadth first and in both directions. A file is marked when it leaves
the queue, so it may wait there more than once; the search ends because each step marks a new node or shortens the
queue.
-/
namespace Surveyor.Graph

def unmarked (graph : Graph) (marked : List String) : Nat := graph.nodes.countP (·.path ∉ marked)

private theorem unmarked_le (graph : Graph) (marked : List String) (path : String) :
    graph.unmarked (marked ++ [path]) ≤ graph.unmarked marked :=
  List.countP_mono_left fun node _ fresh => by simp_all

private theorem unmarked_lt {graph : Graph} {marked : List String} {path : String} {node : FileNode}
    (found : graph.node? path = some node) (fresh : path ∉ marked) :
    graph.unmarked (marked ++ [path]) < graph.unmarked marked := by
  have member := List.mem_of_find?_eq_some found
  have same : node.path = path := by simpa using List.find?_some found
  unfold unmarked
  generalize graph.nodes = nodes at member
  induction nodes with
  | nil => simp at member
  | cons first rest ih =>
    have bound : rest.countP (·.path ∉ marked ++ [path]) ≤ rest.countP (·.path ∉ marked) :=
      List.countP_mono_left fun node _ fresh => by simp_all
    rcases List.mem_cons.mp member with rfl | later
    · rw [List.countP_cons_of_neg (by simp [same]), List.countP_cons_of_pos (by simpa [same] using fresh)]
      omega
    · have less := ih later
      by_cases new : first.path ∈ marked ++ [path]
      · rw [List.countP_cons_of_neg (by grind), List.countP_cons]
        omega
      · have old : first.path ∉ marked := fun inside => new (List.mem_append_left _ inside)
        rw [List.countP_cons_of_pos (by grind), List.countP_cons_of_pos (by grind)]
        omega

/-- The files of the queue and their neighbours that are not marked, up to a distance. -/
def clusterFrom (graph : Graph) (depth : Int) (marked : List String) (queue : List (String × Nat)) : List String :=
  match queue with
  | [] => marked
  | (path, distance) :: rest =>
    if _seen : path ∈ marked then clusterFrom graph depth marked rest
    else
      if depth ≤ distance then clusterFrom graph depth (marked ++ [path]) rest
      else
        match _found : graph.node? path with
        | none => clusterFrom graph depth (marked ++ [path]) rest
        | some node =>
          let neighbours := (node.imports ++ node.importedBy).filter (· ∉ marked ++ [path])
          clusterFrom graph depth (marked ++ [path]) (rest ++ neighbours.map fun next => (next, distance + 1))
termination_by (graph.unmarked marked, queue.length)
decreasing_by
  · exact Prod.Lex.right _ (by simp)
  · have bound := unmarked_le graph marked path
    rcases Nat.lt_or_eq_of_le bound with less | same
    · exact Prod.Lex.left _ _ less
    · rw [same]; exact Prod.Lex.right _ (by simp)
  · have bound := unmarked_le graph marked path
    rcases Nat.lt_or_eq_of_le bound with less | same
    · exact Prod.Lex.left _ _ less
    · rw [same]; exact Prod.Lex.right _ (by simp)
  · exact Prod.Lex.left _ _ (unmarked_lt _found _seen)

/-- The files within a number of steps from a path, itself first. Without a depth the graph's own counts. -/
def cluster (graph : Graph) (path : String) (depth : Option Int) : List String :=
  clusterFrom graph (depth.getD graph.clusterDepth) [] [(path, 0)]

end Surveyor.Graph
