import Surveyor.Yaml.Node
import Surveyor.Yaml.ScalarValue

/-!
The value of a YAML document. Nodes are given their values breadth first: a scalar as soon as it is met, the members of
a collection after those of the collections met before it; the first fault on the way is the document's. The result is
a table like that of the nodes, read back into a tree of bounded depth, since a node may contain itself.
-/
namespace Surveyor.Yaml

/-- The value of one node, whose members are indices. -/
inductive Datum where
  | leaf (value : Value)
  | list (items : List Nat)
  /-- Pairs in a row, as items of a list. -/
  | pairs (entries : List (Nat × Nat))
  | mapping (entries : List (Nat × Nat))
  | set (items : List Nat)

private structure Evaluation where
  nodes : Array Node
  data : Array (Option Datum)
  /-- Collections that were met and whose members have no value yet, in order. -/
  waiting : List Nat := []

private abbrev Evaluate := StateT Evaluation (Except Fault)

private def nodeOf (id : Nat) : Evaluate Node := do
  match (← get).nodes[id]? with
  | some node => return node
  | none => throw .malformed

private def setEntries (id : Nat) (tag : Tag) (entries : List (Nat × Nat)) : Evaluate Unit :=
  modify fun s => { s with nodes := s.nodes.setIfInBounds id ⟨tag, .mapping entries⟩ }

private def setTag (id : Nat) (tag : Tag) : Evaluate Unit :=
  modify fun s => { s with nodes := s.nodes.modify id fun node => { node with tag } }

/-- The text of a scalar; a mapping with a default value stands for that value. With more steps than there are nodes,
only a value that leads back to itself uses them up. -/
private def scalarText (steps id : Nat) : Evaluate (List Char) :=
  match steps with
  | 0 => throw .endless
  | steps + 1 => do
    match (← nodeOf id).shape with
    | .scalar text => return text
    | .sequence _ => throw .malformed
    | .mapping entries =>
      match ← entries.findM? fun entry => return (← nodeOf entry.1).tag == .value with
      | some (_, value) => scalarText steps value
      | none => throw .malformed

/-- Splits off the first entry whose key merges other mappings; keys that look like default values become texts on the
way. -/
private def splitMerge (id : Nat) (tag : Tag) :
    List (Nat × Nat) → List (Nat × Nat) → Evaluate (Option Nat)
  | _, [] => return none
  | passed, (key, value) :: rest => do
    match (← nodeOf key).tag with
    | .merge =>
      setEntries id tag (passed ++ rest)
      return some value
    | .value =>
      setTag key .str
      splitMerge id tag (passed ++ [(key, value)]) rest
    | _ => splitMerge id tag (passed ++ [(key, value)]) rest

mutual

/-- Puts the entries of merged mappings before a mapping's own. -/
private def flatten (steps id : Nat) : Evaluate Unit :=
  match steps with
  | 0 => throw .malformed
  | steps + 1 => do
    let merged ← collectMerged steps id
    match ← nodeOf id with
    | ⟨tag, .mapping entries⟩ => setEntries id tag (merged ++ entries)
    | _ => pure ()

/-- Takes the merge keys out of a mapping, and returns what they bring. -/
private def collectMerged (steps id : Nat) : Evaluate (List (Nat × Nat)) :=
  match steps with
  | 0 => throw .malformed
  | steps + 1 => do
    match ← nodeOf id with
    | ⟨tag, .mapping entries⟩ =>
      match ← splitMerge id tag [] entries with
      | none => return []
      | some source =>
        let brought ← mergedEntries steps source
        return brought ++ (← collectMerged steps id)
    | _ => return []

/-- The entries that one merge key brings. Of several mappings the last comes first, so that earlier ones win. -/
private def mergedEntries (steps source : Nat) : Evaluate (List (Nat × Nat)) :=
  match steps with
  | 0 => throw .malformed
  | steps + 1 => do
    match (← nodeOf source).shape with
    | .mapping _ => flattenedEntries steps source
    | .sequence items => return (← items.mapM (flattenedEntries steps)).reverse.flatten
    | .scalar _ => throw .malformed

private def flattenedEntries (steps id : Nat) : Evaluate (List (Nat × Nat)) :=
  match steps with
  | 0 => throw .malformed
  | steps + 1 => do
    match (← nodeOf id).shape with
    | .mapping _ =>
      flatten steps id
      match (← nodeOf id).shape with
      | .mapping entries => return entries
      | _ => throw .malformed
    | _ => throw .malformed

end

/-- Gives a node its value: a scalar's own, or a place among the waiting collections. -/
private def meet (id : Nat) : Evaluate Unit := do
  let s ← get
  match s.data[id]? with
  | some (some _) => return
  | _ =>
    let node ← nodeOf id
    match node.tag with
    | .seq | .map | .set | .omap | .pairs =>
      modify fun s => { s with data := s.data.setIfInBounds id (some (.list [])), waiting := s.waiting ++ [id] }
    | .merge | .value | .other _ => throw .malformed
    | tag =>
      let text ← scalarText (s.nodes.size + 1) id
      if let (.timestamp, .mapping _) := (tag, node.shape) then throw .mappingForTime
      match ← (ScalarValue.read? tag text : Except Fault (Option Value)) with
      | some value => modify fun s => { s with data := s.data.setIfInBounds id (some (.leaf value)) }
      | none => throw .malformed

/-- A key must be no collection. -/
private def meetKey (id : Nat) : Evaluate Unit := do
  meet id
  match (← get).data[id]? with
  | some (some (.leaf _)) => return
  | _ => throw .malformed

/-- How many entries the mappings of a table have. -/
private def entryCount (nodes : Array Node) : Nat :=
  nodes.foldl
    (fun count node => match node.shape with
      | .mapping entries => count + entries.length
      | _ => count)
    0

/-- The entries of a mapping after their keys and values are met. Each merge key is taken out of the table when it is
followed, and no copied entry is a merge key, so that the entries of the table bound how deep merging goes. -/
private def meetEntries (id : Nat) : Evaluate (List (Nat × Nat)) := do
  match (← nodeOf id).shape with
  | .mapping _ =>
    flatten (4 * entryCount (← get).nodes + 4) id
    match (← nodeOf id).shape with
    | .mapping entries =>
      for (key, value) in entries do
        meetKey key
        meet value
      return entries
    | _ => throw .malformed
  | _ => throw .malformed

private def meetPairs (items : List Nat) : Evaluate (List (Nat × Nat)) :=
  items.mapM fun item => do
    match (← nodeOf item).shape with
    | .mapping [(key, value)] =>
      meet key
      meet value
      return (key, value)
    | _ => throw .malformed

/-- Gives the members of a collection their values. -/
private def fill (id : Nat) : Evaluate Unit := do
  let node ← nodeOf id
  let datum ←
    match node.tag, node.shape with
    | .seq, .sequence items => do
      for item in items do meet item
      pure (Datum.list items)
    | .map, _ => pure (.mapping (← meetEntries id))
    | .set, _ => pure (.set ((← meetEntries id).map (·.1)))
    | .omap, .sequence items | .pairs, .sequence items => pure (.pairs (← meetPairs items))
    | _, _ => throw .malformed
  modify fun s => { s with data := s.data.setIfInBounds id (some datum) }

private def fillAll : Nat → Evaluate Unit
  | 0 => return
  | steps + 1 => do
    match (← get).waiting with
    | [] => return
    | id :: rest =>
      modify fun s => { s with waiting := rest }
      fill id
      fillAll steps

/-- Reads the table back into a tree. Collections below the depth are shown empty. -/
private def readBack (data : Array (Option Datum)) : Nat → Nat → Value
  | 0, _ => .null
  | depth + 1, id =>
    let back := readBack data depth
    match data[id]? with
    | some (some (.leaf value)) => value
    | some (some (.list items)) => .list (if depth = 0 then [] else items.map back)
    | some (some (.pairs entries)) =>
      .list (if depth = 0 then [] else entries.map fun (key, value) => .list [back key, back value])
    | some (some (.mapping entries)) =>
      .mapping (if depth = 0 then [] else entries.map fun (key, value) => (back key, back value))
    | some (some (.set items)) => .set (if depth = 0 then [] else items.map back)
    | _ => .null

/-- Whatever reads documents: it gives the value of the only document of a text, or why there is none. A text that breaks
the grammar is malformed; any other fault is one of single values or of the reader itself. -/
abbrev Reader := List Char → Except Fault Value

/-- The value of the only document of a text, down to a depth; a stream without documents has none. -/
def load (depth : Nat) (text : List Char) : Except Fault Value := do
  match ← Nodes.read text with
  | none => return .null
  | some nodes =>
    let start : Evaluation := ⟨nodes.table, Array.replicate nodes.table.size none, []⟩
    let ((), done) ← (meet nodes.root *> fillAll (nodes.table.size + 1)).run start
    return readBack done.data depth nodes.root

end Surveyor.Yaml
