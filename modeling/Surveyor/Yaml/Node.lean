import Surveyor.Yaml.Tag
import Surveyor.Yaml.Token

/-!
The nodes of a YAML document, in a table in which collections name their members by index, so that an alias is one
more name for a node and may stand inside the node that it names.
-/
namespace Surveyor.Yaml

inductive Shape where
  | scalar (text : List Char)
  | sequence (items : List Nat)
  | mapping (entries : List (Nat × Nat))
  deriving DecidableEq

structure Node where
  tag : Tag
  shape : Shape
  deriving DecidableEq

structure Nodes where
  table : Array Node := #[]
  root : Nat := 0

/-- What is left to read, what was built, and the names that hold so far. -/
private structure Builder where
  tokens : List Token
  table : Array Node := #[]
  anchors : List (List Char × Nat) := []
  handles : List (List Char × List Char) := []

private abbrev Build := StateT Builder (Except Fault)

private def peek : Build Token := do
  match (← get).tokens with
  | .fault fault :: _ => throw fault
  | token :: _ => return token
  | [] => throw .malformed

private def skip : Build Unit := modify fun b => { b with tokens := b.tokens.drop 1 }

private def take (token : Token) : Build Bool := do
  if (← peek) == token then skip; return true else return false

private def demand (token : Token) : Build Unit := do
  if !(← take token) then throw .malformed

private def addNode (node : Node) : Build Nat := do
  let b ← get
  set { b with table := b.table.push node }
  return b.table.size

private def setNode (id : Nat) (node : Node) : Build Unit :=
  modify fun b => { b with table := b.table.setIfInBounds id node }

private def emptyNode : Build Nat := addNode ⟨Tag.implicit [], .scalar []⟩

private def addAnchor (name : Option (List Char)) (id : Nat) : Build Unit :=
  match name with
  | some name => modify fun b => { b with anchors := (name, id) :: b.anchors }
  | none => pure ()

/-- The name of a tag after its handle is replaced. -/
private def tagName (handle : Option (List Char)) (suffix : List Char) : Build (List Char) := do
  match handle with
  | none => return suffix
  | some handle =>
    match (← get).handles.find? (·.1 == handle) with
    | some (_, lead) => return lead ++ suffix
    | none => throw .malformed

/-- The anchor and the tag before a node, in either order. -/
private def properties : Build (Option (List Char) × Option (List Char)) := do
  match ← peek with
  | .anchor name =>
    skip
    match ← peek with
    | .tag handle suffix => skip; return (some name, some (← tagName handle suffix))
    | _ => return (some name, none)
  | .tag handle suffix =>
    skip
    match ← peek with
    | .anchor name => skip; return (some name, some (← tagName handle suffix))
    | _ => return (none, some (← tagName handle suffix))
  | _ => return (none, none)

/-- The tag of a collection: its own, or the one that fits its shape. -/
private def collectionTag (name : Option (List Char)) (default : Tag) : Tag :=
  match name with
  | none => default
  | some name => if name == ['!'] then default else Tag.ofName (String.ofList name)

/-- The tag of a scalar. Without a tag, quoted scalars are texts; the tag `!` leaves any scalar to its form. -/
private def scalarTag (name : Option (List Char)) (text : List Char) (plain : Bool) : Tag :=
  match name with
  | none => if plain then Tag.implicit text else .str
  | some name => if name == ['!'] then Tag.implicit text else Tag.ofName (String.ofList name)

/-- The tokens that start no node after a mark of a block collection. -/
private def endsBlockValue (token : Token) : Bool :=
  token == .key || token == .value || token == .blockEnd

mutual

/-- Reads a node. `block` admits block collections, and `indentless` entries without further indentation. -/
private def node (steps : Nat) (block indentless : Bool) : Build Nat :=
  match steps with
  | 0 => throw .malformed
  | steps + 1 => do
    if let .alias name := ← peek then
      skip
      match (← get).anchors.find? (·.1 == name) with
      | some (_, id) => return id
      | none => throw .malformed
    let (anchor, tag) ← properties
    let next ← peek
    match anchor with
    | some name => if (← get).anchors.any (·.1 == name) then throw .malformed
    | none => pure ()
    if indentless && next == .blockEntry then
      collection steps anchor (collectionTag tag .seq) .blockEntry
    else
      match next with
      | .scalar text plain =>
        skip
        let id ← addNode ⟨scalarTag tag text plain, .scalar text⟩
        addAnchor anchor id
        return id
      | .flowSequenceStart => skip; collection steps anchor (collectionTag tag .seq) next
      | .flowMappingStart => skip; collection steps anchor (collectionTag tag .map) next
      | _ =>
        if block && next == .blockSequenceStart then
          skip
          collection steps anchor (collectionTag tag .seq) next
        else if block && next == .blockMappingStart then
          skip
          collection steps anchor (collectionTag tag .map) next
        else if anchor.isSome || tag.isSome then
          let id ← addNode ⟨scalarTag tag [] (tag.isNone || tag == some ['!']), .scalar []⟩
          addAnchor anchor id
          return id
        else throw .malformed

/-- Reads the members of a collection. Its node comes first, so that an alias inside may name it. -/
private def collection (steps : Nat) (anchor : Option (List Char)) (tag : Tag) (opening : Token) : Build Nat :=
  match steps with
  | 0 => throw .malformed
  | steps + 1 => do
    let id ← addNode ⟨tag, .sequence []⟩
    addAnchor anchor id
    let shape ←
      match opening with
      | .blockEntry => return ← finish id (.sequence (← indentlessItems steps))
      | .blockSequenceStart => pure (.sequence (← blockItems steps))
      | .blockMappingStart => pure (.mapping (← blockEntries steps))
      | .flowSequenceStart => pure (.sequence (← flowItems steps true))
      | _ => pure (.mapping (← flowEntries steps true))
    finish id shape
where
  finish (id : Nat) (shape : Shape) : Build Nat := do
    setNode id ⟨tag, shape⟩
    return id

private def blockItems (steps : Nat) : Build (List Nat) :=
  match steps with
  | 0 => throw .malformed
  | steps + 1 => do
    if ← take .blockEntry then
      let next ← peek
      let item ← if next == .blockEntry || next == .blockEnd then emptyNode else node steps true false
      return item :: (← blockItems steps)
    else
      demand .blockEnd
      return []

private def indentlessItems (steps : Nat) : Build (List Nat) :=
  match steps with
  | 0 => throw .malformed
  | steps + 1 => do
    if ← take .blockEntry then
      let next ← peek
      let item ← if next == .blockEntry || endsBlockValue next then emptyNode else node steps true false
      return item :: (← indentlessItems steps)
    else return []

private def blockEntries (steps : Nat) : Build (List (Nat × Nat)) :=
  match steps with
  | 0 => throw .malformed
  | steps + 1 => do
    if ← take .key then
      let key ← if endsBlockValue (← peek) then emptyNode else node steps true true
      let value ←
        if ← take .value then
          if endsBlockValue (← peek) then emptyNode else node steps true true
        else emptyNode
      return (key, value) :: (← blockEntries steps)
    else
      demand .blockEnd
      return []

/-- The value after a key between brackets, which may be missing. -/
private def flowValue (steps : Nat) (close : Token) : Build Nat :=
  match steps with
  | 0 => throw .malformed
  | steps + 1 => do
    if ← take .value then
      let next ← peek
      if next == .flowEntry || next == close then emptyNode else node steps false false
    else emptyNode

/-- The key after its mark between brackets, which may be missing. -/
private def flowKey (steps : Nat) (close : Token) : Build Nat :=
  match steps with
  | 0 => throw .malformed
  | steps + 1 => do
    let next ← peek
    if next == .value || next == .flowEntry || next == close then emptyNode else node steps false false

private def flowItems (steps : Nat) (first : Bool) : Build (List Nat) :=
  match steps with
  | 0 => throw .malformed
  | steps + 1 => do
    if ← take .flowSequenceEnd then return []
    if !first then demand .flowEntry
    if ← take .key then
      let pair ← addNode ⟨.map, .mapping []⟩
      let key ← flowKey steps .flowSequenceEnd
      let value ← flowValue steps .flowSequenceEnd
      setNode pair ⟨.map, .mapping [(key, value)]⟩
      return pair :: (← flowItems steps false)
    else if ← take .flowSequenceEnd then return []
    else
      let item ← node steps false false
      return item :: (← flowItems steps false)

private def flowEntries (steps : Nat) (first : Bool) : Build (List (Nat × Nat)) :=
  match steps with
  | 0 => throw .malformed
  | steps + 1 => do
    if ← take .flowMappingEnd then return []
    if !first then demand .flowEntry
    if ← take .key then
      let key ← flowKey steps .flowMappingEnd
      let value ← flowValue steps .flowMappingEnd
      return (key, value) :: (← flowEntries steps false)
    else if ← take .flowMappingEnd then return []
    else
      let key ← node steps false false
      let value ← emptyNode
      return (key, value) :: (← flowEntries steps false)

end

private def standardHandles : List (List Char × List Char) :=
  [(['!'], ['!']), (['!', '!'], Tag.namespaceName.toList)]

/-- The directives before a document: at most one version, which is 1, and each handle once. -/
private def directivesFrom : Nat → Bool → Build Unit
  | 0, _ => throw .malformed
  | steps + 1, versioned => do
    match ← peek with
    | .versionDirective major =>
      if versioned || major != 1 then throw .malformed
      skip
      directivesFrom steps true
    | .tagDirective handle lead =>
      if (← get).handles.any (·.1 == handle) then throw .malformed
      skip
      modify fun b => { b with handles := b.handles ++ [(handle, lead)] }
      directivesFrom steps versioned
    | .otherDirective => skip; directivesFrom steps versioned
    | _ =>
      modify fun b => { b with handles := b.handles ++ standardHandles }

/-- Reads the directives of a document; those of an earlier one hold no longer. -/
private def directives (steps : Nat) : Build Unit := do
  modify fun b => { b with handles := [] }
  directivesFrom steps false

private def skipDocumentEnds : Nat → Build Unit
  | 0 => throw .malformed
  | steps + 1 => do
    if ← take .documentEnd then skipDocumentEnds steps

/-- Nothing but the end of the stream may follow a document. The directives of a further one are read before it is
refused. -/
private def endStream (steps : Nat) : Build Unit := do
  skipDocumentEnds steps
  if !(← take .streamEnd) then
    directives steps
    throw .malformed

/-- Reads the only document of a stream, if it has one. -/
private def document (steps : Nat) : Build (Option Nat) := do
  match ← peek with
  | .streamEnd => return none
  | .versionDirective _ | .tagDirective .. | .otherDirective | .documentStart =>
    directives steps
    demand .documentStart
    let next ← peek
    let root ←
      match next with
      | .versionDirective _ | .tagDirective .. | .otherDirective | .documentStart | .documentEnd | .streamEnd =>
        emptyNode
      | _ => node steps true false
    endStream steps
    return some root
  | _ =>
    modify fun b => { b with handles := standardHandles }
    let root ← node steps true false
    endStream steps
    return some root

/-- The nodes of the only document of a text; an empty stream has none. -/
def Nodes.read (text : List Char) : Except Fault (Option Nodes) := do
  let stream := tokens text
  let (root, built) ← (document (4 * stream.length + 16)).run { tokens := stream }
  return root.map fun root => ⟨built.table, root⟩

end Surveyor.Yaml
