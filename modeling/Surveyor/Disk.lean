import Surveyor.Log
import Surveyor.Path
import Surveyor.Text.Lines

/-!
A file system as a tree of entries. Locations are walked part by part, so that a missing part, a file in the middle of
a path and an overlong name fail at the part where they are met. A disk holds valid trees only: each folder gives each of
its names once, and no name can be mistaken for a path. A tree may be deeper than locations are long. There are no links,
and the only right that can be missing is that of listing a folder.
-/
namespace Surveyor

inductive Entry where
  | file (content : ByteArray)
  | folder (children : List (String × Entry))

namespace Entry

def empty : Entry := folder []

def isFolder : Entry → Bool
  | folder _ => true
  | file _ => false

def isFile (entry : Entry) : Bool := !entry.isFolder

/-- What a folder holds; a file holds nothing. -/
def children : Entry → List (String × Entry)
  | folder children => children
  | file _ => []

def child? (name : String) (children : List (String × Entry)) : Option Entry :=
  (children.find? fun child => child.1 == name).map (·.2)

/-- Replaces the child of a name, or adds it. -/
def setChild (children : List (String × Entry)) (name : String) (entry : Entry) : List (String × Entry) :=
  if children.any (·.1 == name) then
    children.map fun child => if child.1 == name then (name, entry) else child
  else children ++ [(name, entry)]

/-- Puts an entry at a path, with the folders that lead to it. -/
def put (entry : Entry) : List String → Entry → Entry
  | [], _ => entry
  | name :: rest, here =>
    folder (setChild here.children name (put entry rest ((child? name here.children).getD empty)))

/-- Takes away the entry at a path, with all below it. -/
def remove : List String → Entry → Entry
  | [], here => here
  | [name], folder children => folder (children.filter (·.1 != name))
  | name :: rest, folder children =>
    match child? name children with
    | some inner => folder (setChild children name (remove rest inner))
    | none => folder children
  | _, file content => file content

def nameLimit : Nat := 255

/-- Walks on from an entry. `above` holds the folders around it, the nearest first; above the top there is the top. -/
def walk (above : List Entry) (here : Entry) : List String → Except Fault Entry
  | [] => .ok here
  | name :: rest =>
    match here with
    | file _ => .error .notFolder
    | folder children =>
      if name = ".." then
        match above with
        | [] => walk [] here rest
        | outer :: further => walk further outer rest
      else if nameLimit < name.utf8ByteSize then .error .nameTooLong
      else
        match child? name children with
        | some inner => walk (here :: above) inner rest
        | none => .error .missing

/-- What a child of a folder may be called. -/
def IsName (name : String) : Prop := name ∉ ["", ".", ".."] ∧ '/' ∉ name.toList ∧ '\x00' ∉ name.toList

instance (name : String) : Decidable (IsName name) := inferInstanceAs (Decidable (_ ∧ _ ∧ _))

inductive Valid : Entry → Prop where
  | file (content : ByteArray) : Valid (file content)
  | folder {children : List (String × Entry)} (distinct : (children.map (·.1)).Nodup)
      (named : ∀ child ∈ children, IsName child.1) (inner : ∀ child ∈ children, Valid child.2) :
      Valid (folder children)

namespace Valid

theorem empty : Valid .empty := .folder List.nodup_nil (by simp) (by simp)

theorem child? {name : String} {children : List (String × Entry)} {entry : Entry} (valid : Valid (.folder children))
    (found : Entry.child? name children = some entry) : IsName name ∧ Valid entry := by
  obtain ⟨child, first, rfl⟩ := Option.map_eq_some_iff.mp found
  have member := List.mem_of_find?_eq_some first
  have same : child.1 = name := by simpa using List.find?_some first
  cases valid with
  | folder distinct named inner => exact ⟨same ▸ named child member, inner child member⟩

theorem setChild {children : List (String × Entry)} {name : String} {entry : Entry} (valid : Valid (.folder children))
    (proper : IsName name) (validEntry : Valid entry) : Valid (.folder (Entry.setChild children name entry)) := by
  cases valid with
  | folder distinct named inner =>
    unfold Entry.setChild
    split
    next =>
      refine .folder ?_ ?_ ?_
      · have same : (children.map fun child => if child.1 == name then (name, entry) else child).map (·.1) =
            children.map (·.1) := by
          rw [List.map_map]
          refine List.map_congr_left fun child _ => ?_
          by_cases renamed : child.1 = name <;> simp [renamed]
        rwa [same]
      all_goals
        intro child member
        obtain ⟨old, present, rfl⟩ := List.mem_map.mp member
        split
      · exact proper
      · exact named old present
      · exact validEntry
      · exact inner old present
    next absent =>
      have fresh : ∀ child ∈ children, child.1 ≠ name := fun child member same =>
        absent (List.any_eq_true.mpr ⟨child, member, by simpa using same⟩)
      refine .folder ?_ ?_ ?_
      · rw [List.map_append, List.nodup_append]
        refine ⟨distinct, by simp, ?_⟩
        intro older present newer single
        obtain ⟨child, member, rfl⟩ := List.mem_map.mp present
        exact List.mem_singleton.mp single ▸ fresh child member
      all_goals
        intro child member
        rcases List.mem_append.mp member with old | new
      · exact named child old
      · exact List.mem_singleton.mp new ▸ proper
      · exact inner child old
      · exact List.mem_singleton.mp new ▸ validEntry

theorem folder_children {here : Entry} (valid : Valid here) : Valid (.folder here.children) := by
  cases here with
  | file => exact empty
  | folder => exact valid

theorem child_getD {here : Entry} (valid : Valid here) {name : String} :
    Valid ((Entry.child? name here.children).getD .empty) := by
  cases found : Entry.child? name here.children with
  | none => exact empty
  | some inner => exact (valid.folder_children.child? found).2

theorem put {entry : Entry} (validEntry : Valid entry) {names : List String} (proper : ∀ name ∈ names, IsName name)
    {here : Entry} (valid : Valid here) : Valid (Entry.put entry names here) := by
  induction names generalizing here with
  | nil => exact validEntry
  | cons name rest ih =>
    exact valid.folder_children.setChild (proper name (by simp))
      (ih (fun name later => proper name (by simp [later])) valid.child_getD)

theorem remove {names : List String} {here : Entry} (valid : Valid here) : Valid (Entry.remove names here) := by
  fun_induction Entry.remove names here with
  | case1 here => exact valid
  | case2 name children =>
    cases valid with
    | folder distinct named inner =>
      refine .folder ?_ ?_ ?_
      · exact distinct.sublist (List.filter_sublist.map _)
      · exact fun child member => named child (List.mem_filter.mp member).1
      · exact fun child member => inner child (List.mem_filter.mp member).1
  | case3 name rest children _ inner found ih =>
    obtain ⟨proper, validInner⟩ := valid.child? found
    exact valid.setChild proper (ih validInner)
  | case4 => exact valid
  | case5 => exact valid

/-- A walk stays among valid entries, since all that it can go back to is valid as well. -/
theorem walk {above : List Entry} {here found : Entry} {names : List String} (valid : Valid here)
    (around : ∀ outer ∈ above, Valid outer) (reached : Entry.walk above here names = .ok found) : Valid found := by
  fun_induction Entry.walk above here names with
  | case1 above here =>
    cases reached
    exact valid
  | case2 => cases reached
  | case3 rest children ih => exact ih valid around reached
  | case4 rest children outer further ih =>
    exact ih (around outer (by simp)) (fun entry member => around entry (by simp [member])) reached
  | case5 => cases reached
  | case6 above name rest children _ _ inner inside ih =>
    refine ih (valid.child? inside).2 (fun outer member => ?_) reached
    rcases List.mem_cons.mp member with rfl | further
    · exact valid
    · exact around outer further
  | case7 => cases reached

end Valid

end Entry

structure Disk where
  top : Entry := .empty
  valid : top.Valid := by exact Entry.Valid.empty
  /-- The locations of the folders that can be entered but not listed. Nothing that is done to a disk changes them. -/
  closed : List (List Char) := []

namespace Disk

/-- How many bytes a location may have to be asked for. -/
def locationLimit : Nat := 4095

private def names (location : List Char) : List String := (Path.parts location).map String.ofList

private theorem isName_of_mem_names {location : List Char} {name : String} (plain : '\x00' ∉ location)
    (member : name ∈ names location) (inward : name ≠ "..") : Entry.IsName name := by
  obtain ⟨part, inside, rfl⟩ := List.mem_map.mp member
  obtain ⟨segment, kept⟩ := List.mem_filter.mp inside
  have filled : part ≠ [] ∧ part ≠ ['.'] := by simpa [Path.current] using kept
  have whole : ∀ c ∈ part, c ∈ location := fun c held => Path.mem_of_mem_segment segment held
  refine ⟨?_, by simpa using Path.slash_not_mem_segment segment, by simpa using fun zero => plain (whole _ zero)⟩
  simp only [List.mem_cons, List.not_mem_nil, or_false, not_or]
  refine ⟨fun same => filled.1 ?_, fun same => filled.2 ?_, inward⟩
  all_goals simpa using congrArg String.toList same

/-- What stands at a location. With a zero character in it that is nothing, as no name has any. -/
def entry (disk : Disk) (location : List Char) : Except Fault Entry :=
  if locationLimit < (String.ofList location).utf8ByteSize then .error .nameTooLong
  else disk.top.walk [] (names location)

theorem entry_valid {disk : Disk} {location : List Char} {found : Entry} (reached : disk.entry location = .ok found) :
    found.Valid := by
  unfold entry at reached
  split at reached
  · cases reached
  · exact disk.valid.walk (by simp) reached

/-- Whether a file is there. A location that cannot be walked holds none. -/
def isFile (disk : Disk) (location : List Char) : Bool :=
  match disk.entry location with
  | .ok found => found.isFile
  | .error _ => false

def isFolder (disk : Disk) (location : List Char) : Bool :=
  match disk.entry location with
  | .ok found => found.isFolder
  | .error _ => false

/-- What keeps the folder at a location from being listed. -/
def unlistable? (disk : Disk) (location : List Char) : Option Fault :=
  match disk.entry location with
  | .error fault => some fault
  | .ok (.file _) => some .notFolder
  | .ok (.folder _) => if disk.closed.contains location then some .denied else none

/-- The text of a file, in UTF-8 and with its line ends made one. -/
def read (disk : Disk) (location : List Char) : Except Fault String :=
  match disk.entry location with
  | .error fault => .error fault
  | .ok (.folder _) => .error .isFolder
  | .ok (.file content) =>
    match String.fromUTF8? content with
    | some text => .ok (String.ofList (Text.unifyLineEnds text.toList))
    | none => .error .undecodable

/-- Walks from a place, innermost name first, to the folder of a path, and makes the folders that are not there
yet; `..` leads back up. Gives the tree and the place that was reached. -/
private def reach (top : Entry) (place : List String) : List String → Except Fault (Entry × List String)
  | [] => .ok (top, place)
  | name :: rest =>
    if name = ".." then reach top (place.drop 1) rest
    else
      let inner := name :: place
      match top.walk [] inner.reverse with
      | .ok (.folder _) => reach top inner rest
      | .ok (.file _) => .error (if rest.isEmpty then .occupied else .notFolder)
      | .error .missing => reach (.put .empty inner.reverse top) inner rest
      | .error fault => .error fault

private theorem reach_valid {top : Entry} {place path : List String} {reached : Entry × List String}
    (found : reach top place path = .ok reached) (valid : top.Valid) (proper : ∀ name ∈ place, Entry.IsName name)
    (inward : ∀ name ∈ path, name ≠ ".." → Entry.IsName name) :
    reached.1.Valid ∧ ∀ name ∈ reached.2, Entry.IsName name := by
  have deeper {name : String} {rest place : List String} (proper : ∀ name ∈ place, Entry.IsName name)
      (inward : ∀ other ∈ name :: rest, other ≠ ".." → Entry.IsName other) (down : name ≠ "..") :
      ∀ other ∈ name :: place, Entry.IsName other := by
    intro other member
    rcases List.mem_cons.mp member with rfl | outer
    · exact inward other (by simp) down
    · exact proper other outer
  fun_induction reach top place path with
  | case1 top place =>
    cases found
    exact ⟨valid, proper⟩
  | case2 top place rest ih =>
    exact ih found valid (fun name inside => proper name (List.mem_of_mem_drop inside))
      fun name later => inward name (List.mem_cons_of_mem _ later)
  | case3 top place name rest down inner children there ih =>
    exact ih found valid (deeper proper inward down) fun name later => inward name (List.mem_cons_of_mem _ later)
  | case4 => cases found
  | case5 top place name rest down inner gone ih =>
    have proper := deeper proper inward down
    refine ih found (.put .empty (fun name member => proper name (List.mem_reverse.mp member)) valid) proper ?_
    exact fun name later => inward name (List.mem_cons_of_mem _ later)
  | case6 => cases found

/-- What keeps entries from being made at a location. -/
private def unusable? (location : List Char) : Option Fault :=
  if '\x00' ∈ location then some .missing
  else if locationLimit < (String.ofList location).utf8ByteSize then some .nameTooLong
  else none

private theorem plain_of_unusable? {location : List Char} (usable : unusable? location = none) : '\x00' ∉ location := by
  intro zero
  simp [unusable?, zero] at usable

/-- Makes a folder, with those that lead to it. One that is there keeps what it holds. -/
def makeFolder (disk : Disk) (location : List Char) : Except Fault Disk :=
  match usable : unusable? location with
  | some fault => .error fault
  | none =>
    match found : reach disk.top [] (names location) with
    | .error fault => .error fault
    | .ok (top, _) =>
      .ok { disk with
            top
            valid := (reach_valid found disk.valid (by simp) fun _ =>
              isName_of_mem_names (plain_of_unusable? usable)).1 }

/-- Puts a file at a location, with the folders that lead to it. -/
def writeFile (disk : Disk) (location : List Char) (content : ByteArray) : Except Fault Disk :=
  match usable : unusable? location with
  | some fault => .error fault
  | none =>
    let path := names location
    match found : reach disk.top [] path.dropLast with
    | .error fault => .error fault
    | .ok (top, folder) =>
      match last : path.getLast? with
      | none => .error .isFolder
      | some name =>
        if up : name = ".." then .error .isFolder
        else
          let place := (name :: folder).reverse
          match top.walk [] place with
          | .ok (.folder _) => .error .isFolder
          | .error .nameTooLong => .error .nameTooLong
          | _ =>
            .ok { disk with
                  top := .put (.file content) place top
                  valid := by
                    have plain := plain_of_unusable? usable
                    obtain ⟨valid, proper⟩ := reach_valid found disk.valid (by simp) fun name member =>
                      isName_of_mem_names plain (List.dropLast_subset _ member)
                    refine Entry.Valid.put (.file content) (fun other member => ?_) valid
                    rcases List.mem_cons.mp (List.mem_reverse.mp member) with rfl | inside
                    · exact isName_of_mem_names plain (List.mem_of_getLast? last) up
                    · exact proper other inside }

def remove (disk : Disk) (location : List Char) : Except Fault Disk := do
  let _ ← disk.entry location
  return { disk with
           top := Entry.remove (names (Path.resolve location)) disk.top
           valid := disk.valid.remove }

end Disk

end Surveyor
