import Surveyor.Disk
import Surveyor.Proofs.Path

/-! Resolved locations. Such a location is a slash and its segments, none of which leads up, so that it resolves to
itself. A name below it is one segment more, and what stands there is a child of what stands above. -/

namespace Surveyor

theorem Text.unifyLineEnds_plain {text : List Char} (plain : '\r' ∉ text) : unifyLineEnds text = text := by
  induction text with
  | nil => rfl
  | cons c rest ih =>
    obtain ⟨other, later⟩ : '\r' ≠ c ∧ '\r' ∉ rest := by simpa using plain
    rw [unifyLineEnds, ih later]
    · exact fun _ same _ => other same.symm
    · exact fun same => other same.symm

namespace Path

/-- A segment that names an entry of the folder before it. -/
def IsInward (segment : List Char) : Prop := IsProper segment ∧ segment ≠ up

instance (segment : List Char) : Decidable (IsInward segment) :=
  inferInstanceAs (Decidable ((_ ∧ _ ∧ _) ∧ _))

/-- The location that segments lead to from the top. -/
def absolute (segments : List (List Char)) : List Char := '/' :: ofSegments segments

theorem climb_inward {kept : List (List Char)} {segment : List Char} (inward : ∀ part ∈ kept, IsInward part)
    (whole : '/' ∉ segment) : ∀ part ∈ climb true kept segment, IsInward part := by
  intro part member
  have proper := climb_proper (fun part member => (inward part member).1) whole part member
  refine ⟨proper, fun upward => ?_⟩
  subst upward
  unfold climb at member
  split at member
  next => exact (inward up member).2 rfl
  next =>
    split at member
    next down =>
      rcases List.mem_cons.mp member with same | earlier
      · exact down same.symm
      · exact (inward up earlier).2 rfl
    next =>
      split at member
      next => simp at member
      next inner rest =>
        rw [if_neg (inward inner List.mem_cons_self).2] at member
        exact (inward up (List.mem_cons_of_mem _ member)).2 rfl

theorem foldl_climb_inward {kept steps : List (List Char)} (inward : ∀ part ∈ kept, IsInward part)
    (whole : ∀ segment ∈ steps, '/' ∉ segment) : ∀ part ∈ steps.foldl (climb true) kept, IsInward part := by
  induction steps generalizing kept with
  | nil => exact inward
  | cons segment steps ih =>
    exact ih (climb_inward inward (whole segment List.mem_cons_self))
      fun later member => whole later (List.mem_cons_of_mem _ member)

theorem resolve_eq (path : List Char) :
    ∃ kept, resolve path = absolute kept ∧ ∀ part ∈ kept, IsInward part := by
  refine ⟨_, rfl, fun part member => ?_⟩
  exact foldl_climb_inward (by simp) (fun _ => slash_not_mem_segment) part (List.mem_reverse.mp member)

theorem segments_absolute {kept : List (List Char)} (filled : kept ≠ []) (proper : ∀ part ∈ kept, IsProper part) :
    segments (absolute kept) = [] :: kept := by
  have inner : (ofSegments kept).splitOn '/' = kept :=
    List.splitOn_intercalate '/' (fun part member => (proper part member).2.2) filled
  rw [segments, absolute, List.splitOn_cons_eq_if_modifyHead, if_pos (by rfl), inner]

theorem climb_of_isInward {segment : List Char} (inward : IsInward segment) (absolute : Bool)
    (kept : List (List Char)) : climb absolute kept segment = segment :: kept := by
  obtain ⟨⟨present, moves, -⟩, down⟩ := inward
  unfold climb
  rw [if_neg (by simp [present, moves]), if_pos down]

theorem foldl_climb_of_isInward {steps : List (List Char)} (inward : ∀ part ∈ steps, IsInward part)
    (kept : List (List Char)) : steps.foldl (climb true) kept = steps.reverse ++ kept := by
  induction steps generalizing kept with
  | nil => rfl
  | cons segment steps ih =>
    rw [List.foldl_cons, climb_of_isInward (inward segment List.mem_cons_self) true,
      ih fun part member => inward part (List.mem_cons_of_mem _ member)]
    simp

theorem resolve_absolute {kept : List (List Char)} (inward : ∀ part ∈ kept, IsInward part) :
    resolve (absolute kept) = absolute kept := by
  by_cases filled : kept = []
  · subst filled
    rfl
  · rw [resolve, segments_absolute filled fun part member => (inward part member).1, List.foldl_cons]
    have still : climb true [] [] = [] := rfl
    rw [still, foldl_climb_of_isInward inward, List.append_nil, List.reverse_reverse, absolute]

@[simp] theorem resolve_resolve (path : List Char) : resolve (resolve path) = resolve path := by
  obtain ⟨kept, same, inward⟩ := resolve_eq path
  rw [same, resolve_absolute inward]

theorem parts_absolute {kept : List (List Char)} (proper : ∀ part ∈ kept, IsProper part) :
    parts (absolute kept) = kept := by
  by_cases filled : kept = []
  · subst filled
    rfl
  · have all : kept.filter (fun segment => segment != [] && segment != current) = kept := by
      refine List.filter_eq_self.mpr fun part member => ?_
      obtain ⟨present, moves, -⟩ := proper part member
      simp [present, moves]
    rw [parts, segments_absolute filled proper, List.filter_cons, if_neg (by simp), all]

theorem ofSegments_head? {kept : List (List Char)} (proper : ∀ part ∈ kept, IsProper part) :
    (ofSegments kept).head? ≠ some '/' := by
  cases kept with
  | nil => simp [ofSegments]
  | cons first rest =>
    obtain ⟨present, -, whole⟩ := proper first List.mem_cons_self
    obtain ⟨c, tail, rfl⟩ := List.exists_cons_of_ne_nil present
    have other : c ≠ '/' := fun slash => whole (by simp [slash])
    cases rest with
    | nil => simpa using other
    | cons second more => simpa [ofSegments_cons_cons] using other

theorem lead_absolute {kept : List (List Char)} (proper : ∀ part ∈ kept, IsProper part) :
    lead (absolute kept) = ['/'] := by
  have other := ofSegments_head? proper
  rw [absolute]
  cases start : ofSegments kept with
  | nil => rfl
  | cons c rest =>
    rw [start] at other
    unfold lead
    split <;> simp_all

theorem ofSegments_concat {kept : List (List Char)} (filled : kept ≠ []) (name : List Char) :
    ofSegments (kept ++ [name]) = ofSegments kept ++ '/' :: name := by
  induction kept with
  | nil => exact absurd rfl filled
  | cons first rest ih =>
    cases rest with
    | nil => rw [List.singleton_append, ofSegments_cons_cons, ofSegments_singleton, ofSegments_singleton]
    | cons second more =>
      have further := ih (by simp)
      simp only [List.cons_append] at further ⊢
      rw [ofSegments_cons_cons, further, ofSegments_cons_cons, List.append_assoc, List.cons_append]

theorem join_absolute {kept : List (List Char)} {name : List Char} (proper : ∀ part ∈ kept, IsProper part)
    (inward : IsInward name) : join (absolute kept) name = absolute (kept ++ [name]) := by
  have relative : name.head? ≠ some '/' := fun slash => inward.1.2.2 (List.mem_of_mem_head? slash)
  by_cases filled : kept = []
  · subst filled
    rw [join, if_neg relative, if_pos (.inr rfl)]
    simp [absolute, ofSegments]
  · obtain ⟨last, ends, other⟩ := ofSegments_getLast? proper filled
    have open_ : ¬ (absolute kept = [] ∨ (absolute kept).getLast? = some '/') := by
      rintro (empty | slash)
      · cases empty
      · rw [absolute, List.getLast?_cons, ends] at slash
        exact other (Option.some.inj slash)
    rw [join, if_neg relative, if_neg open_, absolute, absolute, ofSegments_concat filled, List.cons_append]

theorem locate_absolute {kept : List (List Char)} {name : List Char} (proper : ∀ part ∈ kept, IsProper part)
    (inward : IsInward name) : locate (absolute kept) name = absolute (kept ++ [name]) := by
  have whole : ∀ part ∈ kept ++ [name], IsProper part := by
    intro part member
    rcases List.mem_append.mp member with earlier | last
    · exact proper part earlier
    · exact List.mem_singleton.mp last ▸ inward.1
  rw [locate, join_absolute proper inward, tidy, lead_absolute whole, parts_absolute whole, absolute,
    List.singleton_append]

/-- A name lengthens every location below which it stands by the same. -/
theorem locate_size (path : List Char) {first second : String} (inwardFirst : IsInward first.toList)
    (inwardSecond : IsInward second.toList) (same : first.utf8ByteSize = second.utf8ByteSize) :
    (String.ofList (locate (resolve path) first.toList)).utf8ByteSize =
      (String.ofList (locate (resolve path) second.toList)).utf8ByteSize := by
  obtain ⟨kept, shape, clean⟩ := resolve_eq path
  have proper : ∀ part ∈ kept, IsProper part := fun part member => (clean part member).1
  rw [shape, locate_absolute proper inwardFirst, locate_absolute proper inwardSecond]
  by_cases filled : kept = []
  · subst filled
    simp [absolute, String.ofList_cons, same]
  · simp [absolute, ofSegments_concat filled, String.ofList_cons, String.ofList_append, same]

end Path

namespace Entry

/-- What stands below an entry under a name. -/
def enter (name : String) : Entry → Except Fault Entry
  | file _ => .error .notFolder
  | folder children =>
    if nameLimit < name.utf8ByteSize then .error .nameTooLong
    else
      match child? name children with
      | some inner => .ok inner
      | none => .error .missing

theorem walk_concat {name : String} (down : name ≠ "..") (above : List Entry) (here : Entry) (names : List String) :
    walk above here (names ++ [name]) = (walk above here names).bind (enter name) := by
  fun_induction walk above here names with
  | case1 above here =>
    cases here with
    | file => rfl
    | folder children =>
      by_cases long : nameLimit < name.utf8ByteSize
      · simp [walk, down, enter, long, Except.bind]
      · cases found : child? name children <;> simp [walk, down, enter, long, found, Except.bind]
  | case2 => rfl
  | case3 rest children ih => simpa [walk] using ih
  | case4 rest children outer further ih => simpa [walk] using ih
  | case5 above name rest children up long => simp [walk, up, long, Except.bind]
  | case6 above name rest children up short inner found ih => simpa [walk, up, short, found] using ih
  | case7 above name rest children up short gone => simp [walk, up, short, gone, Except.bind]

/-- What stands below an entry under names that lead down. -/
def descend (here : Entry) (names : List String) : Except Fault Entry :=
  names.foldlM (fun around name => around.enter name) here

theorem descend_cons (here : Entry) (name : String) (names : List String) :
    here.descend (name :: names) = (here.enter name).bind fun inner => inner.descend names := rfl

theorem walk_append {names : List String} (down : ∀ name ∈ names, name ≠ "..") (above : List Entry) (here : Entry)
    (first : List String) :
    walk above here (first ++ names) = (walk above here first).bind fun entry => entry.descend names := by
  induction names generalizing first with
  | nil =>
    rw [List.append_nil]
    cases walk above here first <;> rfl
  | cons name rest ih =>
    obtain ⟨inward, later⟩ := List.forall_mem_cons.mp down
    rw [List.append_cons, ih later, walk_concat inward]
    cases walk above here first <;> rfl

/-- A walk ends for want of an entry, at a file or at an overlong name. -/
theorem walk_fault {above : List Entry} {here : Entry} {names : List String} {fault : Fault}
    (ended : walk above here names = .error fault) : fault ∈ [.missing, .notFolder, .nameTooLong] := by
  fun_induction walk above here names with
  | case1 => cases ended
  | case2 => cases ended; decide
  | case3 rest children ih => exact ih ended
  | case4 rest children outer further ih => exact ih ended
  | case5 => cases ended; decide
  | case6 above name rest children _ _ inner _ ih => exact ih ended
  | case7 => cases ended; decide

theorem IsName.isProper {name : String} (named : IsName name) : Path.IsProper name.toList := by
  obtain ⟨other, whole, -⟩ := named
  simp only [List.mem_cons, List.not_mem_nil, or_false, not_or] at other
  refine ⟨fun empty => other.1 ?_, fun still => other.2.1 ?_, whole⟩
  · simpa using congrArg String.ofList empty
  · simpa [Path.current] using congrArg String.ofList still

theorem IsName.isInward {name : String} (named : IsName name) : Path.IsInward name.toList := by
  refine ⟨named.isProper, fun upward => named.1 ?_⟩
  have same : name = ".." := String.toList_inj.mp upward
  simp [same]

/-- An entry that was put into an empty folder is found where it was put. -/
theorem walk_put_empty {names : List String} (named : ∀ name ∈ names, IsName name)
    (short : ∀ name ∈ names, name.utf8ByteSize ≤ nameLimit) (entry : Entry) (above : List Entry) :
    walk above (put entry names .empty) names = .ok entry := by
  induction names generalizing above with
  | nil => rfl
  | cons name rest ih =>
    have down : name ≠ ".." := fun same => (named name List.mem_cons_self).1 (by simp [same])
    have fits : ¬ nameLimit < name.utf8ByteSize := Nat.not_lt.mpr (short name List.mem_cons_self)
    have only : put entry (name :: rest) .empty = .folder [(name, put entry rest .empty)] := rfl
    simp only [only, walk, down, fits, if_false, child?, List.find?_cons, beq_self_eq_true, Option.map_some]
    exact ih (fun other later => named other (List.mem_cons_of_mem _ later))
      (fun other later => short other (List.mem_cons_of_mem _ later)) _

end Entry

namespace Disk

/-- What can stand at a location: nothing, a location that is too long, a file or a folder. -/
theorem entry_cases (disk : Disk) (location : List Char) :
    (disk.entry location = .error .missing ∨ disk.entry location = .error .notFolder) ∨
      disk.entry location = .error .nameTooLong ∨
      (∃ content, disk.entry location = .ok (.file content)) ∨
      ∃ children, disk.entry location = .ok (.folder children) := by
  cases reached : disk.entry location with
  | ok entry =>
    cases entry with
    | file content => exact .inr (.inr (.inl ⟨content, rfl⟩))
    | folder children => exact .inr (.inr (.inr ⟨children, rfl⟩))
  | error fault =>
    have known : fault ∈ [.missing, .notFolder, .nameTooLong] := by
      unfold entry at reached
      split at reached
      · cases reached
        decide
      · exact Entry.walk_fault reached
    simp only [List.mem_cons, List.not_mem_nil, or_false] at known
    rcases known with rfl | rfl | rfl
    · exact .inl (.inl rfl)
    · exact .inl (.inr rfl)
    · exact .inr (.inl rfl)

theorem entry_absolute (disk : Disk) {kept : List (List Char)} (proper : ∀ part ∈ kept, Path.IsProper part) :
    disk.entry (Path.absolute kept) =
      if locationLimit < (String.ofList (Path.absolute kept)).utf8ByteSize then .error .nameTooLong
      else disk.top.walk [] (kept.map String.ofList) := by
  unfold entry
  congr 1
  change disk.top.walk [] ((Path.parts _).map String.ofList) = _
  rw [Path.parts_absolute proper]

/-- What steps down from a resolved location lead to, if their own location is not too long. -/
theorem entry_descend {disk : Disk} {kept : List (List Char)} {tree : Entry}
    (found : disk.entry (Path.absolute kept) = .ok tree) (proper : ∀ part ∈ kept, Path.IsProper part)
    {names : List String} (inward : ∀ name ∈ names, Path.IsInward name.toList) :
    let location := Path.absolute (kept ++ names.map String.toList)
    disk.entry location =
      if locationLimit < (String.ofList location).utf8ByteSize then .error .nameTooLong
      else tree.descend names := by
  intro location
  have whole : ∀ part ∈ kept ++ names.map String.toList, Path.IsProper part := by
    intro part member
    rcases List.mem_append.mp member with earlier | below
    · exact proper part earlier
    · obtain ⟨name, inside, rfl⟩ := List.mem_map.mp below
      exact (inward name inside).1
  have down : ∀ name ∈ names, name ≠ ".." := by
    rintro name member rfl
    exact (inward _ member).2 rfl
  have reached : disk.top.walk [] (kept.map String.ofList) = .ok tree := by
    rw [entry_absolute disk proper] at found
    split at found
    · cases found
    · exact found
  have same : (names.map String.toList).map String.ofList = names := by simp [List.map_map, Function.comp_def]
  rw [entry_absolute disk whole, List.map_append, same, Entry.walk_append down, reached]
  rfl

/-- What is found below a folder at a resolved location, if its own location is not too long. -/
theorem entry_locate {disk : Disk} {path : List Char} {folder : Entry} {name : String}
    (found : disk.entry (Path.resolve path) = .ok folder) (inward : Path.IsInward name.toList) :
    let location := Path.locate (Path.resolve path) name.toList
    disk.entry location =
      if locationLimit < (String.ofList location).utf8ByteSize then .error .nameTooLong else folder.enter name := by
  intro location
  obtain ⟨kept, same, clean⟩ := Path.resolve_eq path
  have proper : ∀ part ∈ kept, Path.IsProper part := fun part member => (clean part member).1
  have place : location = Path.absolute (kept ++ [name].map String.toList) := by
    rw [List.map_singleton, ← Path.locate_absolute proper inward, ← same]
  rw [same] at found
  have single : folder.descend [name] = folder.enter name := by
    rw [Entry.descend_cons]
    cases folder.enter name <;> rfl
  rw [place, entry_descend found proper (List.forall_mem_singleton.mpr inward), single]

/-- Below a folder a name of its own limits is only too long together with its location. -/
theorem entry_locate_nameTooLong {disk : Disk} {path : List Char} {children : List (String × Entry)} {name : String}
    (found : disk.entry (Path.resolve path) = .ok (.folder children)) (inward : Path.IsInward name.toList)
    (short : name.utf8ByteSize ≤ Entry.nameLimit) :
    disk.entry (Path.locate (Path.resolve path) name.toList) = .error .nameTooLong ↔
      locationLimit < (String.ofList (Path.locate (Path.resolve path) name.toList)).utf8ByteSize := by
  rw [entry_locate found inward]
  split
  next long => simp [long]
  next fits =>
    simp only [fits, iff_false, Entry.enter, Nat.not_lt.mpr short, if_false]
    split <;> simp

/-- A disk with one folder, `/w`, and the files in it. -/
def workspace (files : List (String × String)) (distinct : (files.map (·.1)).Nodup := by decide)
    (named : ∀ file ∈ files, Entry.IsName file.1 := by decide) : Disk where
  top := .folder [("w", .folder (files.map fun file => (file.1, .file file.2.toUTF8)))]
  valid := by
    have inner : (Entry.folder (files.map fun file => (file.1, .file file.2.toUTF8))).Valid := by
      refine .folder (by simpa [Function.comp_def] using distinct) (fun child member => ?_) fun child member => ?_
      · obtain ⟨file, inside, rfl⟩ := List.mem_map.mp member
        exact named file inside
      · obtain ⟨file, -, rfl⟩ := List.mem_map.mp member
        exact .file _
    exact .folder (by simp) (by simp [Entry.IsName]) (by simpa using inner)

theorem entry_workspace (files : List (String × String)) (distinct : (files.map (·.1)).Nodup)
    (named : ∀ file ∈ files, Entry.IsName file.1) :
    (workspace files distinct named).entry "/w".toList =
      .ok (.folder (files.map fun file => (file.1, .file file.2.toUTF8))) := by
  have fits : ¬ locationLimit < (String.ofList "/w".toList).utf8ByteSize := by decide
  have parts : Path.parts "/w".toList = [['w']] := by decide
  rw [entry, if_neg fits]
  change Entry.walk _ _ ((Path.parts "/w".toList).map String.ofList) = _
  rw [parts]
  rfl

/-- What stands under a name in the folder. -/
theorem entry_workspace_name {files : List (String × String)} {distinct : (files.map (·.1)).Nodup}
    {named : ∀ file ∈ files, Entry.IsName file.1} {name : String} (inward : Path.IsInward name.toList)
    (short : name.utf8ByteSize ≤ Entry.nameLimit)
    (near : (String.ofList (Path.locate "/w".toList name.toList)).utf8ByteSize ≤ locationLimit) :
    (workspace files distinct named).entry (Path.locate "/w".toList name.toList) =
      match files.find? (·.1 == name) with
      | some file => .ok (.file file.2.toUTF8)
      | none => .error .missing := by
  have resolved : Path.resolve "/w".toList = "/w".toList := by decide
  have child : Entry.child? name (files.map fun file => (file.1, .file file.2.toUTF8)) =
      (files.find? (·.1 == name)).map fun file => .file file.2.toUTF8 := by
    simp [Entry.child?, List.find?_map, Function.comp_def]
  have below := entry_locate (resolved.symm ▸ entry_workspace files distinct named) inward
  simp only [resolved, Nat.not_lt.mpr near, if_false, Entry.enter, Nat.not_lt.mpr short, child] at below
  rw [below]
  cases files.find? (·.1 == name) <;> rfl

/-- What is read from a file is the text that was written, if no line of it ends in a carriage return. -/
theorem read_workspace {files : List (String × String)} {distinct : (files.map (·.1)).Nodup}
    {named : ∀ file ∈ files, Entry.IsName file.1} {name text : String}
    (held : files.find? (fun file => file.1 == name) = some (name, text)) (inward : Path.IsInward name.toList)
    (short : name.utf8ByteSize ≤ Entry.nameLimit)
    (near : (String.ofList (Path.locate "/w".toList name.toList)).utf8ByteSize ≤ locationLimit)
    (plain : '\r' ∉ text.toList) :
    (workspace files distinct named).read (Path.locate "/w".toList name.toList) = .ok text := by
  have decoded : String.fromUTF8? text.toUTF8 = some text := dif_pos text.isValidUTF8
  rw [read, entry_workspace_name inward short near, held]
  simp only [decoded, Text.unifyLineEnds_plain plain, String.ofList_toList]

/-- A disk with one file and the folders that lead to it. -/
def lone (names : List String) (text : String) (named : ∀ name ∈ names, Entry.IsName name := by decide) : Disk where
  top := .put (.file text.toUTF8) names .empty
  valid := .put (.file _) named .empty

theorem read_lone {names : List String} {text : String} (named : ∀ name ∈ names, Entry.IsName name)
    (short : ∀ name ∈ names, name.utf8ByteSize ≤ Entry.nameLimit)
    (near : (String.ofList (Path.absolute (names.map String.toList))).utf8ByteSize ≤ locationLimit)
    (plain : '\r' ∉ text.toList) :
    (lone names text named).read (Path.absolute (names.map String.toList)) = .ok text := by
  have proper : ∀ part ∈ names.map String.toList, Path.IsProper part := by
    intro part member
    obtain ⟨name, inside, rfl⟩ := List.mem_map.mp member
    exact (named name inside).isProper
  have walked : (lone names text named).entry (Path.absolute (names.map String.toList)) = .ok (.file text.toUTF8) := by
    rw [entry, if_neg (Nat.not_lt.mpr near)]
    change Entry.walk [] _ ((Path.parts _).map String.ofList) = _
    rw [Path.parts_absolute proper, List.map_map]
    have same : names.map (String.ofList ∘ String.toList) = names := by simp [Function.comp_def]
    rw [same]
    exact Entry.walk_put_empty named short _ []
  have decoded : String.fromUTF8? text.toUTF8 = some text := dif_pos text.isValidUTF8
  rw [read, walked]
  simp only [decoded, Text.unifyLineEnds_plain plain, String.ofList_toList]

end Disk

end Surveyor
