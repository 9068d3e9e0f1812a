import Surveyor.Proofs.Fields
import Surveyor.Proofs.Location

/-! The files of a tree, by the names that lead to them. A file that is put into a tree takes the place of what is on its
way or below it, and all other files stay. -/

namespace Surveyor.Entry

/-- The names lead to a file, from folder to folder. -/
inductive HasFile : Entry → List String → Prop where
  | here (content : ByteArray) : HasFile (.file content) []
  | inner {children : List (String × Entry)} {name : String} {entry : Entry} {names : List String}
      (present : (name, entry) ∈ children) (further : HasFile entry names) : HasFile (.folder children) (name :: names)

@[simp] theorem hasFile_file {content : ByteArray} {names : List String} : HasFile (.file content) names ↔ names = [] := by
  constructor
  · rintro ⟨⟩
    rfl
  · rintro rfl
    exact .here content

@[simp] theorem not_hasFile_nil {children : List (String × Entry)} : ¬ HasFile (.folder children) [] := by
  rintro ⟨⟩

theorem hasFile_cons {children : List (String × Entry)} {name : String} {names : List String} :
    HasFile (.folder children) (name :: names) ↔ ∃ entry, (name, entry) ∈ children ∧ HasFile entry names := by
  constructor
  · rintro ⟨⟩
    exact ⟨_, ‹_›, ‹_›⟩
  · rintro ⟨entry, present, further⟩
    exact .inner present further

@[simp] theorem not_hasFile_empty {names : List String} : ¬ HasFile empty names := by
  rintro ⟨⟩
  exact List.not_mem_nil ‹_›

theorem HasFile.isName {tree : Entry} {names : List String} (held : HasFile tree names) (valid : tree.Valid) :
    ∀ name ∈ names, IsName name := by
  induction held with
  | here => simp
  | inner present further ih =>
    cases valid with
    | folder distinct named inner => exact List.forall_mem_cons.mpr ⟨named _ present, ih (inner _ present)⟩

/-- The names on the way to a file lead to folders, unless one of them is too long. -/
theorem HasFile.descend {tree : Entry} {names : List String} (held : HasFile tree names) (valid : tree.Valid)
    {folder : List String} (inside : folder <+: names) (short : folder ≠ names) :
    (∃ children, tree.descend folder = .ok (.folder children)) ↔ ∀ name ∈ folder, name.utf8ByteSize ≤ nameLimit := by
  induction held generalizing folder with
  | here content => exact absurd (List.prefix_nil.mp inside) short
  | @inner children name entry names present further ih =>
    cases folder with
    | nil => exact iff_of_true ⟨children, rfl⟩ (by simp)
    | cons first rest =>
      obtain ⟨rfl, below⟩ := List.cons_prefix_cons.mp inside
      cases valid with
      | folder distinct named inner =>
        have found : child? first children = some entry := Fields.get?_of_mem distinct present
        have later := ih (inner _ present) below (by simpa using short)
        rw [descend_cons, List.forall_mem_cons, ← later, enter, found]
        by_cases long : nameLimit < first.utf8ByteSize
        · simp [long, Nat.not_le.mpr long, Except.bind]
        · simp [long, Nat.not_lt.mp long, Except.bind]

/-! ## Putting a file into a tree -/

theorem mem_setChild {children : List (String × Entry)} {name : String} {entry : Entry} {child : String × Entry} :
    child ∈ setChild children name entry ↔ child = (name, entry) ∨ child ∈ children ∧ child.1 ≠ name := by
  unfold setChild
  split
  next there =>
    obtain ⟨old, present, same⟩ := List.any_eq_true.mp there
    simp only [List.mem_map]
    constructor
    · rintro ⟨other, member, rfl⟩
      split
      next => exact .inl rfl
      next different => exact .inr ⟨member, by simpa using different⟩
    · rintro (rfl | ⟨member, different⟩)
      · exact ⟨old, present, if_pos same⟩
      · exact ⟨child, member, if_neg (by simpa using different)⟩
  next absent =>
    rw [List.mem_append, List.mem_singleton, or_comm]
    refine or_congr_right (iff_self_and.mpr fun member same => absent ?_)
    exact List.any_eq_true.mpr ⟨child, member, by simpa using same⟩

theorem hasFile_child {here : Entry} (valid : here.Valid) {name : String} {names : List String} :
    HasFile ((child? name here.children).getD empty) names ↔ HasFile here (name :: names) := by
  cases valid with
  | file content => exact iff_of_false not_hasFile_empty (by simp)
  | @folder children distinct named inner =>
    rw [hasFile_cons, Entry.children]
    cases found : child? name children with
    | some entry =>
      have present : (name, entry) ∈ children := Fields.mem_of_get? found
      refine ⟨fun held => ⟨entry, present, held⟩, fun ⟨other, member, held⟩ => ?_⟩
      have same : child? name children = some other := Fields.get?_of_mem distinct member
      rw [found] at same
      cases same
      exact held
    | none =>
      refine iff_of_false not_hasFile_empty fun ⟨other, member, held⟩ => ?_
      have same : child? name children = some other := Fields.get?_of_mem distinct member
      rw [found] at same
      cases same

theorem hasFile_put (content : ByteArray) {names others : List String} {here : Entry} (valid : here.Valid) :
    HasFile (put (.file content) names here) others ↔
      others = names ∨ HasFile here others ∧ ¬ others <+: names ∧ ¬ names <+: others := by
  induction names generalizing here others with
  | nil => simp [put]
  | cons name rest ih =>
    cases others with
    | nil => simp [put]
    | cons other more =>
      rw [put, hasFile_cons]
      by_cases same : other = name
      · subst same
        simp only [mem_setChild, Prod.mk.injEq, true_and, ne_eq, not_true_eq_false, and_false, or_false,
          exists_eq_left, ih valid.child_getD, hasFile_child valid, List.cons.injEq, List.cons_prefix_cons]
      · have apart : HasFile here (other :: more) ↔ ∃ entry, (other, entry) ∈ here.children ∧ HasFile entry more := by
          cases here with
          | file => simp [Entry.children]
          | folder children => exact hasFile_cons
        simp [mem_setChild, same, Ne.symm same, apart]

end Surveyor.Entry
