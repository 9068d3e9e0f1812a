import Mathlib.Data.List.DropRight
import Surveyor.Path

/-! Normal forms of paths. A path loses its empty segments and those that stay in place, so that a normal form neither
starts in the current directory nor ends in a slash, unless nothing but slashes is left of it. -/

namespace Surveyor.Path

def IsProper (segment : List Char) : Prop := segment ≠ [] ∧ segment ≠ current ∧ '/' ∉ segment

theorem climb_proper {absolute : Bool} {kept : List (List Char)} {segment : List Char}
    (proper : ∀ part ∈ kept, IsProper part) (whole : '/' ∉ segment) :
    ∀ part ∈ climb absolute kept segment, IsProper part := by
  intro part member
  unfold climb at member
  split at member
  next => exact proper part member
  next present =>
    have fits : IsProper segment := ⟨fun empty => present (.inl empty), fun still => present (.inr still), whole⟩
    split at member
    next =>
      rcases List.mem_cons.mp member with rfl | earlier
      · exact fits
      · exact proper part earlier
    next =>
      split at member
      next =>
        split at member
        · simp at member
        · rw [List.mem_singleton] at member
          exact member ▸ fits
      next inner rest =>
        split at member
        · rcases List.mem_cons.mp member with rfl | earlier
          · exact fits
          · exact proper part earlier
        · exact proper part (List.mem_cons_of_mem _ member)

theorem foldl_climb_proper {absolute : Bool} {kept : List (List Char)} {steps : List (List Char)}
    (proper : ∀ part ∈ kept, IsProper part) (whole : ∀ segment ∈ steps, '/' ∉ segment) :
    ∀ part ∈ steps.foldl (climb absolute) kept, IsProper part := by
  induction steps generalizing kept with
  | nil => exact proper
  | cons segment steps ih =>
    exact ih (climb_proper proper (whole segment List.mem_cons_self))
      fun later member => whole later (List.mem_cons_of_mem _ member)

theorem normalise_eq (path : List Char) :
    ∃ kept, normalise path = lead path ++ ofSegments kept ∧ ∀ part ∈ kept, IsProper part := by
  refine ⟨_, rfl, fun part member => ?_⟩
  rw [List.mem_reverse] at member
  exact foldl_climb_proper (by simp) (fun _ => slash_not_mem_segment) part member

theorem lead_slashes (path : List Char) : ∀ c ∈ lead path, c = '/' := by
  unfold lead
  split <;> simp

theorem ofSegments_cons_cons (first second : List Char) (more : List (List Char)) :
    ofSegments (first :: second :: more) = first ++ '/' :: ofSegments (second :: more) := by
  simp [ofSegments]

@[simp] theorem ofSegments_singleton (segment : List Char) : ofSegments [segment] = segment := by
  simp [ofSegments]

theorem infix_ofSegments {kept : List (List Char)} {segment : List Char} (member : segment ∈ kept) :
    segment <:+: ofSegments kept := by
  induction kept with
  | nil => cases member
  | cons first rest ih =>
    cases rest with
    | nil =>
      obtain rfl := List.mem_singleton.mp member
      simp
    | cons second more =>
      rw [ofSegments_cons_cons]
      rcases List.mem_cons.mp member with rfl | later
      · exact (List.prefix_append ..).isInfix
      · exact (ih later).trans ((List.suffix_cons ..).trans (List.suffix_append ..)).isInfix

theorem ofSegments_segments (path : List Char) : ofSegments (segments path) = path :=
  List.intercalate_splitOn '/'

/-- The name of a path is written in it without a break. -/
theorem name_infix (path : List Char) : name path <:+: path := by
  unfold name
  cases last : (parts path).getLast? with
  | none => exact List.nil_infix
  | some segment =>
    have member : segment ∈ segments path := (List.mem_filter.mp (List.mem_of_getLast? last)).1
    exact ofSegments_segments path ▸ infix_ofSegments member

/-- The last dot of a name starts its suffix, unless the dot is at either end. -/
theorem suffix_of_name {path stem tail : List Char} (named : name path = stem ++ '.' :: tail) (after : stem ≠ [])
    (before : tail ≠ []) (last : '.' ∉ tail) : suffix path = '.' :: tail := by
  have plain : ∀ c ∈ tail.reverse, (c != '.') = true := by
    intro c member
    rw [bne_iff_ne]
    rintro rfl
    exact last (List.mem_reverse.mp member)
  have taken : ((name path).reverse.takeWhile (· != '.')).reverse = tail := by
    rw [named, List.reverse_append, List.reverse_cons, List.append_assoc, List.takeWhile_append_of_pos plain]
    simp
  have long : ¬ (name path).length ≤ tail.length + 1 := by
    have present := List.length_pos_iff.mpr after
    rw [named, List.length_append, List.length_cons]
    omega
  simp only [suffix, taken, List.isEmpty_iff, before, long, decide_false, Bool.or_false, if_false]

theorem ofSegments_getLast? {kept : List (List Char)} (proper : ∀ part ∈ kept, IsProper part) (filled : kept ≠ []) :
    ∃ last ∈ (ofSegments kept).getLast?, last ≠ '/' := by
  induction kept with
  | nil => exact absurd rfl filled
  | cons first rest ih =>
    cases rest with
    | nil =>
      obtain ⟨present, -, whole⟩ := proper first List.mem_cons_self
      refine ⟨first.getLast present, ?_, fun slash => whole (slash ▸ List.getLast_mem present)⟩
      rw [ofSegments_singleton, List.getLast?_eq_some_getLast present]
      rfl
    | cons second more =>
      obtain ⟨last, ends, other⟩ := ih (fun part member => proper part (List.mem_cons_of_mem _ member)) (by simp)
      refine ⟨last, ?_, other⟩
      rw [ofSegments_cons_cons, List.getLast?_append, List.getLast?_cons, ends]
      rfl

theorem ofSegments_away {kept : List (List Char)} (proper : ∀ part ∈ kept, IsProper part) :
    ofSegments kept ≠ current ∧ ¬ ['.', '/'] <+: ofSegments kept := by
  cases kept with
  | nil => simp [ofSegments, current]
  | cons first rest =>
    obtain ⟨present, moves, whole⟩ := proper first List.mem_cons_self
    -- The first segment is more than a dot, so what follows a dot at the start belongs to it and is no slash.
    obtain ⟨c, tail, rfl⟩ := List.exists_cons_of_ne_nil present
    have further (more : List Char) (dotted : c = '.') :
        ∃ next after, (c :: tail) ++ more = '.' :: next :: after ∧ next ≠ '/' := by
      cases tail with
      | nil => exact absurd (by rw [dotted]; rfl) moves
      | cons next after => exact ⟨next, after ++ more, by simp [dotted], by simp_all [eq_comm]⟩
    obtain ⟨more, shape⟩ : ∃ more, ofSegments ((c :: tail) :: rest) = (c :: tail) ++ more := by
      cases rest with
      | nil => exact ⟨[], by simp⟩
      | cons second rest => exact ⟨_, ofSegments_cons_cons ..⟩
    rw [shape]
    constructor
    · intro same
      obtain ⟨next, after, long, -⟩ := further more (List.cons.inj same).1
      simp [long, current] at same
    · rintro ⟨after, same⟩
      obtain ⟨next, last, long, other⟩ := further more (List.cons.inj same).1.symm
      rw [long] at same
      exact other (List.cons.inj (List.cons.inj same).2).1.symm

/-- Beside paths of slashes alone, a normal form has no slash at its end, and it never starts in the current
directory. -/
theorem normalise_clean (path : List Char) :
    ((normalise path).all (· == '/') ∨ ∃ last ∈ (normalise path).getLast?, last ≠ '/') ∧
      normalise path ≠ current ∧ ¬ ['.', '/'] <+: normalise path := by
  obtain ⟨kept, same, proper⟩ := normalise_eq path
  have slashes := lead_slashes path
  rw [same]
  constructor
  · by_cases filled : kept = []
    · left
      simpa [filled, ofSegments] using slashes
    · right
      obtain ⟨last, ends, other⟩ := ofSegments_getLast? proper filled
      refine ⟨last, ?_, other⟩
      rw [List.getLast?_append, ends]
      rfl
  · cases start : lead path with
    | nil => exact ofSegments_away proper
    | cons c more =>
      have slash : c = '/' := slashes c (by simp [start])
      simp [slash, current]

end Surveyor.Path
