import Surveyor.Proofs.Location

/-! Joined paths. The normal form of a path depends on the slashes at its start and on its parts alone. A joined path
has the parts of both paths one after the other, and a path can be brought into normal form before others are joined to
it. -/

namespace Surveyor.Path

/-! ## Parts -/

theorem parts_append_slash (before after : List Char) :
    parts (before ++ '/' :: after) = parts before ++ parts after := by
  rw [parts, segments, List.splitOn_append_cons_self, List.filter_append]
  rfl

theorem parts_join (base : List Char) {path : List Char} (relative : path.head? ≠ some '/') :
    parts (join base path) = parts base ++ parts path := by
  rw [join, if_neg relative]
  split
  next closed =>
    rcases closed with rfl | ends
    · rfl
    · obtain ⟨outer, rfl⟩ := List.getLast?_eq_some_iff.mp ends
      rw [parts_append_slash outer [], List.append_assoc, List.singleton_append, parts_append_slash]
      simp [parts, segments]
  next => rw [parts_append_slash]

theorem lead_cases (path : List Char) : lead path = [] ∨ lead path = ['/'] ∨ lead path = ['/', '/'] := by
  unfold lead
  split <;> simp

/-- What counts is how many slashes there are at the start. -/
theorem lead_eq_match (path : List Char) :
    lead path =
      match path.takeWhile (· == '/') with
      | [] => []
      | [_, _] => ['/', '/']
      | _ => ['/'] := by
  unfold lead
  split
  next => rfl
  next rest other => cases rest <;> simp_all
  next rest other _ => cases rest <;> simp_all
  next other => cases path <;> simp_all

theorem lead_eq_nil_iff {path : List Char} : lead path = [] ↔ path.head? ≠ some '/' := by
  cases path with
  | nil => simp [lead]
  | cons c rest =>
    by_cases slash : c = '/'
    · subst slash
      rw [lead_eq_match, List.takeWhile_cons_of_pos (by rfl)]
      split <;> simp_all
    · rw [lead_eq_match, List.takeWhile_cons_of_neg (by simpa using slash)]
      simp [slash]

/-- Nothing is added to the slashes at the start, unless a path of slashes is continued by a slash. -/
theorem lead_append {base more : List Char} (stops : more.head? ≠ some '/' ∨ ∃ c ∈ base, c ≠ '/') :
    lead (base ++ more) = lead base := by
  have run : (base ++ more).takeWhile (· == '/') = base.takeWhile (· == '/') := by
    by_cases slashes : ∀ c ∈ base, c = '/'
    · have stop : more.head? ≠ some '/' := stops.resolve_right (by simpa using slashes)
      have same : base.takeWhile (· == '/') = base := List.takeWhile_eq_self_iff.mpr (by simpa using slashes)
      rw [List.takeWhile_append_of_pos (by simpa using slashes), same]
      cases more with
      | nil => simp
      | cons c rest => simp [show c ≠ '/' from fun slash => stop (slash ▸ rfl)]
    · rw [List.takeWhile_append, if_neg]
      intro full
      have same : base.takeWhile (· == '/') = base := (List.takeWhile_prefix _).eq_of_length full
      exact slashes (by simpa using List.takeWhile_eq_self_iff.mp same)
  rw [lead_eq_match, run, ← lead_eq_match]

theorem lead_join (base : List Char) {path : List Char} (relative : path.head? ≠ some '/') :
    lead (join base path) = lead base := by
  rw [join, if_neg relative]
  split
  next => exact lead_append (.inl relative)
  next opened =>
    rw [not_or] at opened
    refine lead_append (.inr ⟨base.getLast opened.1, List.getLast_mem opened.1, fun slash => opened.2 ?_⟩)
    rw [List.getLast?_eq_some_getLast opened.1, slash]

theorem parts_ofSegments {kept : List (List Char)} (proper : ∀ part ∈ kept, IsProper part) :
    parts (ofSegments kept) = kept := by
  have below : parts (absolute kept) = parts [] ++ parts (ofSegments kept) := parts_append_slash [] (ofSegments kept)
  rw [parts_absolute proper] at below
  exact below.symm

theorem parts_lead_append (path more : List Char) : parts (lead path ++ more) = parts more := by
  have below (more : List Char) : parts ('/' :: more) = parts more := parts_append_slash [] more
  rcases lead_cases path with start | start | start <;> simp [start, below]

theorem whole_of_mem_parts {path segment : List Char} (member : segment ∈ parts path) : '/' ∉ segment :=
  slash_not_mem_segment (List.mem_of_mem_filter member)

/-! ## What is left of parts -/

theorem climb_idle {segment : List Char} (idle : segment = [] ∨ segment = current) (absolute : Bool)
    (kept : List (List Char)) : climb absolute kept segment = kept := by
  unfold climb
  exact if_pos idle

theorem foldl_climb_parts (absolute : Bool) (path : List Char) (kept : List (List Char)) :
    (segments path).foldl (climb absolute) kept = (parts path).foldl (climb absolute) kept := by
  rw [parts, List.foldl_filter]
  congr 1
  funext kept segment
  by_cases idle : segment = [] ∨ segment = current
  · rw [climb_idle idle]
    rcases idle with rfl | rfl <;> simp
  · obtain ⟨present, moves⟩ := not_or.mp idle
    simp [present, moves]

/-- Kept segments, the innermost one first, that are all kept again when they are taken from the start. -/
structure Settled (absolute : Bool) (kept : List (List Char)) : Prop where
  proper : ∀ part ∈ kept, IsProper part
  again : kept.reverse.foldl (climb absolute) [] = kept

theorem Settled.climb {absolute : Bool} {kept : List (List Char)} {segment : List Char} (settled : Settled absolute kept)
    (whole : '/' ∉ segment) : Settled absolute (climb absolute kept segment) := by
  refine ⟨climb_proper settled.proper whole, ?_⟩
  have taken : (segment :: kept).reverse.foldl (Path.climb absolute) [] = Path.climb absolute kept segment := by
    rw [List.reverse_cons, List.foldl_append, settled.again, List.foldl_cons, List.foldl_nil]
  by_cases idle : segment = [] ∨ segment = current
  · rw [climb_idle idle]
    exact settled.again
  by_cases upward : segment = up
  · subst upward
    cases kept with
    | nil => cases absolute <;> rfl
    | cons inner rest =>
      by_cases above : inner = up
      · have pushed : Path.climb absolute (inner :: rest) up = up :: inner :: rest := by simp [Path.climb, idle, above]
        rw [pushed] at taken ⊢
        exact taken
      · have popped : Path.climb absolute (inner :: rest) up = rest := by simp [Path.climb, idle, above]
        -- The innermost segment was pushed last, so the others are settled without it.
        have again := settled.again
        rw [List.reverse_cons, List.foldl_append, List.foldl_cons, List.foldl_nil,
          climb_of_isInward ⟨settled.proper inner List.mem_cons_self, above⟩] at again
        rw [popped]
        exact (List.cons.inj again).2
  · have pushed : Path.climb absolute kept segment = segment :: kept := by simp [Path.climb, idle, upward]
    rw [pushed] at taken ⊢
    exact taken

theorem Settled.foldl {absolute : Bool} {kept steps : List (List Char)} (settled : Settled absolute kept)
    (whole : ∀ segment ∈ steps, '/' ∉ segment) : Settled absolute (steps.foldl (Path.climb absolute) kept) := by
  induction steps generalizing kept with
  | nil => exact settled
  | cons segment steps ih =>
    exact ih (settled.climb (whole segment List.mem_cons_self)) fun later member =>
      whole later (List.mem_cons_of_mem _ member)

/-- What is left of steps that are taken one after the other. -/
def settle (absolute : Bool) (steps : List (List Char)) : List (List Char) :=
  (steps.foldl (climb absolute) []).reverse

theorem settled_parts (absolute : Bool) (path : List Char) :
    Settled absolute ((parts path).foldl (climb absolute) []) :=
  Settled.foldl ⟨by simp, rfl⟩ fun _ member => whole_of_mem_parts member

theorem settle_proper (absolute : Bool) (path : List Char) : ∀ part ∈ settle absolute (parts path), IsProper part :=
  fun part member => (settled_parts absolute path).proper part (List.mem_reverse.mp member)

/-- What is left of the parts of a path stands for them, whatever follows. -/
theorem settle_append (absolute : Bool) (path : List Char) (more : List (List Char)) :
    settle absolute (settle absolute (parts path) ++ more) = settle absolute (parts path ++ more) := by
  rw [settle, List.foldl_append, settle, (settled_parts absolute path).again, settle, List.foldl_append]

/-! ## Normal forms -/

theorem normalise_eq_settle (path : List Char) :
    normalise path = lead path ++ ofSegments (settle (!(lead path).isEmpty) (parts path)) := by
  rw [normalise, foldl_climb_parts, settle]

theorem normalise_congr {one other : List Char} (start : lead one = lead other) (same : parts one = parts other) :
    normalise one = normalise other := by
  rw [normalise_eq_settle, normalise_eq_settle, start, same]

@[simp] theorem lead_normalise (path : List Char) : lead (normalise path) = lead path := by
  have inside := ofSegments_head? (settle_proper (!(lead path).isEmpty) path)
  rw [normalise_eq_settle, lead_append (.inl inside)]
  rcases lead_cases path with start | start | start <;> rw [start] <;> rfl

theorem parts_normalise (path : List Char) :
    parts (normalise path) = settle (!(lead path).isEmpty) (parts path) := by
  rw [normalise_eq_settle, parts_lead_append, parts_ofSegments (settle_proper _ path)]

/-- A path may be brought into normal form before another one is joined to it. -/
theorem normalise_join_normalise (base path : List Char) :
    normalise (join (normalise base) path) = normalise (join base path) := by
  by_cases relative : path.head? = some '/'
  · rw [join, if_pos relative, join, if_pos relative]
  · rw [normalise_eq_settle, lead_join _ relative, parts_join _ relative, lead_normalise, parts_normalise, settle_append,
      normalise_eq_settle, lead_join _ relative, parts_join _ relative]

theorem join_assoc (base middle path : List Char) : join (join base middle) path = join base (join middle path) := by
  by_cases absolute : path.head? = some '/'
  · simp [join, absolute]
  by_cases empty : middle = []
  · subst empty
    by_cases closed : base = [] ∨ base.getLast? = some '/'
    · simp [join, absolute, closed]
    · simp [join, absolute, closed]
  · obtain ⟨c, rest, rfl⟩ := List.exists_cons_of_ne_nil empty
    have last (outer : List Char) : (outer ++ c :: rest).getLast? = (c :: rest).getLast? :=
      List.getLast?_append_of_ne_nil _ empty
    have next (outer : List Char) : (outer ++ '/' :: c :: rest).getLast? = (c :: rest).getLast? := by
      rw [List.getLast?_append_of_ne_nil _ (by simp), List.getLast?_cons_cons]
    simp only [join]
    split_ifs <;> simp_all

/-- A path below the current directory is the path itself. -/
theorem normalise_join_current (path : List Char) : normalise (join current path) = normalise path := by
  by_cases relative : path.head? = some '/'
  · rw [join, if_pos relative]
  · refine normalise_congr ?_ ?_
    · rw [lead_join _ relative, lead_eq_nil_iff.mpr relative]
      rfl
    · rw [parts_join _ relative]
      rfl

theorem normalise_join_nil (base : List Char) : normalise (join base []) = normalise base := by
  have relative : ([] : List Char).head? ≠ some '/' := by simp
  refine normalise_congr (lead_join _ relative) ?_
  rw [parts_join _ relative]
  exact List.append_nil _

theorem parent_prefix (path : List Char) : parent path <+: path := by
  have outer : (path.reverse.dropWhile (· != '/')).reverse <+: path := List.rdropWhile_prefix _ path
  rw [parent]
  by_cases slashes : (path.reverse.dropWhile (· != '/')).reverse.all (· == '/') = true
  · rwa [if_pos slashes]
  · rw [if_neg slashes]
    exact (List.rdropWhile_prefix (· == '/') _).trans outer

end Surveyor.Path
