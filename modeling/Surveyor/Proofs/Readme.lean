import Mathlib.Data.List.Infix
import Mathlib.Data.List.TakeWhile
import Surveyor.Readme

/-! Where a summary ends. Each line takes up room for itself and for the space behind it, so the lines that are taken are
the shortest front part that reaches the limit when it is joined. To be longer than the limit takes the same lines, unless
some front part is as long as the limit to the character. -/

namespace Surveyor.Readme

/-- The lines strictly between the first heading and the next one, or the end of the text. -/
inductive Section (lines : List (List Char)) : List (List Char) → Prop where
  | headless (plain : ∀ line ∈ lines, isHeading line = false) : Section lines []
  | headed {before inner after : List (List Char)} {heading : List Char}
      (split : lines = before ++ heading :: (inner ++ after)) (plain : ∀ line ∈ before, isHeading line = false)
      (opens : isHeading heading = true) (inside : ∀ line ∈ inner, isHeading line = false)
      (closes : ∀ line ∈ after.head?, isHeading line = true) : Section lines inner

theorem body_section (lines : List (List Char)) : Section lines (body lines) := by
  have plain (lines : List (List Char)) : ∀ line ∈ lines.takeWhile (!isHeading ·), isHeading line = false :=
    fun line member => by simpa using List.mem_takeWhile_imp member
  have stop (lines : List (List Char)) : ∀ line ∈ (lines.dropWhile (!isHeading ·)).head?, isHeading line = true := by
    intro line first
    have stopped := List.head?_dropWhile_not (!isHeading ·) lines
    rw [Option.mem_def.mp first] at stopped
    simpa using stopped
  have whole := List.takeWhile_append_dropWhile (p := (!isHeading ·)) (l := lines)
  rw [body]
  cases rest : lines.dropWhile (!isHeading ·) with
  | nil =>
    rw [rest, List.append_nil] at whole
    exact .headless (whole ▸ plain lines)
  | cons heading tail =>
    have opens := stop lines heading (by rw [rest]; rfl)
    refine .headed ?_ (plain lines) opens (plain tail) (stop tail)
    rw [List.drop_one, List.tail_cons, List.takeWhile_append_dropWhile, ← rest, whole]

/-! ## Front parts -/

def joined (lines : List (List Char)) : List Char := [' '].intercalate lines

/-- The shortest front part of the lines that is long enough when it is joined; without one all of them. -/
def frontWith (enough : Nat → Bool) (lines : List (List Char)) : List (List Char) :=
  (lines.inits.find? fun front => enough (joined front).length).getD lines

theorem frontWith_prefix (enough : Nat → Bool) (lines : List (List Char)) : frontWith enough lines <+: lines := by
  rw [frontWith]
  cases found : lines.inits.find? fun front => enough (joined front).length with
  | none => exact List.prefix_rfl
  | some front => exact (List.mem_inits front lines).mp (List.mem_of_find?_eq_some found)

theorem enough_frontWith {enough : Nat → Bool} {lines : List (List Char)} (part : frontWith enough lines ≠ lines) :
    enough (joined (frontWith enough lines)).length = true := by
  revert part
  rw [frontWith]
  cases found : lines.inits.find? fun front => enough (joined front).length with
  | none => exact fun part => absurd rfl part
  | some front => exact fun _ => List.find?_some (p := fun front => enough (joined front).length) found

private theorem find?_inits {p : List (List Char) → Bool} {lines front part : List (List Char)}
    (found : lines.inits.find? p = some front) (within : part <+: lines) (long : p part = true) : front <+: part := by
  induction lines generalizing p front part with
  | nil =>
    obtain rfl : front = [] := by simpa using List.mem_of_find?_eq_some found
    exact List.nil_prefix
  | cons line rest ih =>
    rw [List.inits_cons] at found
    by_cases empty : p [] = true
    · rw [List.find?_cons_of_pos empty] at found
      obtain rfl := Option.some.inj found
      exact List.nil_prefix
    · rw [List.find?_cons_of_neg empty, List.find?_map] at found
      obtain ⟨tail, later, rfl⟩ := Option.map_eq_some_iff.mp found
      cases part with
      | nil => exact absurd long empty
      | cons other part =>
        obtain ⟨rfl, inner⟩ := List.cons_prefix_cons.mp within
        exact List.cons_prefix_cons.mpr ⟨rfl, ih later inner long⟩

theorem frontWith_shortest {enough : Nat → Bool} {lines part : List (List Char)} (within : part <+: lines)
    (long : enough (joined part).length = true) : frontWith enough lines <+: part := by
  rw [frontWith]
  cases found : lines.inits.find? fun front => enough (joined front).length with
  | none =>
    have short := List.find?_eq_none.mp found part ((List.mem_inits part lines).mpr within)
    exact absurd long short
  | some front => exact find?_inits (p := fun front => enough (joined front).length) found within long

/-- The room that lines take up, each with a space behind it. -/
def taken : List (List Char) → Nat
  | [] => 0
  | line :: rest => line.length + 1 + taken rest

theorem taken_append (first second : List (List Char)) : taken (first ++ second) = taken first + taken second := by
  induction first with
  | nil => simp [taken]
  | cons line first ih => simp only [List.cons_append, taken, ih, Nat.add_assoc]

theorem length_joined {lines : List (List Char)} (filled : lines ≠ []) : (joined lines).length + 1 = taken lines := by
  induction lines with
  | nil => exact absurd rfl filled
  | cons line rest ih =>
    cases rest with
    | nil => simp [joined, taken]
    | cons next rest =>
      have later := ih (List.cons_ne_nil _ _)
      rw [joined, List.intercalate_cons_cons, List.length_append, List.length_append, ← joined, taken, ← later]
      simp only [List.length_singleton]
      omega

theorem fill_eq (room : Nat) (lines : List (List Char)) :
    fill room lines = (lines.inits.find? fun front => room < taken front).getD lines := by
  induction lines generalizing room with
  | nil => simp [fill, taken]
  | cons line rest ih =>
    have start : ∃ later, rest.inits = [] :: later := by cases rest <;> exact ⟨_, rfl⟩
    rw [fill, List.inits_cons, List.find?_cons_of_neg (by simp [taken]), List.find?_map]
    split
    next full =>
      obtain ⟨later, same⟩ := start
      have first : ((fun front => decide (room < taken front)) ∘ (line :: ·)) [] = true := decide_eq_true full
      rw [same, List.find?_cons_of_pos first]
      rfl
    next spare =>
      have moved : ((fun front => decide (room < taken front)) ∘ (line :: ·)) =
          fun front => decide (room - (line.length + 1) < taken front) := by
        funext front
        rw [Function.comp_apply, taken, decide_eq_decide]
        omega
      rw [ih, moved]
      cases rest.inits.find? fun front => decide (room - (line.length + 1) < taken front) <;> rfl

/-- Room is left as long as the joined lines are shorter than the limit. -/
theorem fill_limit (lines : List (List Char)) : fill lengthLimit lines = frontWith (lengthLimit ≤ ·) lines := by
  rw [fill_eq, frontWith]
  congr 2
  funext front
  rw [decide_eq_decide]
  rcases eq_or_ne front [] with rfl | filled
  · simp [joined, taken, lengthLimit]
  · rw [← length_joined filled, Nat.lt_succ_iff]

/-- A further line that is not empty makes the joined text longer. -/
theorem length_joined_lt {front lines : List (List Char)} (filled : ∀ line ∈ lines, line ≠ []) (part : front <+: lines)
    (proper : front ≠ lines) : (joined front).length < (joined lines).length := by
  obtain ⟨rest, rfl⟩ := part
  obtain ⟨line, rest, rfl⟩ := List.exists_cons_of_ne_nil fun empty : rest = [] => proper (by rw [empty, List.append_nil])
  have whole := length_joined (List.append_ne_nil_of_right_ne_nil front (List.cons_ne_nil line rest))
  have long := List.length_pos_iff.mpr (filled line (by simp))
  rw [taken_append, taken] at whole
  rcases eq_or_ne front [] with rfl | begun
  · simp only [joined, List.intercalate_nil, List.length_nil]
    rw [taken] at whole
    rw [← joined]
    omega
  · have earlier := length_joined begun
    omega

theorem length_joined_le {front lines : List (List Char)} (filled : ∀ line ∈ lines, line ≠ []) (part : front <+: lines) :
    (joined front).length ≤ (joined lines).length := by
  rcases eq_or_ne front lines with rfl | proper
  · exact le_refl _
  · exact (length_joined_lt filled part proper).le

/-- To reach the limit and to pass it takes the same lines, unless a front part ends right at the limit. -/
theorem joined_frontWith_iff {lines : List (List Char)} (limit : Nat) (filled : ∀ line ∈ lines, line ≠ []) :
    joined (frontWith (limit ≤ ·) lines) = joined (frontWith (limit < ·) lines) ↔
      ∀ front, front <+: lines → front ≠ lines → (joined front).length ≠ limit := by
  have reach := frontWith_prefix (limit ≤ ·) lines
  have pass := frontWith_prefix (limit < ·) lines
  constructor
  · intro same front part proper exactly
    -- The lines that reach the limit are no more than those of the exact front part, so they do not pass it.
    have early : frontWith (limit ≤ ·) lines <+: front := frontWith_shortest part (decide_eq_true exactly.ge)
    have short : (joined (frontWith (limit ≤ ·) lines)).length ≤ limit :=
      (length_joined_le (fun line member => filled line (part.subset member)) early).trans exactly.le
    have whole : frontWith (limit < ·) lines = lines := by
      by_contra other
      have long := of_decide_eq_true (enough_frontWith other)
      rw [same] at short
      omega
    have longer := length_joined_lt filled part proper
    rw [same, whole] at short
    omega
  · intro apart
    have early : frontWith (limit ≤ ·) lines <+: frontWith (limit < ·) lines := by
      by_cases whole : frontWith (limit < ·) lines = lines
      · rw [whole]
        exact reach
      · have long := of_decide_eq_true (enough_frontWith whole)
        exact frontWith_shortest pass (decide_eq_true long.le)
    have later : frontWith (limit < ·) lines <+: frontWith (limit ≤ ·) lines := by
      by_cases whole : frontWith (limit ≤ ·) lines = lines
      · rw [whole]
        exact pass
      · have long := of_decide_eq_true (enough_frontWith whole)
        exact frontWith_shortest reach (decide_eq_true (lt_of_le_of_ne long (apart _ reach whole).symm))
    rw [early.eq_of_length_le later.length_le]

/-- The summary holds the lines of the shortest front part that reaches the limit. These are those of the shortest one
that is longer than the limit exactly if no front part but the whole is as long as the limit. -/
theorem summary_front (text : String) :
    ∃ inner, Section (Text.lines text.toList) inner ∧
      let shown := (inner.map Text.trimChars).filter (· != [])
      summary text = String.ofList (joined (frontWith (lengthLimit ≤ ·) shown)) ∧
      (summary text = String.ofList (joined (frontWith (lengthLimit < ·) shown)) ↔
        ∀ front, front <+: shown → front ≠ shown → (joined front).length ≠ lengthLimit) := by
  refine ⟨_, body_section _, ?_⟩
  intro shown
  have filled : ∀ line ∈ shown, line ≠ [] := fun line member => by simpa using (List.mem_filter.mp member).2
  have cut : summary text = String.ofList (joined (frontWith (lengthLimit ≤ ·) shown)) := by
    rw [← fill_limit]
    rfl
  refine ⟨cut, ?_⟩
  rw [cut, String.ofList_inj, joined_frontWith_iff lengthLimit filled]

/-- A first line of three hundred characters fills the room, although it is not longer than the limit. -/
theorem not_summary_longer :
    let line := List.replicate 300 'a'
    let text := String.ofList ("# T\n".toList ++ line ++ "\nx\n".toList)
    Section (Text.lines text.toList) [line, ['x']] ∧ summary text = String.ofList line ∧
      frontWith (lengthLimit < ·) [line, ['x']] = [line, ['x']] ∧
      summary text ≠ String.ofList (joined [line, ['x']]) := by
  intro line text
  have lines : Text.lines text.toList = ["# T".toList, line, ['x']] := by
    rw [String.toList_ofList]
    decide +kernel
  have told : summary text = String.ofList line := by
    rw [summary, lines]
    decide +kernel
  refine ⟨?_, told, by decide +kernel, ?_⟩
  · rw [lines]
    exact @Section.headed _ [] [line, ['x']] [] _ rfl (by simp) rfl (by decide +kernel) (by simp)
  · rw [told, ne_eq, String.ofList_inj]
    decide +kernel

end Surveyor.Readme
