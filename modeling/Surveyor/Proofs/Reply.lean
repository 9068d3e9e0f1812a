import Surveyor.Proofs.Json.Rendering
import Surveyor.Proofs.Text
import Surveyor.Reply

/-! What is left of a reply when its fences are taken away. They are taken away wherever they stand, also inside the
texts of the JSON; a reply in whose JSON no fence stands means what it says. -/

namespace Surveyor.Reply

open Text

/-! ## Taking fences away -/

/-- What follows a fence, and its language, at the start of a text. -/
def afterFence? (text : List Char) : Option (List Char) :=
  (after? fence text).map fun rest => (afterEitherCase? language rest).getD rest

theorem drop_of_afterEitherCase? {word text rest : List Char} (found : afterEitherCase? word text = some rest) :
    text.drop word.length = rest := by
  fun_induction afterEitherCase? word text with
  | case1 text => simpa using found
  | case2 => cases found
  | case3 c word text ih => exact ih found
  | case4 => cases found

theorem drop_fenceLength {text rest : List Char} (found : afterFence? text = some rest) :
    0 < fenceLength text ∧ text.drop (fenceLength text) = rest := by
  obtain ⟨more, fenced, rfl⟩ := Option.map_eq_some_iff.mp found
  have size : fenceLength text =
      fence.length + if (afterEitherCase? language more).isSome then language.length else 0 := by rw [fenceLength, fenced]
  rw [size]
  constructor
  · exact Nat.add_pos_left (by decide) _
  · rw [eq_append_of_after? fenced, ← List.drop_drop, List.drop_left]
    cases named : afterEitherCase? language more with
    | none => rfl
    | some rest => exact drop_of_afterEitherCase? named

theorem fenceLength_none {text : List Char} (plain : afterFence? text = none) : fenceLength text = 0 := by
  rw [afterFence?, Option.map_eq_none_iff] at plain
  rw [fenceLength, plain]

theorem unfencedFrom_skip (skip : Nat) (text : List Char) : unfencedFrom skip text = unfenced (text.drop skip) := by
  induction skip generalizing text with
  | zero => rfl
  | succ skip ih =>
    cases text with
    | nil => rfl
    | cons c rest => exact ih rest

theorem unfenced_plain {c : Char} {rest : List Char} (plain : afterFence? (c :: rest) = none) :
    unfenced (c :: rest) = c :: unfenced rest := by
  rw [unfenced, unfencedFrom, fenceLength_none plain]
  rfl

theorem unfenced_fence {text rest : List Char} (found : afterFence? text = some rest) :
    unfenced text = unfenced rest := by
  obtain ⟨positive, left⟩ := drop_fenceLength found
  cases text with
  | nil => cases found
  | cons c text =>
    obtain ⟨more, size⟩ := Nat.exists_eq_succ_of_ne_zero (Nat.ne_of_gt positive)
    rw [size, List.drop_succ_cons] at left
    rw [unfenced, unfencedFrom, size]
    exact (unfencedFrom_skip more text).trans (congrArg unfenced left)

theorem length_afterFence? {text rest : List Char} (found : afterFence? text = some rest) : rest.length < text.length := by
  obtain ⟨positive, rfl⟩ := drop_fenceLength found
  have filled : text ≠ [] := by
    rintro rfl
    cases found
  have long := List.length_pos_iff.mpr filled
  rw [List.length_drop]
  omega

theorem head_afterFence? {c : Char} {text rest : List Char} (found : afterFence? (c :: text) = some rest) : c = '\x60' := by
  obtain ⟨more, fenced, -⟩ := Option.map_eq_some_iff.mp found
  exact (List.cons.inj (eq_append_of_after? fenced)).1

theorem afterFence?_none {c : Char} (other : c ≠ '\x60') (rest : List Char) : afterFence? (c :: rest) = none := by
  cases found : afterFence? (c :: rest) with
  | none => rfl
  | some more => exact absurd (head_afterFence? found) other

/-- What is read of a text without its fences follows the places where they stand. -/
theorem fence_induction {motive : List Char → Prop} (nil : motive [])
    (plain : ∀ c rest, afterFence? (c :: rest) = none → motive rest → motive (c :: rest))
    (fenced : ∀ text rest, afterFence? text = some rest → motive rest → motive text) (text : List Char) : motive text := by
  induction size : text.length using Nat.strongRecOn generalizing text with
  | ind n ih =>
    subst size
    cases text with
    | nil => exact nil
    | cons c rest =>
      cases found : afterFence? (c :: rest) with
      | none => exact plain c rest found (ih rest.length (Nat.lt_succ_self _) rest rfl)
      | some more => exact fenced _ more found (ih more.length (length_afterFence? found) more rfl)

/-! ## Parts of a text -/

theorem unfenced_append_plain {part : List Char} (plain : '\x60' ∉ part) (rest : List Char) :
    unfenced (part ++ rest) = part ++ unfenced rest := by
  induction part with
  | nil => rfl
  | cons c part ih =>
    rw [List.mem_cons, not_or] at plain
    rw [List.cons_append, unfenced_plain (afterFence?_none (Ne.symm plain.1) _), ih plain.2, List.cons_append]

/-- A character that no fence holds. -/
def parts (c : Char) : Bool := c != '\x60' && !language.contains (smallForm c)

theorem after?_parted {lead : List Char} {c : Char} (apart : c ∉ lead) (text rest : List Char) :
    after? lead (text ++ c :: rest) = (after? lead text).map (· ++ c :: rest) := by
  induction lead generalizing text with
  | nil => rfl
  | cons a lead ih =>
    rw [List.mem_cons, not_or] at apart
    cases text with
    | nil => simp [after?, Ne.symm apart.1]
    | cons d text =>
      simp only [List.cons_append, after?]
      split
      · exact ih apart.2 text
      · rfl

theorem afterEitherCase?_parted {word : List Char} {c : Char} (apart : smallForm c ∉ word) (text rest : List Char) :
    afterEitherCase? word (text ++ c :: rest) = (afterEitherCase? word text).map (· ++ c :: rest) := by
  induction word generalizing text with
  | nil => rfl
  | cons a word ih =>
    rw [List.mem_cons, not_or] at apart
    cases text with
    | nil => simp [afterEitherCase?, Ne.symm apart.1]
    | cons d text =>
      simp only [List.cons_append, afterEitherCase?]
      split
      · exact ih apart.2 text
      · rfl

theorem afterFence?_parted {c : Char} (apart : parts c = true) (text rest : List Char) :
    afterFence? (text ++ c :: rest) = (afterFence? text).map (· ++ c :: rest) := by
  simp only [parts, Bool.and_eq_true, bne_iff_ne, Bool.not_eq_true', List.contains_eq_mem, decide_eq_false_iff_not] at apart
  have sign : c ∉ fence := by simpa [fence] using apart.1
  rw [afterFence?, afterFence?, after?_parted sign, Option.map_map, Option.map_map]
  congr 1
  funext more
  simp only [Function.comp_apply, afterEitherCase?_parted apart.2]
  cases afterEitherCase? language more <;> rfl

theorem unfenced_parted {c : Char} (apart : parts c = true) (text rest : List Char) :
    unfenced (text ++ c :: rest) = unfenced text ++ c :: unfenced rest := by
  have other : c ≠ '\x60' := by
    rintro rfl
    exact absurd apart (by decide)
  induction text using fence_induction with
  | nil => exact unfenced_plain (afterFence?_none other rest)
  | plain d text plain ih =>
    have later : afterFence? (d :: (text ++ c :: rest)) = none := by
      rw [← List.cons_append, afterFence?_parted apart, plain, Option.map_none]
    rw [List.cons_append, unfenced_plain later, unfenced_plain plain, ih, List.cons_append]
  | fenced text more found ih =>
    have later : afterFence? (text ++ c :: rest) = some (more ++ c :: rest) := by
      rw [afterFence?_parted apart, found, Option.map_some]
    rw [unfenced_fence later, unfenced_fence found, ih]

theorem afterFence?_none_iff {text : List Char} : afterFence? text = none ↔ ¬ fence <+: text := by
  rw [afterFence?, Option.map_eq_none_iff]
  constructor
  · rintro none ⟨rest, rfl⟩
    cases none.symm.trans (after?_append fence rest)
  · intro other
    cases found : after? fence text with
    | none => rfl
    | some rest => exact absurd ⟨rest, (eq_append_of_after? found).symm⟩ other

theorem length_unfenced_le (text : List Char) : (unfenced text).length ≤ text.length := by
  induction text using fence_induction with
  | nil => exact Nat.le_refl _
  | plain c rest plain ih =>
    rw [unfenced_plain plain]
    exact Nat.succ_le_succ ih
  | fenced text rest found ih =>
    rw [unfenced_fence found]
    exact ih.trans (length_afterFence? found).le

theorem length_unfenced_lt {text : List Char} (held : fence <:+: text) : (unfenced text).length < text.length := by
  induction text using fence_induction with
  | nil => cases List.eq_nil_of_infix_nil held
  | plain c rest plain ih =>
    rw [unfenced_plain plain]
    exact Nat.succ_lt_succ (ih ((List.infix_cons_iff.mp held).resolve_left (afterFence?_none_iff.mp plain)))
  | fenced text rest found ih =>
    rw [unfenced_fence found]
    exact (length_unfenced_le rest).trans_lt (length_afterFence? found)

/-- Taking fences away changes nothing exactly if there are none. -/
theorem unfenced_eq_self_iff {text : List Char} : unfenced text = text ↔ ¬ fence <:+: text := by
  constructor
  · intro same held
    exact absurd (length_unfenced_lt held) (by rw [same]; exact Nat.lt_irrefl _)
  · intro absent
    induction text using fence_induction with
    | nil => rfl
    | plain c rest plain ih => rw [unfenced_plain plain, ih fun held => absent (List.infix_cons held)]
    | fenced text rest found =>
      have other : afterFence? text = none := afterFence?_none_iff.mpr fun lead => absent lead.isInfix
      cases other.symm.trans found

/-! ## Fences in rendered values -/

theorem escape_cases (c : Char) :
    Json.escape c = [c] ∨ ∃ more, Json.escape c = '\\' :: more ∧ '\x60' ∉ more := by
  have digits (n : Nat) : '\x60' ≠ Json.hexDigit n := by
    have each : ∀ m < 16, '\x60' ≠ Nat.digitChar m := by decide
    exact each (n % 16) (Nat.mod_lt n (by decide))
  unfold Json.escape
  split
  case h_6 =>
    split
    · exact Or.inr ⟨_, rfl, by simp [digits]⟩
    · exact Or.inl rfl
  all_goals exact Or.inr ⟨_, rfl, by decide⟩

theorem escape_of_large {c : Char} (large : 93 ≤ c.toNat) : Json.escape c = [c] := by
  unfold Json.escape
  split
  case h_6 =>
    split
    next control =>
      have small : c.toNat < 32 := UInt32.lt_iff_toNat_lt.mp control
      omega
    next => rfl
  all_goals exact absurd large (by decide)

theorem escape_of_smallForm {c : Char} (letter : smallForm c ∈ language) : Json.escape c = [c] := by
  by_cases large : 93 ≤ c.toNat
  · exact escape_of_large large
  · have small : ∀ n < 93, smallForm (Char.ofNat n) ∈ language → Json.escape (Char.ofNat n) = [Char.ofNat n] := by
      decide
    rw [← Char.ofNat_toNat c] at letter ⊢
    exact small c.toNat (by omega) letter

theorem after?_escaped {lead : List Char} (plain : ∀ a ∈ lead, Json.escape a = [a] ∧ a ≠ '\\') (text : List Char) :
    after? lead (text.flatMap Json.escape) = (after? lead text).map (·.flatMap Json.escape) := by
  induction lead generalizing text with
  | nil => rfl
  | cons a lead ih =>
    obtain ⟨⟨alone, sign⟩, others⟩ := List.forall_mem_cons.mp plain
    cases text with
    | nil => rfl
    | cons c text =>
      rw [List.flatMap_cons]
      rcases escape_cases c with same | ⟨more, same, -⟩
      · rw [same, List.singleton_append, after?, after?, ih others]
        split <;> rfl
      · have other : a ≠ c := by
          rintro rfl
          exact sign (List.cons.inj (alone.symm.trans same)).1
        rw [same, List.cons_append, after?, after?, if_neg sign, if_neg other]
        rfl

theorem afterEitherCase?_escaped {word : List Char} (within : word ⊆ language) (text : List Char) :
    afterEitherCase? word (text.flatMap Json.escape) = (afterEitherCase? word text).map (·.flatMap Json.escape) := by
  induction word generalizing text with
  | nil => rfl
  | cons a word ih =>
    obtain ⟨letter, others⟩ := List.cons_subset.mp within
    cases text with
    | nil => rfl
    | cons c text =>
      rw [List.flatMap_cons]
      rcases escape_cases c with same | ⟨more, same, -⟩
      · rw [same, List.singleton_append, afterEitherCase?, afterEitherCase?, ih others]
        split <;> rfl
      · have sign : a ≠ smallForm '\\' := by
          rintro rfl
          exact absurd letter (by decide)
        have other : a ≠ smallForm c := by
          rintro rfl
          obtain rfl := (List.cons.inj ((escape_of_smallForm letter).symm.trans same)).1
          exact sign rfl
        rw [same, List.cons_append, afterEitherCase?, afterEitherCase?, if_neg sign, if_neg other]
        rfl

theorem afterFence?_escaped (text : List Char) :
    afterFence? (text.flatMap Json.escape) = (afterFence? text).map (·.flatMap Json.escape) := by
  have signs : ∀ a ∈ fence, Json.escape a = [a] ∧ a ≠ '\\' := by
    intro a member
    obtain rfl : a = '\x60' := by simpa [fence] using member
    decide
  rw [afterFence?, afterFence?, after?_escaped signs, Option.map_map, Option.map_map]
  congr 1
  funext more
  simp only [Function.comp_apply, afterEitherCase?_escaped (List.Subset.refl _)]
  cases afterEitherCase? language more <;> rfl

theorem unfenced_escaped (text : List Char) :
    unfenced (text.flatMap Json.escape) = (unfenced text).flatMap Json.escape := by
  induction text using fence_induction with
  | nil => rfl
  | plain c rest plain ih =>
    have later := afterFence?_escaped (c :: rest)
    rw [plain, Option.map_none, List.flatMap_cons] at later
    rw [unfenced_plain plain, List.flatMap_cons, List.flatMap_cons]
    rcases escape_cases c with same | ⟨more, same, absent⟩
    · rw [same] at later ⊢
      exact (unfenced_plain later).trans (congrArg (c :: ·) ih)
    · -- No sign of a fence stands in an escape, so none starts there.
      have plain : '\x60' ∉ '\\' :: more := by simp [absent]
      rw [same, unfenced_append_plain plain, ih]
  | fenced text rest found ih =>
    have later : afterFence? (text.flatMap Json.escape) = some (rest.flatMap Json.escape) := by
      rw [afterFence?_escaped, found, Option.map_some]
    rw [unfenced_fence later, unfenced_fence found, ih]

/-- Taking fences away turns one text into another, whatever follows it. -/
def Clears (text cleared : List Char) : Prop := ∀ rest, unfenced (text ++ rest) = cleared ++ unfenced rest

theorem Clears.plain {text : List Char} (plain : '\x60' ∉ text) : Clears text text := unfenced_append_plain plain

theorem Clears.append {first firstCleared second secondCleared : List Char} (one : Clears first firstCleared)
    (two : Clears second secondCleared) : Clears (first ++ second) (firstCleared ++ secondCleared) := by
  intro rest
  rw [List.append_assoc, one, two, List.append_assoc]

theorem Clears.cons {text cleared : List Char} (clears : Clears text cleared) {c : Char} (other : '\x60' ≠ c) :
    Clears (c :: text) (c :: cleared) := by
  have one : Clears [c] [c] := .plain (by simpa using other)
  exact one.append clears

theorem clears_renderText (text : List Char) : Clears (Json.renderText text) (Json.renderText (unfenced text)) := by
  intro rest
  have shape (body : List Char) : Json.renderText body ++ rest = '"' :: (body.flatMap Json.escape ++ '"' :: rest) := by
    simp [Json.renderText]
  rw [shape, unfenced_plain (afterFence?_none (by decide) _), unfenced_parted (by decide), unfenced_escaped,
    Json.renderText]
  simp

mutual

/-- A value without the fences in its texts and names. -/
def unfencedValue : Json → Json
  | .null => .null
  | .bool value => .bool value
  | .int value => .int value
  | .real value => .real value
  | .text value => .text (String.ofList (unfenced value.toList))
  | .array items => .array (unfencedItems items)
  | .object fields => .object (unfencedFields fields)

def unfencedItems : List Json → List Json
  | [] => []
  | item :: items => unfencedValue item :: unfencedItems items

def unfencedFields : List (String × Json) → List (String × Json)
  | [] => []
  | (name, value) :: fields => (String.ofList (unfenced name.toList), unfencedValue value) :: unfencedFields fields

end

open Json (renderChars renderItems renderFields Printable)

theorem clears_renderItems {items : List Json}
    (each : ∀ item ∈ items, Clears (renderChars item) (renderChars (unfencedValue item))) :
    Clears (renderItems items) (renderItems (unfencedItems items)) := by
  induction items with
  | nil =>
    rw [unfencedItems, renderItems]
    exact .plain (by decide)
  | cons item items ih =>
    obtain ⟨first, others⟩ := List.forall_mem_cons.mp each
    rw [unfencedItems, renderItems, renderItems]
    exact (first.cons (by decide)).append (ih others)

theorem clears_renderFields {fields : List (String × Json)}
    (each : ∀ field ∈ fields, Clears (renderChars field.2) (renderChars (unfencedValue field.2))) :
    Clears (renderFields fields) (renderFields (unfencedFields fields)) := by
  induction fields with
  | nil =>
    rw [unfencedFields, renderFields]
    exact .plain (by decide)
  | cons field fields ih =>
    obtain ⟨name, value⟩ := field
    obtain ⟨first, others⟩ := List.forall_mem_cons.mp each
    rw [unfencedFields, renderFields, renderFields, String.toList_ofList]
    exact (((clears_renderText name.toList).append (first.cons (by decide))).cons (by decide)).append (ih others)

/-- Taking fences away from a rendered value takes them away from its texts and names. -/
theorem clears_renderChars {value : Json} (printable : Printable value) :
    Clears (renderChars value) (renderChars (unfencedValue value)) := by
  induction printable with
  | null =>
    rw [unfencedValue, renderChars]
    exact .plain (by decide)
  | bool value =>
    rw [unfencedValue, renderChars]
    cases value <;> exact .plain (by decide)
  | int value =>
    rw [unfencedValue, renderChars]
    exact .plain fun sign => absurd ((Json.spelled_int value).scalar_characters _ sign) (by decide)
  | text value =>
    rw [unfencedValue, renderChars, renderChars, String.toList_ofList]
    exact clears_renderText value.toList
  | @array items each ih =>
    cases items with
    | nil =>
      rw [unfencedValue, unfencedItems, renderChars]
      exact .plain (by decide)
    | cons item items =>
      obtain ⟨first, others⟩ := List.forall_mem_cons.mp ih
      rw [unfencedValue, unfencedItems, renderChars, renderChars]
      exact (first.cons (by decide)).append (clears_renderItems others)
  | @object fields names each ih =>
    cases fields with
    | nil =>
      rw [unfencedValue, unfencedFields, renderChars]
      exact .plain (by decide)
    | cons field fields =>
      obtain ⟨name, value⟩ := field
      obtain ⟨first, others⟩ := List.forall_mem_cons.mp ih
      rw [unfencedValue, unfencedFields, renderChars, renderChars, String.toList_ofList]
      exact (((clears_renderText name.toList).append (first.cons (by decide))).cons (by decide)).append
        (clears_renderFields others)

/-! ## Replies -/

/-- The ways in which a reply may hold a text: by itself, or as a block of code with blanks around it. -/
inductive Holds (text : List Char) : List Char → Prop
  | bare : Holds text text
  | block {name before after : List Char} (named : name = [] ∨ name = language)
      (lead : ∀ c ∈ before, isBlank c = true) (trail : ∀ c ∈ after, isBlank c = true) :
      Holds text (fence ++ (name ++ (before ++ (text ++ (after ++ fence)))))

theorem afterEitherCase?_language (rest : List Char) : afterEitherCase? language (language ++ rest) = some rest := rfl

theorem afterEitherCase?_blanks {gap rest : List Char} {c : Char} (blank : ∀ d ∈ gap, isBlank d = true)
    (other : 'j' ≠ smallForm c) : afterEitherCase? language (gap ++ c :: rest) = none := by
  have first (d : Char) (more : List Char) (apart : 'j' ≠ smallForm d) : afterEitherCase? language (d :: more) = none := by
    rw [language]
    exact if_neg apart
  cases gap with
  | nil => exact first c rest other
  | cons d gap =>
    have apart : ∀ code ∈ blankCodes, 'j' ≠ smallForm (Char.ofNat code) := by decide
    have gap := apart _ (mem_blankCodes (blank d List.mem_cons_self))
    rw [Char.ofNat_toNat] at gap
    exact first d _ gap

/-- An array as it is written. -/
def Bracketed (text : List Char) : Prop := ∃ inner, text = '[' :: (inner ++ [']'])

theorem bracketed_array (items : List Json) : Bracketed (renderChars (.array items)) := by
  have closes (items : List Json) : ∃ inner, renderItems items = inner ++ [']'] := by
    induction items with
    | nil => exact ⟨[], by rw [renderItems]; rfl⟩
    | cons item items ih =>
      obtain ⟨inner, shape⟩ := ih
      exact ⟨',' :: renderChars item ++ inner, by rw [renderItems, shape, List.append_assoc]⟩
  cases items with
  | nil => exact ⟨[], by rw [renderChars]; rfl⟩
  | cons item items =>
    obtain ⟨inner, shape⟩ := closes items
    exact ⟨renderChars item ++ inner, by rw [renderChars, shape, List.cons_append, List.append_assoc]⟩

theorem unfenced_bracketed (inner rest : List Char) :
    unfenced ('[' :: (inner ++ ']' :: rest)) = '[' :: (unfenced inner ++ ']' :: unfenced rest) := by
  rw [unfenced_plain (afterFence?_none (by decide) _), unfenced_parted (by decide)]

theorem Bracketed.unfenced_append {text : List Char} (bracketed : Bracketed text) (rest : List Char) :
    unfenced (text ++ rest) = unfenced text ++ unfenced rest := by
  obtain ⟨inner, rfl⟩ := bracketed
  rw [unfenced_bracketed inner [], List.cons_append, List.append_assoc, List.singleton_append, unfenced_bracketed]
  simp [unfenced, unfencedFrom]

theorem Bracketed.trimChars_between {text before after : List Char} (bracketed : Bracketed text)
    (lead : ∀ c ∈ before, isBlank c = true) (trail : ∀ c ∈ after, isBlank c = true) :
    trimChars (before ++ (unfenced text ++ after)) = unfenced text := by
  obtain ⟨inner, rfl⟩ := bracketed
  rw [unfenced_bracketed inner []]
  apply Text.trimChars_between lead trail
  · rintro c ⟨⟩
    decide
  · intro c last
    rw [← List.cons_append, List.getLast?_append] at last
    cases last
    decide

/-- Of a reply with an array only the array is left, without the fences in it. -/
theorem Holds.trimmed {text reply : List Char} (holds : Holds text reply) (bracketed : Bracketed text) :
    trimChars (unfenced reply) = unfenced text := by
  cases holds with
  | bare =>
    have nothing : ∀ c ∈ ([] : List Char), isBlank c = true := by simp
    simpa using bracketed.trimChars_between nothing nothing
  | @block name before after named lead trail =>
    have solid {gap : List Char} (blank : ∀ c ∈ gap, isBlank c = true) : '\x60' ∉ gap := fun sign =>
      absurd (blank _ sign) (by decide)
    have found : afterFence? (fence ++ (name ++ (before ++ (text ++ (after ++ fence))))) =
        some (before ++ (text ++ (after ++ fence))) := by
      rw [afterFence?, after?_append, Option.map_some]
      rcases named with rfl | rfl
      · -- Blanks and a bracket follow the fence, so no language is read there.
        obtain ⟨inner, rfl⟩ := bracketed
        rw [List.nil_append, List.cons_append, afterEitherCase?_blanks lead (by decide)]
        rfl
      · rw [afterEitherCase?_language]
        rfl
    have closing : unfenced (after ++ fence) = after := by
      rw [unfenced_append_plain (solid trail)]
      exact List.append_nil after
    rw [unfenced_fence found, unfenced_append_plain (solid lead), bracketed.unfenced_append, closing]
    exact bracketed.trimChars_between lead trail

theorem Holds.parse_eq {text reply : List Char} (holds : Holds text reply) (bracketed : Bracketed text) :
    parse (String.ofList reply) = match Json.read (String.ofList (unfenced text)) with
      | .ok value => .ok value
      | .error .malformed => .error .malformed
      | .error fault => .error (.unusable fault.message) := by
  have left : trimChars (unfenced (String.ofList reply).toList) = unfenced text := by
    rw [String.toList_ofList, holds.trimmed bracketed]
  cases read : Json.read (String.ofList (unfenced text)) with
  | ok value => simp only [parse, left, read]
  | error fault => cases fault <;> simp only [parse, left, read]

/-- A reply with a rendered array is read as the array without the fences in its texts and names, unless an integer in it
is too long. -/
theorem Holds.parse_array {items : List Json} {reply : List Char} (holds : Holds (renderChars (.array items)) reply)
    (printable : Printable (.array items)) (cleared : Printable (.array (unfencedItems items))) :
    parse (String.ofList reply) = match Json.overlongItem? (unfencedItems items) with
      | some digits => .error (.unusable (Numeral.overLimit digits))
      | none => .ok (.array (unfencedItems items)) := by
  have text : unfenced (renderChars (.array items)) = renderChars (.array (unfencedItems items)) := by
    simpa [unfencedValue, unfenced, unfencedFrom] using clears_renderChars printable []
  have read := Json.read_render cleared
  rw [Json.overlongWithin?, Json.render] at read
  rw [holds.parse_eq (bracketed_array items), text]
  cases long : Json.overlongItem? (unfencedItems items) with
  | some digits => simp only [read, long, Json.Fault.message]
  | none => simp only [read, long]

/-! ## Readers of replies -/

theorem parse_eq_ok_iff {reply : String} {value : Json} : parse reply = .ok value ↔
    Json.read (String.ofList (trimChars (unfenced reply.toList))) = .ok value := by
  rw [parse]
  cases Json.read (String.ofList (trimChars (unfenced reply.toList))) with
  | ok value => simp
  | error fault => cases fault <;> simp

theorem bind_eq_ok_iff {α β : Type} {first : Except Fault α} {next : α → Except Fault β} {result : β} :
    first >>= next = .ok result ↔ ∃ value, first = .ok value ∧ next value = .ok result := by
  cases first <;> simp [bind, Except.bind]

/-! ## Calls of a runner -/

section
variable {α : Type} {runner : Runner} {outcome : Except RunnerFault String} {value : α}

/-- What comes of a call: what its reply is read as, unless the call fails or the reply cannot be read. -/
def answer? (read : String → Except Fault α) : Except RunnerFault String → Option α
  | .ok reply => (read reply).toOption
  | .error _ => none

theorem answer?_eq_some_iff {read : String → Except Fault α} :
    answer? read outcome = some value ↔ ∃ reply, outcome = .ok reply ∧ read reply = .ok value := by
  cases outcome with
  | error => simp [answer?]
  | ok reply => cases same : read reply <;> simp [answer?, same, Except.toOption]

/-- Whoever asks a runner that at worst refuses or cannot be reached gets an answer or a failure with a cause. -/
theorem ask_cases (usual : ∀ key, runner.outcome runner.prompts.length ≠ .error (.missingKey key)) (prompt : String)
    (read : String → Except Fault α) :
    (∃ value, answer? read (runner.outcome runner.prompts.length) = some value ∧
      ask runner prompt read = (.ok value, (runner.ask prompt).2)) ∨
    ∃ failure cause, answer? read (runner.outcome runner.prompts.length) = none ∧ Failure.cause failure = .ok cause ∧
      ask runner prompt read = (.error failure, (runner.ask prompt).2) := by
  simp only [ask, Runner.ask]
  cases outcome : runner.outcome runner.prompts.length with
  | error fault =>
    cases fault with
    | missingKey key => exact absurd outcome (usual key)
    | refused | unreachable => exact .inr ⟨_, _, rfl, rfl, rfl⟩
  | ok reply =>
    dsimp only [answer?]
    cases read reply with
    | ok value => exact .inl ⟨value, rfl, rfl⟩
    | error fault =>
      obtain ⟨cause, known⟩ : ∃ cause, Failure.cause (.reply fault) = .ok cause := by cases fault <;> exact ⟨_, rfl⟩
      exact .inr ⟨_, cause, rfl, known, rfl⟩

end

end Surveyor.Reply
