import Mathlib.Data.List.DropRight
import Mathlib.Data.List.TakeWhile
import Surveyor.Text.Scan

/-! What trimming leaves of a text, where a quoted text ends, and which classes of characters are apart. -/

namespace Surveyor.Text

/-- The code points of blanks. -/
def blankCodes : List Nat :=
  List.range' 9 5 ++ List.range' 28 5 ++ List.range' 8192 11 ++ [133, 160, 5760, 8232, 8233, 8239, 8287, 12288]

theorem mem_blankCodes {c : Char} (blank : isBlank c = true) : c.toNat ∈ blankCodes := by
  have value : c.toNat = c.val.toNat := rfl
  simp only [isBlank, Bool.or_eq_true, Bool.and_eq_true, decide_eq_true_eq, beq_iff_eq, Char.le_def,
    UInt32.le_iff_toNat_le, ← Char.toNat_inj] at blank
  simp [blankCodes, List.mem_range'_1] at blank ⊢
  omega

theorem isWordCharacter_of_isBlank {c : Char} (blank : isBlank c = true) : isWordCharacter c = false := by
  have apart : ∀ code ∈ blankCodes, isWordCharacter (Char.ofNat code) = false := by decide +kernel
  rw [← Char.ofNat_toNat c]
  exact apart _ (mem_blankCodes blank)

theorem dropTrailing_append {p : Char → Bool} {text tail : List Char} (ends : ∀ c ∈ tail, p c = true)
    (stays : ∀ c ∈ text.getLast?, p c = false) : dropTrailing p (text ++ tail) = text := by
  have reversed : ∀ c ∈ tail.reverse, p c = true := fun c member => ends c (List.mem_reverse.mp member)
  have kept : text.reverse.dropWhile p = text.reverse := by
    rw [← List.head?_reverse] at stays
    cases whole : text.reverse with
    | nil => rfl
    | cons c rest =>
      have last := stays c (by rw [whole]; rfl)
      exact List.dropWhile_cons_of_neg (by simp [last])
  rw [dropTrailing, List.reverse_append, List.dropWhile_append_of_pos reversed, kept, List.reverse_reverse]

theorem prefix_dropTrailing (p : Char → Bool) (text : List Char) : dropTrailing p text <+: text :=
  List.rdropWhile_prefix p text

theorem trimChars_between {before core after : List Char} (lead : ∀ c ∈ before, isBlank c = true)
    (trail : ∀ c ∈ after, isBlank c = true) (starts : ∀ c ∈ core.head?, isBlank c = false)
    (ends : ∀ c ∈ core.getLast?, isBlank c = false) : trimChars (before ++ (core ++ after)) = core := by
  rw [trimChars, List.dropWhile_append_of_pos lead]
  cases core with
  | nil =>
    rw [List.nil_append, List.dropWhile_eq_nil_iff.mpr trail]
    rfl
  | cons c core =>
    rw [List.cons_append, List.dropWhile_cons_of_neg (by simp [starts c rfl]), ← List.cons_append,
      dropTrailing_append trail ends]

theorem trimChars_solid {text : List Char} (solid : ∀ c ∈ text, isBlank c = false) : trimChars text = text := by
  have whole := @trimChars_between [] text [] (by simp) (by simp)
    (fun c head => solid c (List.mem_of_mem_head? head)) fun c last => solid c (List.mem_of_mem_getLast? last)
  rwa [List.nil_append, List.append_nil] at whole

/-- What is left behind a front starts with a character that ends it. -/
theorem ends_of_dropWhile_eq {p : Char → Bool} {c : Char} {text rest : List Char} (left : text.dropWhile p = c :: rest) :
    p c = false := by
  have first := List.head?_dropWhile_not p text
  rw [left] at first
  simpa using first

theorem trimChars_eq_nil_iff {text : List Char} : trimChars text = [] ↔ ∀ c ∈ text, isBlank c = true := by
  rw [trimChars, dropTrailing, List.reverse_eq_nil_iff, List.dropWhile_eq_nil_iff]
  simp only [List.mem_reverse]
  constructor
  · intro blank
    have nothing : text.dropWhile isBlank = [] := by
      cases rest : text.dropWhile isBlank with
      | nil => rfl
      | cons c rest' =>
        rw [rest] at blank
        exact absurd (blank c List.mem_cons_self) (by simp [ends_of_dropWhile_eq rest])
    exact List.dropWhile_eq_nil_iff.mp nothing
  · exact fun blank c member => blank c ((List.dropWhile_suffix _).subset member)

/-- Where two characters end parts of a text that do not hold the other one, they stand at the same place. -/
theorem eq_of_append_cons {first second more rest : List Char} {c d : Char}
    (same : first ++ c :: more = second ++ d :: rest) (outside : c ∉ second) (apart : d ∉ first) :
    first = second ∧ c = d ∧ more = rest := by
  rcases List.append_eq_append_iff.mp same with ⟨between, rfl, later⟩ | ⟨between, rfl, later⟩
  · cases between with
    | nil => simpa using later
    | cons e between =>
      obtain rfl := (List.cons.inj later).1
      exact absurd (List.mem_append_right first List.mem_cons_self) outside
  · cases between with
    | nil => simpa [eq_comm] using later
    | cons e between =>
      obtain rfl := (List.cons.inj later).1
      exact absurd (List.mem_append_right second List.mem_cons_self) apart

/-- A text between quotes is read up to the first quote behind it. -/
theorem quoted_append {isQuote : Char → Bool} {first last : Char} {body tail : List Char}
    (opens : isQuote first = true) (closes : isQuote last = true) (filled : body ≠ [])
    (inside : ∀ c ∈ body, isQuote c = false) :
    quoted isQuote (first :: (body ++ last :: tail)) = some (body, tail) := by
  have run : (body ++ last :: tail).takeWhile (fun c => !isQuote c) = body := by
    rw [List.takeWhile_append_of_pos fun c member => by simp [inside c member],
      List.takeWhile_cons_of_neg (by simp [closes]), List.append_nil]
  simp [quoted, opens, run, filled]

/-! ## Reading from the start -/

theorem after?_append (lead rest : List Char) : after? lead (lead ++ rest) = some rest := by
  induction lead with
  | nil => rfl
  | cons c lead ih => simpa [after?] using ih

theorem eq_append_of_after? {lead text rest : List Char} (found : after? lead text = some rest) :
    text = lead ++ rest := by
  fun_induction after? lead text with
  | case1 text => simpa using found
  | case2 => cases found
  | case3 c lead text ih => rw [ih found, List.cons_append]
  | case4 => cases found

theorem after?_eq_none {lead text : List Char} {c : Char} (inside : c ∈ lead) (absent : c ∉ text) :
    after? lead text = none := by
  cases found : after? lead text with
  | none => rfl
  | some rest => exact absurd (eq_append_of_after? found ▸ List.mem_append_left rest inside) absent

theorem skipBlanks_append {gap rest : List Char} {c : Char} (blank : ∀ d ∈ gap, isBlank d = true)
    (stop : isBlank c = false) : skipBlanks (gap ++ c :: rest) = c :: rest := by
  rw [skipBlanks, List.dropWhile_append_of_pos blank, List.dropWhile_cons_of_neg (by simp [stop])]

theorem afterBlanks?_append {gap rest : List Char} {c : Char} (filled : gap ≠ []) (blank : ∀ d ∈ gap, isBlank d = true)
    (stop : isBlank c = false) : afterBlanks? (gap ++ c :: rest) = some (c :: rest) := by
  cases gap with
  | nil => exact absurd rfl filled
  | cons d gap =>
    rw [List.cons_append, afterBlanks?, if_pos (blank d List.mem_cons_self),
      skipBlanks_append (fun e member => blank e (List.mem_cons_of_mem d member)) stop]

/-- Blanks that are passed over stand in front of what is left. -/
theorem exists_skipBlanks (text : List Char) :
    ∃ gap, (∀ c ∈ gap, isBlank c = true) ∧ text = gap ++ skipBlanks text :=
  ⟨text.takeWhile isBlank, fun _ member => List.mem_takeWhile_imp member, List.takeWhile_append_dropWhile.symm⟩

/-- The text starts with a character of the class. -/
def Begins (p : Char → Bool) (text : List Char) : Prop := ∃ c rest, text = c :: rest ∧ p c = true

theorem begins_iff_head? {p : Char → Bool} {text : List Char} :
    Begins p text ↔ (text.head?.map p).getD false = true := by
  cases text <;> simp [Begins]

theorem Begins.imp {p q : Char → Bool} {text : List Char} (begins : Begins p text)
    (widens : ∀ c, p c = true → q c = true) : Begins q text := by
  obtain ⟨c, rest, rfl, holds⟩ := begins
  exact ⟨c, rest, rfl, widens c holds⟩

theorem Begins.append {p : Char → Bool} {text : List Char} (begins : Begins p text) (more : List Char) :
    Begins p (text ++ more) := by
  obtain ⟨c, rest, rfl, holds⟩ := begins
  exact ⟨c, rest ++ more, rfl, holds⟩

theorem begins_of_afterBlanks? {text rest : List Char} (found : afterBlanks? text = some rest) :
    Begins isBlank text := by
  cases text with
  | nil => cases found
  | cons c more =>
    cases blank : isBlank c with
    | false => simp [afterBlanks?, blank] at found
    | true => exact ⟨c, more, rfl, blank⟩

/-- A word with at least one blank behind it, and the rest that follows the blanks. -/
def Leads (word : String) (rest text : List Char) : Prop :=
  ∃ gap, gap ≠ [] ∧ (∀ c ∈ gap, isBlank c = true) ∧ text = word.toList ++ (gap ++ rest)

theorem Leads.begins {p : Char → Bool} {word : String} {rest text : List Char} (leads : Leads word rest text)
    (begins : Begins p word.toList) : Begins p text := by
  obtain ⟨gap, -, -, rfl⟩ := leads
  exact begins.append (gap ++ rest)

theorem leads_of_afterWord? {word : String} {text rest : List Char} (found : afterWord? word text = some rest) :
    Leads word rest text := by
  obtain ⟨behind, start, blanks⟩ := Option.bind_eq_some_iff.mp found
  cases behind with
  | nil => cases blanks
  | cons c behind =>
    cases blank : isBlank c with
    | false => simp [afterBlanks?, blank] at blanks
    | true =>
      obtain ⟨gap, empty, split⟩ := exists_skipBlanks behind
      have rest_eq : skipBlanks behind = rest := by simpa [afterBlanks?, blank] using blanks
      refine ⟨c :: gap, by simp, ?_, ?_⟩
      · exact List.forall_mem_cons.mpr ⟨blank, empty⟩
      · rw [eq_append_of_after? start, List.cons_append, ← rest_eq, ← split]

theorem afterWord?_of_leads {word : String} {text rest : List Char} (leads : Leads word rest text)
    (stop : Begins isWordCharacter rest) : afterWord? word text = some rest := by
  obtain ⟨gap, filled, blank, rfl⟩ := leads
  obtain ⟨c, more, rfl, letter⟩ := stop
  have solid : isBlank c = false := by
    cases empty : isBlank c with
    | false => rfl
    | true => rw [isWordCharacter_of_isBlank empty] at letter; cases letter
  rw [afterWord?, after?_append, Option.bind_some, afterBlanks?_append filled blank solid]

/-! ## Searching -/

/-- What is read first is read at a place before which nothing can be read. -/
theorem firstRead?_eq_some_iff {α : Type} {read : Reader α} {text : List Char} {found : α} :
    firstRead? read text = some found ↔ ∃ rest tail, rest <:+ text ∧ read rest = some (found, tail) ∧
      ∀ longer, longer <:+ text → rest.length < longer.length → read longer = none := by
  induction text with
  | nil =>
    rw [firstRead?, Option.map_eq_some_iff]
    constructor
    · rintro ⟨⟨_, tail⟩, hit, rfl⟩
      exact ⟨[], tail, List.suffix_rfl, hit, fun longer inside more => by simp_all⟩
    · rintro ⟨rest, tail, inside, hit, -⟩
      obtain rfl := List.suffix_nil.mp inside
      exact ⟨_, hit, rfl⟩
  | cons c text ih =>
    cases here : read (c :: text) with
    | some pair =>
      simp only [firstRead?, here, Option.some.injEq]
      constructor
      · rintro rfl
        refine ⟨c :: text, pair.2, List.suffix_rfl, here, fun longer inside more => ?_⟩
        exact absurd inside.length_le (Nat.not_le.mpr more)
      · rintro ⟨rest, tail, inside, hit, missed⟩
        rcases List.suffix_cons_iff.mp inside with rfl | later
        · rw [hit] at here
          rw [← Option.some.inj here]
        · have shorter : rest.length < (c :: text).length := Nat.lt_succ_of_le later.length_le
          rw [missed _ List.suffix_rfl shorter] at here
          cases here
    | none =>
      simp only [firstRead?, here, ih]
      constructor
      · rintro ⟨rest, tail, inside, hit, missed⟩
        refine ⟨rest, tail, inside.trans (List.suffix_cons c text), hit, fun longer suffix more => ?_⟩
        rcases List.suffix_cons_iff.mp suffix with rfl | later
        · exact here
        · exact missed longer later more
      · rintro ⟨rest, tail, inside, hit, missed⟩
        rcases List.suffix_cons_iff.mp inside with rfl | later
        · rw [hit] at here
          cases here
        · exact ⟨rest, tail, later, hit, fun longer suffix => missed longer (suffix.trans (List.suffix_cons c text))⟩

theorem read_of_firstRead?_eq_none {α : Type} {read : Reader α} {text rest : List Char}
    (missed : firstRead? read text = none) (inside : rest <:+ text) : read rest = none := by
  induction text with
  | nil =>
    obtain rfl := List.suffix_nil.mp inside
    exact Option.map_eq_none_iff.mp missed
  | cons c text ih =>
    cases here : read (c :: text) with
    | some pair => simp [firstRead?, here] at missed
    | none =>
      simp only [firstRead?, here] at missed
      rcases List.suffix_cons_iff.mp inside with rfl | later
      · exact here
      · exact ih missed later

/-- What the searched text cannot start in is passed over. -/
theorem afterFirst?_append {lead part : List Char} {c : Char} (absent : c ∉ part) (rest : List Char) :
    afterFirst? (c :: lead) (part ++ rest) = afterFirst? (c :: lead) rest := by
  induction part with
  | nil => rfl
  | cons d part ih =>
    obtain ⟨other, later⟩ : c ≠ d ∧ c ∉ part := by simpa using absent
    rw [List.cons_append, afterFirst?, after?, if_neg other]
    exact ih later

end Surveyor.Text
