import Mathlib.Data.List.TakeWhile
import Surveyor.Json.Commented
import Surveyor.Json.Token

/-! Tokens as they are written. A mark and a text end by themselves, and so does a scalar unless a letter, a digit, a
sign or a point follows it; whatever else follows has no say in how a token is read. -/

namespace Surveyor.Json

/-! ## Texts between quotes -/

theorem textToken?_plain {c : Char} (quote : c ≠ '"') (backslash : c ≠ '\\') (rest : List Char) :
    textToken? (c :: rest) = (textToken? rest).map fun (body, tail) => (c :: body, tail) := by
  rw [textToken?] <;> simp_all

theorem textToken?_escape (c : Char) (rest : List Char) :
    textToken? ('\\' :: c :: rest) = (textToken? rest).map fun (body, tail) => ('\\' :: c :: body, tail) := by
  rw [textToken?]

theorem codeUnit?_plain {a b c d : Char} {unit : Nat} (read : codeUnit? a b c d = some unit) :
    ∀ digit ∈ [a, b, c, d], digit ≠ '"' ∧ digit ≠ '\\' := by
  have known (digit : Char) (value : Nat) (found : Numeral.digitIn? 16 digit = some value) :
      digit ≠ '"' ∧ digit ≠ '\\' := by
    constructor
    · rintro rfl
      cases found
    · rintro rfl
      cases found
  simp only [codeUnit?, List.mapM_cons, List.mapM_nil, Option.bind_eq_bind, Option.bind_eq_some_iff] at read
  obtain ⟨_, ⟨_, first, _, ⟨_, second, _, ⟨_, third, _, ⟨_, fourth, _⟩, _⟩, _⟩, _⟩, _⟩ := read
  simp [known _ _ first, known _ _ second, known _ _ third, known _ _ fourth]

theorem textToken?_unicode {a b c d : Char} {unit : Nat} (read : codeUnit? a b c d = some unit) (rest : List Char) :
    textToken? ('\\' :: 'u' :: a :: b :: c :: d :: rest) =
      (textToken? rest).map fun (body, tail) => ('\\' :: 'u' :: a :: b :: c :: d :: body, tail) := by
  have plain := codeUnit?_plain read
  simp only [List.forall_mem_cons] at plain
  obtain ⟨⟨a1, a2⟩, ⟨b1, b2⟩, ⟨c1, c2⟩, ⟨d1, d2⟩, -⟩ := plain
  rw [textToken?_escape, textToken?_plain a1 a2, textToken?_plain b1 b2, textToken?_plain c1 c2,
    textToken?_plain d1 d2]
  simp [Function.comp_def]

/-- A text behind its opening quote, read up to the closing one whatever follows it. -/
def Closed (raw body : List Char) : Prop :=
  ∀ rest, textBody (raw ++ rest) = some (body, rest) ∧ textToken? (raw ++ rest) = some (raw, rest)

theorem Closed.quote : Closed ['"'] [] := fun _ => ⟨rfl, rfl⟩

theorem Closed.plain {c : Char} {raw body : List Char} (closed : Closed raw body) (quote : c ≠ '"')
    (valid : ¬ (c < ' ' || c == '\\') = true) : Closed (c :: raw) (c :: body) := by
  intro rest
  obtain ⟨read, token⟩ := closed rest
  have backslash : c ≠ '\\' := by
    rintro rfl
    exact valid rfl
  constructor
  · rw [List.cons_append, textBody] <;> simp_all
  · rw [List.cons_append, textToken?_plain quote backslash, token]
    rfl

theorem Closed.escape {c plain : Char} {raw body : List Char} (closed : Closed raw body)
    (known : escaped? c = some plain) : Closed ('\\' :: c :: raw) (plain :: body) := by
  intro rest
  obtain ⟨read, token⟩ := closed rest
  have other : c ≠ 'u' := by
    rintro rfl
    cases known
  constructor
  · rw [List.cons_append, List.cons_append, textBody] <;> simp_all
  · rw [List.cons_append, List.cons_append, textToken?_escape, token]
    rfl

theorem Closed.pair {a b c d e f g h : Char} {high low : Nat} {raw body : List Char} (closed : Closed raw body)
    (first : codeUnit? a b c d = some high) (second : codeUnit? e f g h = some low)
    (pair : (isHigh high && isLow low) = true) :
    Closed ('\\' :: 'u' :: a :: b :: c :: d :: '\\' :: 'u' :: e :: f :: g :: h :: raw) (joined high low :: body) := by
  intro rest
  obtain ⟨read, token⟩ := closed rest
  constructor
  · simp [textBody, first, second, read, pair]
  · simp only [List.cons_append, textToken?_unicode first, textToken?_unicode second, token, Option.map_some]

/-- What follows a code unit does not make a pair with it. -/
def Unpaired (unit : Nat) (rest : List Char) : Prop :=
  ∀ e f g h more low, rest = '\\' :: 'u' :: e :: f :: g :: h :: more → codeUnit? e f g h = some low →
    (isHigh unit && isLow low) = false

theorem textBody_unicode {rest body tail : List Char} (read : textBody ('\\' :: 'u' :: rest) = some (body, tail)) :
    ∃ a b c d more unit, rest = a :: b :: c :: d :: more ∧ codeUnit? a b c d = some unit := by
  generalize whole : '\\' :: 'u' :: rest = text at read
  revert read
  fun_cases textBody text
  all_goals
    intro read
    cases whole
  case case3 | case4 | case6 => exact ⟨_, _, _, _, _, _, rfl, ‹_›⟩
  case case5 | case7 | case9 | case10 => cases read
  case case8 known _ _ => cases known
  case case11 apart => exact (apart 'u' rest rfl rfl).elim

theorem textBody_unpaired {a b c d : Char} {unit : Nat} {rest body tail : List Char}
    (first : codeUnit? a b c d = some unit) (apart : Unpaired unit rest) (found : textBody rest = some (body, tail)) :
    textBody ('\\' :: 'u' :: a :: b :: c :: d :: rest) = some (single unit :: body, tail) := by
  by_cases shape : ∃ e f g h more, rest = '\\' :: 'u' :: e :: f :: g :: h :: more
  · obtain ⟨e, f, g, h, more, rfl⟩ := shape
    cases second : codeUnit? e f g h with
    | none =>
      obtain ⟨_, _, _, _, _, unit, same, known⟩ := textBody_unicode found
      cases same
      simp [second] at known
    | some low =>
      have lone := apart e f g h more low rfl second
      rw [textBody]
      simp [first, second, lone, found]
  · rw [textBody]
    · simp [first, found]
    · exact fun e f g h more same => shape ⟨e, f, g, h, more, same⟩

/-- A text that starts with a code unit holds all of its digits. -/
theorem Unpaired.change {unit : Nat} {raw tail body : List Char} (apart : Unpaired unit (raw ++ tail))
    (closed : textBody raw = some (body, [])) (rest : List Char) : Unpaired unit (raw ++ rest) := by
  intro e f g h more low same
  suffices whole : ∃ left, raw = '\\' :: 'u' :: e :: f :: g :: h :: left by
    obtain ⟨left, rfl⟩ := whole
    exact apart e f g h (left ++ tail) low rfl
  match raw, closed, same with
  | [], closed, _ => cases closed
  | [c], closed, same =>
    obtain rfl : c = '\\' := (List.cons.inj same).1
    cases closed
  | c :: d :: left, closed, same =>
    simp only [List.cons_append, List.cons.injEq] at same
    obtain ⟨rfl, rfl, same⟩ := same
    obtain ⟨_, _, _, _, _, _, rfl, -⟩ := textBody_unicode closed
    simp_all

/-- The reader looks past a lone code unit for its other half, but not past the quote that ends the text. -/
theorem Closed.unpaired {a b c d : Char} {unit : Nat} {raw body tail : List Char} (closed : Closed raw body)
    (first : codeUnit? a b c d = some unit) (apart : Unpaired unit (raw ++ tail)) :
    Closed ('\\' :: 'u' :: a :: b :: c :: d :: raw) (single unit :: body) := by
  intro rest
  obtain ⟨read, token⟩ := closed rest
  have whole : textBody raw = some (body, []) := by simpa using (closed []).1
  constructor
  · exact textBody_unpaired first (apart.change whole rest) read
  · simp only [List.cons_append, textToken?_unicode first, token, Option.map_some]

theorem textBody_closed {text body tail : List Char} (read : textBody text = some (body, tail)) :
    ∃ raw, text = raw ++ tail ∧ Closed raw body := by
  fun_induction textBody text generalizing body tail with
  | case1 => cases read
  | case2 rest =>
    cases read
    exact ⟨['"'], rfl, .quote⟩
  | case3 a b c d e f g h rest high low second first pair ih =>
    obtain ⟨⟨inner, last⟩, found, same⟩ := Option.map_eq_some_iff.mp read
    cases same
    obtain ⟨raw, rfl, closed⟩ := ih found
    exact ⟨_, rfl, closed.pair first second pair⟩
  | case4 a b c d e f g h rest high low second first lone ih =>
    obtain ⟨⟨inner, last⟩, found, same⟩ := Option.map_eq_some_iff.mp read
    cases same
    obtain ⟨raw, whole, closed⟩ := ih found
    have apart : Unpaired high (raw ++ tail) := by
      rw [← whole]
      intro e' f' g' h' more low' same second'
      simp only [List.cons.injEq, true_and] at same
      obtain ⟨rfl, rfl, rfl, rfl, rfl⟩ := same
      obtain rfl := Option.some.inj (second.symm.trans second')
      simpa using lone
    refine ⟨'\\' :: 'u' :: a :: b :: c :: d :: raw, ?_, closed.unpaired first apart⟩
    rw [whole]
    rfl
  | case5 => cases read
  | case6 a b c d rest apart unit first ih =>
    obtain ⟨⟨inner, last⟩, found, same⟩ := Option.map_eq_some_iff.mp read
    cases same
    obtain ⟨raw, rfl, closed⟩ := ih found
    have alone : Unpaired unit (raw ++ tail) := by
      intro e f g h more low same
      exact (apart e f g h more same).elim
    exact ⟨'\\' :: 'u' :: a :: b :: c :: d :: raw, rfl, closed.unpaired first alone⟩
  | case7 => cases read
  | case8 c rest _ _ plain escape ih =>
    obtain ⟨⟨inner, last⟩, found, same⟩ := Option.map_eq_some_iff.mp read
    cases same
    obtain ⟨raw, rfl, closed⟩ := ih found
    exact ⟨'\\' :: c :: raw, rfl, closed.escape escape⟩
  | case9 => cases read
  | case10 => cases read
  | case11 c rest plain _ _ _ valid ih =>
    obtain ⟨⟨inner, last⟩, found, same⟩ := Option.map_eq_some_iff.mp read
    cases same
    obtain ⟨raw, rfl, closed⟩ := ih found
    exact ⟨c :: raw, rfl, closed.plain plain valid⟩

/-! ## Numbers and words -/

def isScalarCharacter (c : Char) : Bool := c.isAlphanum || c == '+' || c == '-' || c == '.'

/-- The first character of a text, if it has any, is of a class. -/
def Starts (allowed : Char → Prop) (text : List Char) : Prop := ∀ c ∈ text.head?, allowed c

theorem Starts.append {allowed : Char → Prop} {first second : List Char} (start : Starts allowed first)
    (next : Starts allowed second) : Starts allowed (first ++ second) := by
  cases first with
  | nil => exact next
  | cons c more => exact start

theorem Starts.imp {allowed wider : Char → Prop} {text : List Char} (start : Starts allowed text)
    (widens : ∀ c, allowed c → wider c) : Starts wider text := fun c head => widens c (start c head)

/-- A text that does not lengthen a scalar in front of it. -/
abbrev Ends (text : List Char) : Prop := Starts (isScalarCharacter · = false) text

theorem takeWhile_starts {p : Char → Bool} {run rest : List Char} (all : ∀ c ∈ run, p c = true)
    (stop : Starts (p · = false) rest) : (run ++ rest).takeWhile p = run := by
  rw [List.takeWhile_append_of_pos all]
  cases rest with
  | nil => simp
  | cons c more => simp [stop c rfl]

theorem isDigit_of_mem_takeWhile {text : List Char} {c : Char} (member : c ∈ text.takeWhile Char.isDigit) :
    c.isDigit = true := List.mem_takeWhile_imp member

theorem wholePart_append {text rest : List Char} (stop : Starts (·.isDigit = false) rest) :
    wholePart (wholePart text ++ rest) = wholePart text := by
  fun_cases wholePart text with
  | case1 => rfl
  | case2 input other =>
    have same : wholePart (text.takeWhile Char.isDigit ++ rest) =
        (text.takeWhile Char.isDigit ++ rest).takeWhile Char.isDigit := by
      rw [wholePart]
      intro tail zero
      cases run : text.takeWhile Char.isDigit with
      | nil =>
        rw [run, List.nil_append] at zero
        exact absurd (stop '0' (by simp [zero])) (by decide)
      | cons c more =>
        obtain ⟨after, whole⟩ := run ▸ List.takeWhile_prefix (p := Char.isDigit) (l := text)
        rw [run, List.cons_append, List.cons.injEq] at zero
        exact other (more ++ after) (by rw [← whole, zero.1]; rfl)
    rw [same, takeWhile_starts (fun c => isDigit_of_mem_takeWhile) stop]

theorem fractionPart_append {text rest : List Char} (stop : Starts (fun c => c.isDigit = false ∧ c ≠ '.') rest) :
    fractionPart (fractionPart text ++ rest) = fractionPart text := by
  have nothing : fractionPart rest = [] := by
    rw [fractionPart]
    rintro more rfl
    exact (stop '.' rfl).2 rfl
  fun_cases fractionPart text with
  | case1 rest run empty => exact nothing
  | case2 after run present =>
    have same : (run ++ rest).takeWhile Char.isDigit = run :=
      takeWhile_starts (fun c => isDigit_of_mem_takeWhile) (stop.imp fun c apart => apart.1)
    rw [List.cons_append, fractionPart, same, if_neg present]
  | case3 => exact nothing

theorem isScalarCharacter_of_isDigit {c : Char} (digit : c.isDigit = true) : isScalarCharacter c = true := by
  simp [isScalarCharacter, Char.isAlphanum, digit]

theorem apart_of_end {c : Char} (ends : isScalarCharacter c = false) : c.isDigit = false ∧ c ≠ '.' := by
  constructor
  · by_contra digit
    rw [isScalarCharacter_of_isDigit (by simpa using digit)] at ends
    cases ends
  · rintro rfl
    cases ends

theorem apart_of_letter {c : Char} (letter : c = 'e' ∨ c = 'E') : c.isDigit = false ∧ c ≠ '.' := by
  rcases letter with rfl | rfl <;> decide

theorem exponentPart_append {text rest : List Char} (stop : Ends rest) :
    exponentPart (exponentPart text ++ rest) = exponentPart text := by
  have nothing : exponentPart rest = [] := by
    cases rest with
    | nil => rfl
    | cons c more =>
      have other : ¬ (c == 'e' || c == 'E') = true := by
        intro letter
        have apart := stop c rfl
        rcases Bool.or_eq_true_iff.mp letter with same | same
        · obtain rfl := eq_of_beq same
          cases apart
        · obtain rfl := eq_of_beq same
          cases apart
      unfold exponentPart
      exact if_neg other
  have digits {run : List Char} (all : ∀ c ∈ run, c.isDigit = true) : (run ++ rest).takeWhile Char.isDigit = run :=
    takeWhile_starts all (stop.imp fun c ends => (apart_of_end ends).1)
  fun_cases exponentPart text with
  | case2 letter isLetter mark after isMark run present =>
    have same : (run ++ rest).takeWhile Char.isDigit = run := digits fun c => isDigit_of_mem_takeWhile
    simp only [List.cons_append, exponentPart, if_pos isLetter, if_pos isMark, same, if_neg present]
  | case4 letter isLetter first after noMark run present =>
    have same : (run ++ rest).takeWhile Char.isDigit = run := digits fun c => isDigit_of_mem_takeWhile
    change exponentPart ((if run.isEmpty then [] else letter :: run) ++ rest) = if run.isEmpty then [] else letter :: run
    rw [if_neg present]
    obtain ⟨more, shape⟩ : ∃ more, run = first :: more := by
      simp only [run, List.takeWhile_cons] at present ⊢
      split at present
      · simp_all
      · simp at present
    rw [shape] at same ⊢
    unfold exponentPart
    simp only [List.cons_append] at same ⊢
    rw [if_pos isLetter, if_neg noMark, same]
    rfl
  | case3 letter isLetter first after noMark run empty =>
    simp only [run] at empty
    simp only [if_pos empty]
    exact nothing
  | case1 | case5 | case6 | case7 => exact nothing

theorem wholePart_prefix (text : List Char) : wholePart text <+: text ∧ ∀ c ∈ wholePart text, c.isDigit = true := by
  fun_cases wholePart text with
  | case1 => exact ⟨List.prefix_iff_eq_append.mpr rfl, by simp⟩
  | case2 => exact ⟨List.takeWhile_prefix _, fun c => isDigit_of_mem_takeWhile⟩

theorem fractionPart_prefix (text : List Char) :
    fractionPart text <+: text ∧ Starts (· = '.') (fractionPart text) ∧
      ∀ c ∈ fractionPart text, isScalarCharacter c = true := by
  fun_cases fractionPart text with
  | case2 after run =>
    refine ⟨List.cons_prefix_cons.mpr ⟨rfl, List.takeWhile_prefix _⟩, by simp [Starts], ?_⟩
    refine List.forall_mem_cons.mpr ⟨rfl, fun c member => ?_⟩
    exact isScalarCharacter_of_isDigit (isDigit_of_mem_takeWhile member)
  | case1 | case3 => exact ⟨List.nil_prefix, by simp [Starts], by simp⟩

theorem exponentPart_prefix (text : List Char) :
    exponentPart text <+: text ∧ Starts (fun c => c = 'e' ∨ c = 'E') (exponentPart text) ∧
      ∀ c ∈ exponentPart text, isScalarCharacter c = true := by
  have letters {letter : Char} (isLetter : (letter == 'e' || letter == 'E') = true) :
      (letter = 'e' ∨ letter = 'E') ∧ isScalarCharacter letter = true := by
    have either : letter = 'e' ∨ letter = 'E' := by simpa using isLetter
    refine ⟨either, ?_⟩
    rcases either with rfl | rfl <;> rfl
  have signs {mark : Char} (isMark : (mark == '+' || mark == '-') = true) : isScalarCharacter mark = true := by
    have either : mark = '+' ∨ mark = '-' := by simpa using isMark
    rcases either with rfl | rfl <;> rfl
  have digits {text : List Char} : ∀ c ∈ text.takeWhile Char.isDigit, isScalarCharacter c = true :=
    fun c member => isScalarCharacter_of_isDigit (isDigit_of_mem_takeWhile member)
  fun_cases exponentPart text with
  | case2 letter isLetter mark after isMark run present =>
    refine ⟨?_, by simpa [Starts] using (letters isLetter).1, ?_⟩
    · exact List.cons_prefix_cons.mpr ⟨rfl, List.cons_prefix_cons.mpr ⟨rfl, List.takeWhile_prefix _⟩⟩
    · exact List.forall_mem_cons.mpr ⟨(letters isLetter).2, List.forall_mem_cons.mpr ⟨signs isMark, digits⟩⟩
  | case4 letter isLetter first after noMark run present =>
    change (if run.isEmpty then [] else letter :: run) <+: _ ∧ Starts _ (if run.isEmpty then [] else letter :: run) ∧
      ∀ c ∈ (if run.isEmpty then [] else letter :: run), _
    rw [if_neg present]
    refine ⟨List.cons_prefix_cons.mpr ⟨rfl, List.takeWhile_prefix _⟩, by simpa [Starts] using (letters isLetter).1, ?_⟩
    exact List.forall_mem_cons.mpr ⟨(letters isLetter).2, digits⟩
  | case3 letter isLetter first after noMark run empty =>
    simp only [run] at empty
    simp only [if_pos empty]
    exact ⟨List.nil_prefix, by simp [Starts], by simp⟩
  | case1 | case5 | case6 | case7 => exact ⟨List.nil_prefix, by simp [Starts], by simp⟩

/-- The value of a number with its parts. -/
def numberOf (negative : Bool) (whole fraction exponent : List Char) : Option Json :=
  if whole.isEmpty then none
  else if fraction.isEmpty && exponent.isEmpty then
    let size : Int := Numeral.ofDigits 10 (whole.map fun c => c.toNat - '0'.toNat)
    some (.int (if negative then -size else size))
  else (Numeral.decimal? negative (whole ++ fraction ++ exponent)).map .real

theorem number?_eq {whole fraction exponent rest : List Char} (negative : Bool)
    (first : wholePart (whole ++ (fraction ++ (exponent ++ rest))) = whole)
    (second : fractionPart (fraction ++ (exponent ++ rest)) = fraction) (third : exponentPart (exponent ++ rest) = exponent) :
    number? negative (whole ++ (fraction ++ (exponent ++ rest))) =
      (numberOf negative whole fraction exponent).map (·, rest) := by
  unfold number? numberOf
  simp only [first, List.drop_left, second, ← List.drop_drop, third]
  split
  · rfl
  split
  · rfl
  · rw [Option.map_map]
    rfl

theorem number?_spelled {negative : Bool} {text tail : List Char} {value : Json}
    (read : number? negative text = some (value, tail)) :
    ∃ digit more, text = digit :: more ++ tail ∧ digit.isDigit = true ∧ (∀ c ∈ more, isScalarCharacter c = true) ∧
      ∀ rest, Ends rest → number? negative (digit :: more ++ rest) = some (value, rest) := by
  obtain ⟨⟨afterWhole, whole⟩, digits⟩ := wholePart_prefix text
  obtain ⟨⟨afterFraction, fraction⟩, point, inFraction⟩ := fractionPart_prefix afterWhole
  obtain ⟨⟨left, exponent⟩, letter, inExponent⟩ := exponentPart_prefix afterFraction
  generalize first : wholePart text = w at whole digits
  generalize second : fractionPart afterWhole = f at fraction point inFraction
  generalize third : exponentPart afterFraction = x at exponent letter inExponent
  subst exponent fraction whole
  rw [number?_eq negative first second third, Option.map_eq_some_iff] at read
  obtain ⟨_, known, same⟩ := read
  cases same
  obtain ⟨digit, run, rfl⟩ : ∃ digit run, w = digit :: run := by
    cases w with
    | nil => cases known
    | cons digit run => exact ⟨digit, run, rfl⟩
  refine ⟨digit, run ++ (f ++ x), by simp, digits digit List.mem_cons_self, ?_, fun rest stop => ?_⟩
  · intro c member
    rcases List.mem_append.mp member with early | late
    · exact isScalarCharacter_of_isDigit (digits c (List.mem_cons_of_mem _ early))
    · exact (List.mem_append.mp late).elim (inFraction c) (inExponent c)
  · have afterExponent : Starts (fun c => c.isDigit = false ∧ c ≠ '.') (x ++ rest) :=
      (letter.imp fun c => apart_of_letter).append (stop.imp fun c => apart_of_end)
    have afterFraction : Starts (·.isDigit = false) (f ++ (x ++ rest)) := by
      refine (point.imp ?_).append (afterExponent.imp fun c apart => apart.1)
      rintro c rfl
      rfl
    have whole : wholePart (digit :: run ++ (f ++ (x ++ rest))) = digit :: run := first ▸ wholePart_append afterFraction
    have fraction : fractionPart (f ++ (x ++ rest)) = f := second ▸ fractionPart_append afterExponent
    have exponent : exponentPart (x ++ rest) = x := third ▸ exponentPart_append stop
    simpa [known] using number?_eq negative whole fraction exponent

theorem literal?_spelled {text tail : List Char} {value : Json} (read : literal? text = some (value, tail)) :
    ∃ first more, text = first :: more ++ tail ∧ (∀ c ∈ first :: more, isScalarCharacter c = true) ∧
      ∀ rest, literal? (first :: more ++ rest) = some (value, rest) := by
  obtain ⟨⟨word, found⟩, member, same⟩ := List.exists_of_findSome?_eq_some read
  simp only [afterWord?, Option.map_eq_some_iff, Prod.mk.injEq] at same
  obtain ⟨_, taken, rfl, rfl⟩ := same
  split at taken
  next isLead =>
    obtain ⟨after, rfl⟩ := List.isPrefixOf_iff_prefix.mp isLead
    simp only [Option.some.injEq, List.drop_left] at taken
    subst taken
    simp only [literals, List.mem_cons, Prod.mk.injEq, List.not_mem_nil, or_false] at member
    rcases member with ⟨rfl, rfl⟩ | ⟨rfl, rfl⟩ | ⟨rfl, rfl⟩ | ⟨rfl, rfl⟩ | ⟨rfl, rfl⟩ | ⟨rfl, rfl⟩
    all_goals exact ⟨_, _, rfl, List.all_eq_true.mp rfl, fun rest => rfl⟩
  next => cases taken

theorem literal?_digit {digit : Char} (isDigit : digit.isDigit = true) (rest : List Char) :
    literal? (digit :: rest) = none ∧ literal? ('-' :: digit :: rest) = none := by
  have apart (c : Char) (other : c.isDigit = false) : c ≠ digit := by
    rintro rfl
    simp [isDigit] at other
  constructor <;> simp +decide [literal?, literals, afterWord?, apart]

/-! ## Tokens -/

/-- The token that a mark is by itself. -/
def Token.ofMark? : Char → Option Token
  | '\x7b' => some .beginObject
  | '\x7d' => some .endObject
  | '[' => some .beginArray
  | ']' => some .endArray
  | ':' => some .colon
  | ',' => some .comma
  | _ => none

/-- How a token is written, and how far the reader looks for it. -/
inductive Spelled : List Char → Token → Prop where
  | mark {c : Char} {token : Token} (known : Token.ofMark? c = some token) : Spelled [c] token
  | text {raw body : List Char} (closed : Closed raw body) : Spelled ('"' :: raw) (.text (String.ofList body))
  | scalar {first : Char} {more : List Char} {value : Json} (all : ∀ c ∈ first :: more, isScalarCharacter c = true)
      (read : ∀ rest, Ends rest → Token.next? (first :: more ++ rest) = some (.scalar value, rest)) :
      Spelled (first :: more) (.scalar value)

theorem Token.next?_mark {c : Char} {token : Token} (known : Token.ofMark? c = some token) (rest : List Char) :
    Token.next? (c :: rest) = some (token, rest) := by
  unfold Token.ofMark? at known
  split at known
  all_goals cases known
  all_goals rfl

/-- What is read where no mark and no text starts. -/
def scalar? (c : Char) (rest : List Char) : Option (Json × List Char) :=
  (literal? (c :: rest)).or (if c == '-' then number? true rest else number? false (c :: rest))

theorem Token.next?_other {c : Char} (noMark : Token.ofMark? c = none) (noQuote : c ≠ '"') (rest : List Char) :
    Token.next? (c :: rest) = (scalar? c rest).map fun (value, tail) => (.scalar value, tail) := by
  have other (mark : Char) (known : (Token.ofMark? mark).isSome = true) : c ≠ mark := by
    rintro rfl
    simp [noMark] at known
  have read := Token.next?.eq_9 c rest (other _ rfl) (other _ rfl) (other _ rfl) (other _ rfl) (other _ rfl)
    (other _ rfl) noQuote
  refine read.trans ?_
  unfold scalar?
  cases literal? (c :: rest) with
  | some found => rfl
  | none => rw [Option.none_or, apply_ite (Option.map _)]

theorem Token.next?_scalar {c : Char} (scalar : isScalarCharacter c = true) (rest : List Char) :
    Token.next? (c :: rest) = (scalar? c rest).map fun (value, tail) => (.scalar value, tail) := by
  have other (mark : Char) (apart : isScalarCharacter mark = false) : c ≠ mark := by
    rintro rfl
    simp [scalar] at apart
  refine Token.next?_other ?_ (other '"' rfl) rest
  unfold Token.ofMark?
  split
  case h_7 => rfl
  all_goals cases scalar

def sign (negative : Bool) : List Char := if negative then ['-'] else []

theorem Token.next?_number {digit : Char} (isDigit : digit.isDigit = true) (negative : Bool) (rest : List Char) :
    Token.next? (sign negative ++ digit :: rest) =
      (number? negative (digit :: rest)).map fun (value, tail) => (.scalar value, tail) := by
  obtain ⟨unsignedWord, signedWord⟩ := literal?_digit isDigit rest
  cases negative with
  | true =>
    have minus : scalar? '-' (digit :: rest) = number? true (digit :: rest) := by rw [scalar?, signedWord]; rfl
    rw [← minus]
    exact Token.next?_scalar rfl (digit :: rest)
  | false =>
    have unsigned : ¬ (digit == '-') = true := by
      intro minus
      rw [eq_of_beq minus] at isDigit
      cases isDigit
    have plain : scalar? digit rest = number? false (digit :: rest) := by
      rw [scalar?, unsignedWord, if_neg unsigned, Option.none_or]
    rw [← plain]
    exact Token.next?_scalar (isScalarCharacter_of_isDigit isDigit) rest

theorem number_spelled {negative : Bool} {text tail : List Char} {value : Json}
    (read : number? negative text = some (value, tail)) :
    ∃ raw, text = raw ++ tail ∧ Spelled (sign negative ++ raw) (.scalar value) := by
  obtain ⟨digit, more, shape, isDigit, all, reads⟩ := number?_spelled read
  have scalars : ∀ c ∈ digit :: more, isScalarCharacter c = true :=
    List.forall_mem_cons.mpr ⟨isScalarCharacter_of_isDigit isDigit, all⟩
  have next (rest : List Char) (stop : Ends rest) :
      Token.next? (sign negative ++ (digit :: more ++ rest)) = some (.scalar value, rest) := by
    rw [List.cons_append, Token.next?_number isDigit, ← List.cons_append, reads rest stop]
    rfl
  refine ⟨digit :: more, shape, ?_⟩
  cases negative with
  | true => exact .scalar (List.forall_mem_cons.mpr ⟨rfl, scalars⟩) next
  | false => exact .scalar scalars next

theorem word_spelled {text tail : List Char} {value : Json} (read : literal? text = some (value, tail)) :
    ∃ raw, text = raw ++ tail ∧ Spelled raw (.scalar value) := by
  obtain ⟨first, more, same, all, reads⟩ := literal?_spelled read
  refine ⟨first :: more, same, .scalar all fun rest _ => ?_⟩
  have word : scalar? first (more ++ rest) = some (value, rest) := by
    rw [scalar?, ← List.cons_append, reads rest, Option.some_or]
  rw [List.cons_append, Token.next?_scalar (all first List.mem_cons_self), word]
  rfl

theorem scalar_spelled {c : Char} {rest tail : List Char} {value : Json} (read : scalar? c rest = some (value, tail)) :
    ∃ raw, c :: rest = raw ++ tail ∧ Spelled raw (.scalar value) := by
  rcases Option.or_eq_some_iff.mp read with word | ⟨-, number⟩
  · exact word_spelled word
  · split at number
    next minus =>
      obtain rfl := eq_of_beq minus
      obtain ⟨raw, rfl, spelled⟩ := number_spelled number
      exact ⟨sign true ++ raw, rfl, spelled⟩
    next => exact number_spelled number

/-- Whatever follows a token, it is read as far as it is written. -/
theorem Token.next?_spelled {text tail : List Char} {token : Token} (read : Token.next? text = some (token, tail)) :
    ∃ raw, text = raw ++ tail ∧ Spelled raw token := by
  cases text with
  | nil => cases read
  | cons c rest =>
    cases known : Token.ofMark? c with
    | some mark =>
      rw [Token.next?_mark known] at read
      cases read
      exact ⟨[c], rfl, .mark known⟩
    | none =>
      by_cases quote : c = '"'
      · subst quote
        obtain ⟨⟨body, last⟩, found, same⟩ := Option.map_eq_some_iff.mp read
        cases same
        obtain ⟨raw, rfl, closed⟩ := textBody_closed found
        exact ⟨List.cons '"' raw, rfl, .text closed⟩
      · rw [Token.next?_other known quote] at read
        obtain ⟨⟨value, last⟩, found, same⟩ := Option.map_eq_some_iff.mp read
        cases same
        exact scalar_spelled found

/-- Whether a token ends a collection. -/
def Token.closes : Token → Bool
  | .endObject | .endArray => true
  | _ => false

def Token.isScalar : Token → Bool
  | .scalar _ => true
  | _ => false

theorem isBlank_of_isSpace {c : Char} (space : isSpace c = true) : Text.isBlank c = true := by
  simp only [isSpace, Bool.or_eq_true, beq_iff_eq, or_assoc] at space
  rcases space with rfl | rfl | rfl | rfl <;> rfl

theorem isBlank_of_scalar {c : Char} (scalar : isScalarCharacter c = true) : Text.isBlank c = false := by
  have range : 43 ≤ c.toNat ∧ c.toNat ≤ 122 := by
    delta isScalarCharacter Char.isAlphanum Char.isAlpha Char.isUpper Char.isLower Char.isDigit at scalar
    simp only [Bool.or_eq_true, Bool.and_eq_true, decide_eq_true_eq, beq_iff_eq, UInt32.le_iff_toNat_le] at scalar
    rcases scalar with ((scalar | rfl) | rfl) | rfl
    · have value : c.toNat = c.val.toNat := rfl
      simp at scalar
      omega
    all_goals decide
  by_contra blank
  simp only [Text.isBlank, Bool.not_eq_false, Bool.or_eq_true, Bool.and_eq_true, decide_eq_true_eq, beq_iff_eq,
    Char.le_def, UInt32.le_iff_toNat_le, ← Char.toNat_inj] at blank
  have value : c.toNat = c.val.toNat := rfl
  simp at blank
  omega

theorem Spelled.starts {raw : List Char} {token : Token} (spelled : Spelled raw token) :
    ∃ c more, raw = c :: more ∧ Text.isBlank c = false ∧ (c == '\x7d' || c == ']') = token.closes := by
  cases spelled with
  | @mark c token known =>
    refine ⟨c, [], rfl, ?_⟩
    unfold Token.ofMark? at known
    split at known
    all_goals cases known
    all_goals decide
  | text => exact ⟨_, _, rfl, by decide, rfl⟩
  | @scalar first more value all =>
    have scalar := all first List.mem_cons_self
    refine ⟨first, more, rfl, isBlank_of_scalar scalar, ?_⟩
    have other (c : Char) (mark : isScalarCharacter c = false) : (first == c) = false := by
      rw [beq_eq_false_iff_ne]
      rintro rfl
      simp [scalar] at mark
    rw [other '\x7d' rfl, other ']' rfl]
    rfl

theorem Spelled.next? {raw rest : List Char} {token : Token} (spelled : Spelled raw token)
    (stop : token.isScalar = true → Ends rest) : Token.next? (raw ++ rest) = some (token, rest) := by
  cases spelled with
  | mark known => exact Token.next?_mark known rest
  | text closed => simp [Token.next?, (closed rest).1]
  | scalar all read => exact read rest (stop rfl)

/-- What is no scalar does not lengthen one. -/
theorem Spelled.ends {raw : List Char} {token : Token} (spelled : Spelled raw token) (other : token.isScalar = false)
    (rest : List Char) : Ends (raw ++ rest) := by
  rintro c head
  cases spelled with
  | mark known =>
    cases head
    unfold Token.ofMark? at known
    split at known
    all_goals cases known
    all_goals rfl
  | text =>
    cases head
    rfl
  | scalar => cases other

end Surveyor.Json
