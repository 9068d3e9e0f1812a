import Surveyor.Imports.Specifier
import Surveyor.Proofs.Text

/-! Import statements as they are written, and what each reader makes of one that a text starts with. The text behind
the statement is arbitrary. -/

namespace Surveyor.Imports

open Text

/-! ## Statements as they are written -/

/-- Blanks, at least so many. -/
structure Gap (least : Nat) where
  text : List Char
  blank : ∀ c ∈ text, isBlank c = true
  long : least ≤ text.length

/-- What stands between a keyword and a specifier: names and a `from`, with blanks around each. -/
structure Clause where
  lead : Gap 1
  names : List Char
  before : Gap 1
  after : Gap 1
  filled : names ≠ []
  allowed : ∀ c ∈ names, isClauseCharacter c = true

def Clause.text (clause : Clause) : List Char :=
  clause.lead.text ++ (clause.names ++ (clause.before.text ++ ("from".toList ++ clause.after.text)))

def isSpecifierCharacter (c : Char) : Bool :=
  isWordCharacter c || c == '@' || c == '.' || c == '/' || c == '~' || c == '-'

/-- A specifier between two quotes of one kind. -/
structure Source where
  mark : Char
  specifier : List Char
  marks : isQuote mark = true
  filled : specifier ≠ []
  allowed : ∀ c ∈ specifier, isSpecifierCharacter c = true

def Source.text (source : Source) : List Char := source.mark :: (source.specifier ++ [source.mark])

/-- The kinds of statements, each with the blanks and names it is written with. -/
inductive Form where
  | imports (clause : Clause)
  | exports (clause : Clause)
  | bare (lead : Gap 1)
  | required (outer inner last : Gap 0)
  | dynamic (outer inner last : Gap 0)
  | style (lead : Gap 1)
  | styleUrl (lead : Gap 1) (inner last : Gap 0)

def Form.keyword : Form → String
  | imports _ | bare _ | dynamic .. => "import"
  | exports _ => "export"
  | required .. => "require"
  | style _ | styleUrl .. => "@import"

/-- What stands between the keyword and the quoted specifier. -/
def Form.middle : Form → List Char
  | imports clause | exports clause => clause.text
  | bare lead | style lead => lead.text
  | required outer inner _ | dynamic outer inner _ => outer.text ++ '(' :: inner.text
  | styleUrl lead inner _ => lead.text ++ ("url(".toList ++ inner.text)

def Form.head (form : Form) : List Char := form.keyword.toList ++ form.middle

/-- What stands behind the quoted specifier. -/
def Form.tail : Form → List Char
  | required _ _ last | dynamic _ _ last | styleUrl _ _ last => last.text ++ ")".toList
  | _ => []

/-- What ends the statement behind the quoted specifier. -/
def Form.closing (form : Form) : List Char := form.tail ++ ";\n".toList

/-- Static imports and exports, calls of `require` and stylesheet imports without `url`. -/
def Form.isDirect : Form → Bool
  | imports .. | exports .. | bare .. | required .. | style .. => true
  | _ => false

def Form.isDynamic : Form → Bool
  | dynamic .. => true
  | _ => false

/-- Both kinds of stylesheet imports. -/
def Form.isStyle : Form → Bool
  | style .. | styleUrl .. => true
  | _ => false

def Form.isUrl : Form → Bool
  | styleUrl .. => true
  | _ => false

structure Statement where
  form : Form
  source : Source

def Statement.text (statement : Statement) : List Char :=
  statement.form.head ++ (statement.source.text ++ statement.form.closing)

def Statement.specifier (statement : Statement) : String := String.ofList statement.source.specifier

def written (program : List Statement) : String := String.ofList (program.flatMap Statement.text)

/-! ## Classes of characters -/

theorem isQuote_cases {c : Char} (quote : isQuote c = true) : c = '\'' ∨ c = '"' := by
  simpa [isQuote] using quote

theorem isQuote_of_class {p : Char → Bool} {c : Char} (single : p '\'' = false) (double : p '"' = false)
    (holds : p c = true) : isQuote c = false := by
  cases quote : isQuote c with
  | false => rfl
  | true => rcases isQuote_cases quote with rfl | rfl <;> simp_all

theorem isQuote_of_isSpecifierCharacter {c : Char} (allowed : isSpecifierCharacter c = true) : isQuote c = false :=
  isQuote_of_class (by decide) (by decide) allowed

theorem isQuote_of_isClauseCharacter {c : Char} (allowed : isClauseCharacter c = true) : isQuote c = false :=
  isQuote_of_class (by decide) (by decide) allowed

theorem isBlank_of_isQuote {c : Char} (quote : isQuote c = true) : isBlank c = false := by
  rcases isQuote_cases quote with rfl | rfl <;> rfl

theorem isClauseCharacter_of_isBlank {c : Char} (blank : isBlank c = true) : isClauseCharacter c = true := by
  simp [isClauseCharacter, blank]

theorem isBlank_of_isSpecifierCharacter {c : Char} (allowed : isSpecifierCharacter c = true) : isBlank c = false := by
  cases blank : isBlank c with
  | false => rfl
  | true =>
    have other := isWordCharacter_of_isBlank blank
    simp only [isSpecifierCharacter, other, Bool.false_or, Bool.or_eq_true, beq_iff_eq] at allowed
    rcases allowed with (((rfl | rfl) | rfl) | rfl) | rfl <;> exact absurd blank (by decide)

/-! ## Reading a statement from its start -/

theorem Source.quoted_text (source : Source) (rest : List Char) :
    quoted isQuote (source.text ++ rest) = some (source.specifier, rest) := by
  have inside : ∀ c ∈ source.specifier, isQuote c = false := fun c member =>
    isQuote_of_isSpecifierCharacter (source.allowed c member)
  have shape : source.text ++ rest = source.mark :: (source.specifier ++ source.mark :: rest) := by simp [Source.text]
  rw [shape]
  exact quoted_append source.marks source.marks source.filled inside

theorem Source.skipBlanks_text {gap : List Char} (blank : ∀ c ∈ gap, isBlank c = true) (source : Source)
    (rest : List Char) : skipBlanks (gap ++ (source.text ++ rest)) = source.text ++ rest :=
  skipBlanks_append blank (isBlank_of_isQuote source.marks)

theorem afterClause_append {accepts : List Char → Bool} {run : List Char} (source : Source) (rest : List Char)
    (allowed : ∀ c ∈ run, isClauseCharacter c = true) (accepted : accepts run = true) :
    afterClause accepts (run ++ (source.text ++ rest)) = some (source.specifier, rest) := by
  have stop : ¬ isClauseCharacter source.mark = true := by
    intro clause
    exact absurd source.marks (by simp [isQuote_of_isClauseCharacter clause])
  have ends : (source.text ++ rest).takeWhile isClauseCharacter = [] := List.takeWhile_cons_of_neg stop
  have stays : (source.text ++ rest).dropWhile isClauseCharacter = source.text ++ rest :=
    List.dropWhile_cons_of_neg stop
  rw [afterClause, List.takeWhile_append_of_pos allowed, ends, List.append_nil, if_pos accepted,
    List.dropWhile_append_of_pos allowed, stays, source.quoted_text]

theorem call_append (outer inner : Gap 0) (source : Source) (rest : List Char) :
    call (outer.text ++ '(' :: (inner.text ++ (source.text ++ rest))) = some (source.specifier, rest) := by
  have opens : skipBlanks (outer.text ++ '(' :: (inner.text ++ (source.text ++ rest))) =
      '(' :: (inner.text ++ (source.text ++ rest)) := skipBlanks_append outer.blank rfl
  have behind : after? ['('] ('(' :: (inner.text ++ (source.text ++ rest))) = some (inner.text ++ (source.text ++ rest)) :=
    after?_append ['('] _
  simp only [call, opens, behind, Option.bind_eq_bind, Option.bind_some, source.skipBlanks_text inner.blank,
    source.quoted_text]

theorem Gap.ne_nil (gap : Gap 1) : gap.text ≠ [] := List.ne_nil_of_length_pos gap.long

theorem Gap.allowed {least : Nat} (gap : Gap least) : ∀ c ∈ gap.text, isClauseCharacter c = true :=
  fun c member => isClauseCharacter_of_isBlank (gap.blank c member)

theorem Gap.blanksOnly (gap : Gap 1) : Imports.blanksOnly gap.text = true := by
  simpa [Imports.blanksOnly, gap.ne_nil] using gap.blank

theorem isClause_append {names : List Char} (after : Gap 1) (long : 2 ≤ names.length)
    (starts : (names.head?.map isBlank).getD false = true) (ends : (names.getLast?.map isBlank).getD false = true) :
    isClause (names ++ ("from".toList ++ after.text)) = true := by
  have trimmed : dropTrailing isBlank (names ++ ("from".toList ++ after.text)) = names ++ "from".toList := by
    rw [← List.append_assoc]
    apply dropTrailing_append after.blank
    intro c last
    rw [List.getLast?_append] at last
    cases last
    rfl
  have word : (names ++ "from".toList).length - 4 = names.length := by simp
  have shorter : (names ++ "from".toList).length < (names ++ ("from".toList ++ after.text)).length := by
    have blanks := after.long
    simp only [List.length_append]
    omega
  simp only [isClause, trimmed, word, List.take_left, List.drop_left, starts, ends, shorter, long, decide_true,
    beq_self_eq_true, Bool.and_true]

theorem Clause.isClause_text (clause : Clause) : isClause clause.text = true := by
  have first := clause.lead.long
  have last := clause.before.long
  have starts : ((clause.lead.text ++ (clause.names ++ clause.before.text)).head?.map isBlank).getD false = true := by
    cases blanks : clause.lead.text with
    | nil => exact absurd blanks clause.lead.ne_nil
    | cons c more => exact clause.lead.blank c (by simp [blanks])
  have ends : ((clause.lead.text ++ (clause.names ++ clause.before.text)).getLast?.map isBlank).getD false = true := by
    rw [← List.append_assoc, List.getLast?_append_of_ne_nil _ clause.before.ne_nil,
      List.getLast?_eq_some_getLast clause.before.ne_nil]
    exact clause.before.blank _ (List.getLast_mem clause.before.ne_nil)
  have whole := isClause_append clause.after (by simp only [List.length_append]; omega) starts ends
  simpa only [Clause.text, List.append_assoc] using whole

theorem Clause.allowed_text (clause : Clause) : ∀ c ∈ clause.text, isClauseCharacter c = true := by
  have word : ∀ c ∈ "from".toList, isClauseCharacter c = true := List.all_eq_true.mp rfl
  intro c member
  simp only [Clause.text, List.mem_append] at member
  rcases member with lead | name | before | letter | after
  · exact clause.lead.allowed c lead
  · exact clause.allowed c name
  · exact clause.before.allowed c before
  · exact word c letter
  · exact clause.after.allowed c after

theorem Gap.not_mem {least : Nat} (gap : Gap least) {c : Char} (other : isBlank c = false) : c ∉ gap.text := fun member =>
  absurd (gap.blank c member) (by simp [other])

theorem Clause.not_mem (clause : Clause) {c : Char} (other : isClauseCharacter c = false) : c ∉ clause.text :=
  fun member => absurd (clause.allowed_text c member) (by simp [other])

theorem readStatic_import {run : List Char} (source : Source) (rest : List Char)
    (allowed : ∀ c ∈ run, isClauseCharacter c = true) (accepted : (blanksOnly run || isClause run) = true) :
    readStatic ("import".toList ++ (run ++ (source.text ++ rest))) = some (source.specifier, rest) := by
  simp only [readStatic, after?_append]
  exact @afterClause_append (fun run => blanksOnly run || isClause run) run source rest allowed accepted

theorem readStatic_export {run : List Char} (source : Source) (rest : List Char)
    (allowed : ∀ c ∈ run, isClauseCharacter c = true) (accepted : isClause run = true) :
    readStatic ("export".toList ++ (run ++ (source.text ++ rest))) = some (source.specifier, rest) := by
  have other : after? "import".toList ("export".toList ++ (run ++ (source.text ++ rest))) = none := rfl
  simp only [readStatic, other, after?_append]
  exact afterClause_append source rest allowed accepted

theorem readStatic_require (outer inner : Gap 0) (source : Source) (rest : List Char) :
    readStatic ("require".toList ++ (outer.text ++ '(' :: (inner.text ++ (source.text ++ rest)))) =
      some (source.specifier, rest) := by
  have imports (more : List Char) : after? "import".toList ("require".toList ++ more) = none := rfl
  have exports (more : List Char) : after? "export".toList ("require".toList ++ more) = none := rfl
  simp only [readStatic, imports, exports, after?_append]
  exact call_append outer inner source rest

/-- An import that comes to something else than a quote is not a static one. -/
theorem readStatic_import_none {run : List Char} {c : Char} (rest : List Char)
    (allowed : ∀ d ∈ run, isClauseCharacter d = true) (stop : isClauseCharacter c = false) (other : isQuote c = false) :
    readStatic ("import".toList ++ (run ++ c :: rest)) = none := by
  simp only [readStatic, after?_append]
  rw [afterClause, List.dropWhile_append_of_pos allowed, List.dropWhile_cons_of_neg (by simp [stop])]
  simp [quoted, other]

theorem readStatic_import_call (outer : Gap 0) (rest : List Char) :
    readStatic ("import".toList ++ (outer.text ++ '(' :: rest)) = none :=
  readStatic_import_none rest outer.allowed rfl rfl

theorem readStatic_import_url (lead : Gap 1) (rest : List Char) :
    readStatic ("import".toList ++ (lead.text ++ ("url(".toList ++ rest))) = none := by
  have word : ∀ c ∈ "url".toList, isClauseCharacter c = true := List.all_eq_true.mp rfl
  have allowed : ∀ c ∈ lead.text ++ "url".toList, isClauseCharacter c = true := fun c member =>
    (List.mem_append.mp member).elim (lead.allowed c) (word c)
  have split : "url(".toList ++ rest = "url".toList ++ '(' :: rest := rfl
  rw [split, ← List.append_assoc lead.text]
  exact readStatic_import_none rest allowed rfl rfl

theorem readDynamic_import (outer inner last : Gap 0) (source : Source) (rest : List Char) :
    readDynamic ("import".toList ++
        (outer.text ++ '(' :: (inner.text ++ (source.text ++ (last.text ++ (")".toList ++ rest)))))) =
      some (source.specifier, rest) := by
  have closes : skipBlanks (last.text ++ (")".toList ++ rest)) = ")".toList ++ rest := skipBlanks_append last.blank rfl
  have behind : after? [')'] (")".toList ++ rest) = some rest := after?_append [')'] rest
  simp only [readDynamic, after?_append, call_append, closes, behind, Option.bind_eq_bind, Option.bind_some,
    Option.pure_def]

theorem readDynamic_import_url (lead : Gap 1) (rest : List Char) :
    readDynamic ("import".toList ++ (lead.text ++ ("url(".toList ++ rest))) = none := by
  have stays : skipBlanks (lead.text ++ ("url(".toList ++ rest)) = "url(".toList ++ rest :=
    skipBlanks_append lead.blank rfl
  have other : after? ['('] ("url(".toList ++ rest) = none := rfl
  simp only [readDynamic, after?_append, call, stays, other, Option.bind_eq_bind, Option.bind_some, Option.bind_none]

theorem readStylesheet_plain (lead : Gap 1) (source : Source) (rest : List Char) :
    readStylesheet ("@import".toList ++ (lead.text ++ (source.text ++ rest))) = some (source.specifier, rest) := by
  have blanks : afterBlanks? (lead.text ++ (source.text ++ rest)) = some (source.text ++ rest) :=
    afterBlanks?_append lead.ne_nil lead.blank (isBlank_of_isQuote source.marks)
  have other : after? "url(".toList (source.text ++ rest) = none := by
    cases found : after? "url(".toList (source.text ++ rest) with
    | none => rfl
    | some more =>
      have mark : source.mark = 'u' := (List.cons.inj (eq_append_of_after? found)).1
      exact absurd source.marks (by rw [mark]; decide)
  simp only [readStylesheet, after?_append, blanks, other, Option.bind_eq_bind, Option.bind_some, Option.map_none,
    Option.getD_none, source.quoted_text]

theorem readStylesheet_url (lead : Gap 1) (inner : Gap 0) (source : Source) (rest : List Char) :
    readStylesheet ("@import".toList ++ (lead.text ++ ("url(".toList ++ (inner.text ++ (source.text ++ rest))))) =
      some (source.specifier, rest) := by
  have blanks : afterBlanks? (lead.text ++ ("url(".toList ++ (inner.text ++ (source.text ++ rest)))) =
      some ("url(".toList ++ (inner.text ++ (source.text ++ rest))) :=
    afterBlanks?_append lead.ne_nil lead.blank rfl
  simp only [readStylesheet, after?_append, blanks, Option.bind_eq_bind, Option.bind_some, Option.map_some,
    Option.getD_some, source.skipBlanks_text inner.blank, source.quoted_text]

end Surveyor.Imports
