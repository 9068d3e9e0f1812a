import Mathlib.Data.List.Infix
import Surveyor.Proofs.Imports.Statement
import Surveyor.Proofs.Sequence

/-! What is read out of a program that is a sequence of import statements. Readers look for their statements everywhere
in the text, so each statement is followed through each reader: what the reader takes from it, and that nothing else in
it starts a statement, whatever text comes behind. -/

namespace Surveyor.Imports

open Text

/-! ## Where statements can start -/

def keywords : List (List Char) := ["import".toList, "export".toList, "require".toList, "@import".toList]

def endsKeyword (c : Char) : Bool := isBlank c || c == '('

/-- A reader that reads only behind some of the keywords, and only where the keyword is ended. -/
structure Keyed (words : List (List Char)) (read : Reader (List Char)) : Prop where
  known : words ⊆ keywords
  ended : ∀ text found, read text = some found → ∃ word ∈ words, ∃ rest, text = word ++ rest ∧ Begins endsKeyword rest

theorem begins_of_blank {text : List Char} (begins : Begins isBlank text) : Begins endsKeyword text :=
  begins.imp fun c blank => by simp [endsKeyword, blank]

theorem begins_of_blanksOnly {run : List Char} (blanks : blanksOnly run = true) : Begins isBlank run := by
  cases run with
  | nil => exact absurd blanks (by decide)
  | cons c more =>
    simp only [blanksOnly, List.all_cons, Bool.and_eq_true] at blanks
    exact ⟨c, more, rfl, blanks.2.1⟩

theorem begins_of_isClause {run : List Char} (clause : isClause run = true) : Begins isBlank run := by
  simp only [isClause, Bool.and_eq_true] at clause
  obtain ⟨⟨-, starts⟩, -⟩ := clause
  have lead : (dropTrailing isBlank run).take ((dropTrailing isBlank run).length - 4) <+: run :=
    (List.take_prefix _ _).trans (prefix_dropTrailing isBlank run)
  generalize (dropTrailing isBlank run).take ((dropTrailing isBlank run).length - 4) = names at starts lead
  cases names with
  | nil => cases starts
  | cons c names =>
    obtain ⟨more, rfl⟩ := lead
    exact ⟨c, names ++ more, rfl, starts⟩

theorem begins_of_afterClause {accepts : List Char → Bool} {text : List Char} {found : List Char × List Char}
    (blank : ∀ run, accepts run = true → Begins isBlank run) (read : afterClause accepts text = some found) :
    Begins isBlank text := by
  cases accepted : accepts (text.takeWhile isClauseCharacter) with
  | false => simp [afterClause, accepted] at read
  | true =>
    rw [← @List.takeWhile_append_dropWhile _ isClauseCharacter text]
    exact (blank _ accepted).append _

theorem exists_call {text : List Char} {found : List Char × List Char} (called : call text = some found) :
    ∃ gap more, (∀ c ∈ gap, isBlank c = true) ∧ text = gap ++ '(' :: more := by
  obtain ⟨gap, blank, shape⟩ := exists_skipBlanks text
  obtain ⟨more, opened, -⟩ := Option.bind_eq_some_iff.mp called
  exact ⟨gap, more, blank, by rw [eq_append_of_after? opened] at shape; exact shape⟩

theorem begins_of_call {text : List Char} {found : List Char × List Char} (called : call text = some found) :
    Begins endsKeyword text := by
  obtain ⟨gap, more, blank, rfl⟩ := exists_call called
  cases gap with
  | nil => exact ⟨'(', more, rfl, rfl⟩
  | cons c gap => exact begins_of_blank ⟨c, gap ++ '(' :: more, rfl, blank c List.mem_cons_self⟩

theorem keyed_readStatic : Keyed ["import".toList, "export".toList, "require".toList] readStatic := by
  refine ⟨by decide, fun text found read => ?_⟩
  unfold readStatic at read
  split at read
  next rest opened =>
    refine ⟨_, by simp, rest, eq_append_of_after? opened, begins_of_blank (begins_of_afterClause ?_ read)⟩
    intro run accepted
    rcases (Bool.or_eq_true _ _).mp accepted with blanks | clause
    · exact begins_of_blanksOnly blanks
    · exact begins_of_isClause clause
  next rest opened _ =>
    exact ⟨_, by simp, rest, eq_append_of_after? opened,
      begins_of_blank (begins_of_afterClause (fun _ => begins_of_isClause) read)⟩
  next rest opened _ _ =>
    exact ⟨_, by simp, rest, eq_append_of_after? opened, begins_of_call read⟩
  next => cases read

theorem exists_readDynamic {text : List Char} {found : List Char × List Char} (read : readDynamic text = some found) :
    ∃ rest called, text = "import".toList ++ rest ∧ call rest = some called := by
  obtain ⟨rest, opened, calls⟩ := Option.bind_eq_some_iff.mp read
  obtain ⟨called, calls, -⟩ := Option.bind_eq_some_iff.mp calls
  exact ⟨rest, called, eq_append_of_after? opened, calls⟩

theorem keyed_readDynamic : Keyed ["import".toList] readDynamic := by
  refine ⟨by decide, fun text found read => ?_⟩
  obtain ⟨rest, called, rfl, calls⟩ := exists_readDynamic read
  exact ⟨_, by simp, rest, rfl, begins_of_call calls⟩

theorem keyed_readStylesheet : Keyed ["@import".toList] readStylesheet := by
  refine ⟨by decide, fun text found read => ?_⟩
  obtain ⟨rest, opened, later⟩ := Option.bind_eq_some_iff.mp read
  obtain ⟨start, blanks, -⟩ := Option.bind_eq_some_iff.mp later
  exact ⟨_, by simp, rest, eq_append_of_after? opened, begins_of_blank (begins_of_afterBlanks? blanks)⟩

/-! ## Parts that no statement starts in -/

def isFiller (c : Char) : Bool := isBlank c || c == '(' || c == ')' || c == ';'

theorem isFiller_of_keyword {word : List Char} (keyword : word ∈ keywords) : ∀ c ∈ word.head?, isFiller c = false := by
  simp only [keywords, List.mem_cons, List.not_mem_nil, or_false] at keyword
  rcases keyword with rfl | rfl | rfl | rfl <;> rintro c ⟨⟩ <;> rfl

theorem isQuote_of_mem_keyword {word : List Char} (keyword : word ∈ keywords) {c : Char} (letter : c ∈ word) :
    isQuote c = false := by
  have each : ∀ word ∈ keywords, word.all (!isQuote ·) = true := by decide
  simpa using List.all_eq_true.mp (each word keyword) c letter

theorem Source.text_append (source : Source) (rest : List Char) :
    source.text ++ rest = (source.mark :: source.specifier) ++ source.mark :: rest := by simp [Source.text]

theorem Source.endsKeyword_opening (source : Source) : ∀ c ∈ source.mark :: source.specifier, endsKeyword c = false := by
  intro c member
  rcases List.mem_cons.mp member with rfl | letter
  · rcases isQuote_cases source.marks with same | same <;> rw [same] <;> rfl
  · have allowed := source.allowed c letter
    have other : c ≠ '(' := by
      rintro rfl
      exact absurd allowed (by decide)
    simp [endsKeyword, isBlank_of_isSpecifierCharacter allowed, other]

/-- A part that ends with a certain character is passed over if nothing that starts in it reaches beyond that. -/
theorem collect_until {read : Reader (List Char)} {part rest : List Char} {mark : Char}
    (silent : ∀ piece, piece <:+ part → read (piece ++ mark :: rest) = none) :
    collect read (part ++ mark :: rest) = collect read rest := by
  have whole : part ++ mark :: rest = (part ++ [mark]) ++ rest := by simp
  rw [whole]
  apply collect_silent
  intro tail suffix filled
  obtain ⟨piece, rfl, inside⟩ := (List.suffix_concat_iff.mp suffix).resolve_left filled
  simpa using silent piece inside

theorem isFiller_append {first second : List Char} (one : ∀ c ∈ first, isFiller c = true)
    (two : ∀ c ∈ second, isFiller c = true) : ∀ c ∈ first ++ second, isFiller c = true := by
  intro c member
  exact (List.mem_append.mp member).elim (one c) (two c)

theorem Gap.filler {least : Nat} (gap : Gap least) : ∀ c ∈ gap.text, isFiller c = true :=
  fun c member => by simp [isFiller, gap.blank c member]

theorem Form.filler_closing (form : Form) : ∀ c ∈ form.closing, isFiller c = true := by
  have ends : ∀ c ∈ ";\n".toList, isFiller c = true := List.all_eq_true.mp rfl
  have call (last : Gap 0) : ∀ c ∈ (last.text ++ ")".toList) ++ ";\n".toList, isFiller c = true :=
    isFiller_append (isFiller_append last.filler (List.all_eq_true.mp rfl)) ends
  cases form with
  | required _ _ last => exact call last
  | dynamic _ _ last => exact call last
  | styleUrl _ _ last => exact call last
  | imports | exports | bare | style => exact ends

theorem atSign_import : "@import".toList = "@".toList ++ "import".toList := by decide

theorem import_letters : "import".toList = 'i' :: "mport".toList := by decide

section

variable {words : List (List Char)} {read : Reader (List Char)} (keyed : Keyed words read)

include keyed

theorem Keyed.missed {text : List Char}
    (apart : ∀ word ∈ words, ∀ rest, Begins endsKeyword rest → text ≠ word ++ rest) : read text = none := by
  cases reads : read text with
  | none => rfl
  | some found =>
    obtain ⟨word, member, rest, same, begins⟩ := keyed.ended text found reads
    exact absurd same (apart word member rest begins)

theorem Keyed.collect_filler {part : List Char} (rest : List Char) (filler : ∀ c ∈ part, isFiller c = true) :
    collect read (part ++ rest) = collect read rest := by
  apply collect_silent
  intro tail suffix filled
  apply keyed.missed
  intro word member behind _ same
  have keyword := keyed.known member
  cases tail with
  | nil => exact filled rfl
  | cons c tail =>
    cases word with
    | nil => exact absurd keyword (by decide)
    | cons d word =>
      obtain rfl := (List.cons.inj same).1
      have letter := isFiller_of_keyword keyword c rfl
      exact absurd (filler c (suffix.mem List.mem_cons_self)) (by simp [letter])

/-- Letters that no keyword starts with are passed over. -/
theorem Keyed.collect_letters {part : List Char} (rest : List Char)
    (apart : ∀ tail ∈ part.tails, tail ≠ [] → ∀ word ∈ words, ¬ tail <+: word ∧ ¬ word <+: tail) :
    collect read (part ++ rest) = collect read rest := by
  apply collect_silent
  intro tail suffix filled
  apply keyed.missed
  intro word member behind _ same
  obtain ⟨longer, shorter⟩ := apart tail ((List.mem_tails _ _).mpr suffix) filled word member
  rcases List.prefix_or_prefix_of_prefix (List.prefix_append tail rest) (same ▸ List.prefix_append word behind) with
    inside | inside
  · exact longer inside
  · exact shorter inside

/-- Nothing starts in a quoted specifier: what ends a keyword is neither in it nor a quote. -/
theorem Keyed.collect_source (source : Source) (rest : List Char) :
    collect read (source.text ++ rest) = collect read rest := by
  rw [source.text_append]
  apply collect_until
  intro piece inside
  apply keyed.missed
  rintro word member _ ⟨c, more, rfl, ends⟩ same
  have outside : source.mark ∉ word := fun letter =>
    absurd source.marks (by simp [isQuote_of_mem_keyword (keyed.known member) letter])
  have apart : c ∉ piece := fun occurs =>
    absurd ends (by simp [source.endsKeyword_opening c (inside.mem occurs)])
  obtain rfl := (eq_of_append_cons same outside apart).2.1
  exact absurd ends (by simp [source.endsKeyword_opening _ List.mem_cons_self])

theorem Keyed.collect_closing (source : Source) {closing : List Char} (rest : List Char)
    (filler : ∀ c ∈ closing, isFiller c = true) : collect read (source.text ++ (closing ++ rest)) = collect read rest := by
  rw [keyed.collect_source, keyed.collect_filler rest filler]

theorem Keyed.collect_taken {lead closing : List Char} (eaten : List Char) (source : Source) (rest : List Char)
    (filler : ∀ c ∈ closing, isFiller c = true)
    (hit : read (lead ++ (source.text ++ (eaten ++ (closing ++ rest)))) = some (source.specifier, closing ++ rest)) :
    collect read (lead ++ (source.text ++ (eaten ++ (closing ++ rest)))) = source.specifier :: collect read rest := by
  have filled : lead ++ (source.text ++ eaten) ≠ [] := by simp [Source.text]
  have split : lead ++ (source.text ++ (eaten ++ (closing ++ rest))) =
      (lead ++ (source.text ++ eaten)) ++ (closing ++ rest) := by simp only [List.append_assoc]
  rw [split] at hit ⊢
  rw [collect_found filled hit, keyed.collect_filler rest filler]

theorem Keyed.collect_import {rest : List Char} (missed : read ("import".toList ++ rest) = none) :
    collect read ("import".toList ++ rest) = collect read rest := by
  have apart : ∀ tail ∈ "mport".toList.tails, tail ≠ [] → ∀ word ∈ keywords, ¬ tail <+: word ∧ ¬ word <+: tail := by
    decide
  rw [import_letters, List.cons_append] at missed ⊢
  rw [collect_missed missed]
  exact keyed.collect_letters rest fun tail member filled word known => apart tail member filled word (keyed.known known)

theorem Keyed.collect_parenthesis (outer inner : Gap 0) (rest : List Char) :
    collect read (outer.text ++ '(' :: (inner.text ++ rest)) = collect read rest := by
  have filler : ∀ c ∈ outer.text ++ '(' :: inner.text, isFiller c = true :=
    isFiller_append outer.filler (List.forall_mem_cons.mpr ⟨rfl, inner.filler⟩)
  simpa only [List.append_assoc, List.cons_append] using keyed.collect_filler rest filler

theorem Keyed.collect_url (lead : Gap 1) (inner : Gap 0) (rest : List Char) :
    collect read (lead.text ++ ("url(".toList ++ (inner.text ++ rest))) = collect read rest := by
  have apart : ∀ tail ∈ "url(".toList.tails, tail ≠ [] → ∀ word ∈ keywords, ¬ tail <+: word ∧ ¬ word <+: tail := by
    decide
  rw [keyed.collect_filler _ lead.filler, keyed.collect_letters _ fun tail member filled word known =>
    apart tail member filled word (keyed.known known), keyed.collect_filler rest inner.filler]

end

/-! ## What each reader takes from a statement -/

/-- Nothing dynamic starts in front of a specifier without a parenthesis before it. -/
theorem collect_readDynamic_closed {lead : List Char} (source : Source) (rest : List Char) (closed : '(' ∉ lead) :
    collect readDynamic (lead ++ (source.text ++ rest)) = collect readDynamic rest := by
  rw [source.text_append, ← List.append_assoc]
  apply collect_until
  intro piece inside
  cases reads : readDynamic (piece ++ source.mark :: rest) with
  | none => rfl
  | some found =>
    -- Between the keyword and its parenthesis stand only blanks, so the quote cannot be passed on the way.
    obtain ⟨behind, called, same, calls⟩ := exists_readDynamic reads
    obtain ⟨gap, more, blank, rfl⟩ := exists_call calls
    rw [← List.append_assoc] at same
    have outside : source.mark ∉ "import".toList ++ gap := by
      intro occurs
      rcases List.mem_append.mp occurs with letter | space
      · exact absurd source.marks (by simp [isQuote_of_mem_keyword (by decide) letter])
      · exact absurd (blank source.mark space) (by simp [isBlank_of_isQuote source.marks])
    have apart : '(' ∉ piece := by
      intro occurs
      rcases List.mem_append.mp (inside.mem occurs) with early | late
      · exact closed early
      · exact absurd (source.endsKeyword_opening '(' late) (by decide)
    have mark := (eq_of_append_cons same outside apart).2.1
    exact absurd source.marks (by rw [mark]; decide)

theorem collect_readStylesheet_other {part : List Char} (rest : List Char) (absent : '@' ∉ part) :
    collect readStylesheet (part ++ rest) = collect readStylesheet rest := by
  apply collect_silent
  intro tail suffix filled
  apply keyed_readStylesheet.missed
  intro word member behind _ same
  obtain rfl := List.mem_singleton.mp member
  cases tail with
  | nil => exact filled rfl
  | cons c tail =>
    obtain rfl := (List.cons.inj same).1
    exact absent (suffix.mem List.mem_cons_self)

variable (source : Source) (rest : List Char)

theorem collect_readStatic_taken {form : Form} (direct : form.isDirect = true) :
    collect readStatic (form.head ++ (source.text ++ (form.closing ++ rest))) =
      source.specifier :: collect readStatic rest := by
  have filler := form.filler_closing
  generalize form.closing = closing at filler ⊢
  cases form with
  | imports clause =>
    apply keyed_readStatic.collect_taken [] source rest filler
    simp only [Form.head, Form.keyword, Form.middle, List.append_assoc]
    exact readStatic_import source _ clause.allowed_text (by simp [clause.isClause_text])
  | exports clause =>
    apply keyed_readStatic.collect_taken [] source rest filler
    simp only [Form.head, Form.keyword, Form.middle, List.append_assoc]
    exact readStatic_export source _ clause.allowed_text clause.isClause_text
  | bare lead =>
    apply keyed_readStatic.collect_taken [] source rest filler
    simp only [Form.head, Form.keyword, Form.middle, List.append_assoc]
    exact readStatic_import source _ lead.allowed (by simp [lead.blanksOnly])
  | required outer inner last =>
    apply keyed_readStatic.collect_taken [] source rest filler
    simp only [Form.head, Form.keyword, Form.middle, List.append_assoc, List.cons_append]
    exact readStatic_require outer inner source _
  | style lead =>
    -- This reader finds the statement behind its first character, as a bare import.
    have word : "@import".toList ++ lead.text = "@".toList ++ ("import".toList ++ lead.text) := by
      rw [atSign_import, List.append_assoc]
    simp only [Form.head, Form.keyword, Form.middle]
    rw [word, List.append_assoc, keyed_readStatic.collect_letters _ (by decide)]
    apply keyed_readStatic.collect_taken [] source rest filler
    rw [List.append_assoc]
    exact readStatic_import source _ lead.allowed (by simp [lead.blanksOnly])
  | dynamic | styleUrl => cases direct

theorem collect_readStatic_left {form : Form} (other : form.isDirect = false) :
    collect readStatic (form.head ++ (source.text ++ (form.closing ++ rest))) = collect readStatic rest := by
  have filler := form.filler_closing
  generalize form.closing = closing at filler ⊢
  cases form with
  | dynamic outer inner last =>
    simp only [Form.head, Form.keyword, Form.middle, List.append_assoc, List.cons_append]
    rw [keyed_readStatic.collect_import (readStatic_import_call outer _), keyed_readStatic.collect_parenthesis,
      keyed_readStatic.collect_closing source rest filler]
  | styleUrl lead inner last =>
    simp only [Form.head, Form.keyword, Form.middle, atSign_import, List.append_assoc]
    rw [keyed_readStatic.collect_letters _ (by decide), keyed_readStatic.collect_import (readStatic_import_url lead _),
      keyed_readStatic.collect_url, keyed_readStatic.collect_closing source rest filler]
  | imports | exports | bare | required | style => cases other

theorem collect_readDynamic_taken {form : Form} (dynamic : form.isDynamic = true) :
    collect readDynamic (form.head ++ (source.text ++ (form.closing ++ rest))) =
      source.specifier :: collect readDynamic rest := by
  cases form with
  | dynamic outer inner last =>
    have ends : ∀ c ∈ ";\n".toList, isFiller c = true := List.all_eq_true.mp rfl
    have taken := @Keyed.collect_taken _ _ keyed_readDynamic ("import".toList ++ (outer.text ++ '(' :: inner.text)) _
      (last.text ++ ")".toList) source rest ends
    simp only [List.append_assoc, List.cons_append] at taken
    simp only [Form.head, Form.keyword, Form.middle, Form.closing, Form.tail, List.append_assoc, List.cons_append]
    exact taken (readDynamic_import outer inner last source _)
  | imports | exports | bare | required | style | styleUrl => cases dynamic

theorem collect_readDynamic_left {form : Form} (other : form.isDynamic = false) :
    collect readDynamic (form.head ++ (source.text ++ (form.closing ++ rest))) = collect readDynamic rest := by
  have filler := form.filler_closing
  generalize form.closing = closing at filler ⊢
  have skipped (closed : '(' ∉ form.head) :
      collect readDynamic (form.head ++ (source.text ++ (closing ++ rest))) = collect readDynamic rest := by
    rw [collect_readDynamic_closed source _ closed, keyed_readDynamic.collect_filler rest filler]
  cases form with
  | imports clause | exports clause =>
    have closed : '(' ∉ clause.text := clause.not_mem rfl
    exact skipped (by simp [Form.head, Form.keyword, Form.middle, closed])
  | bare lead | style lead =>
    have closed : '(' ∉ lead.text := lead.not_mem rfl
    exact skipped (by simp [Form.head, Form.keyword, Form.middle, closed])
  | required outer inner last =>
    simp only [Form.head, Form.keyword, Form.middle, List.append_assoc, List.cons_append]
    rw [keyed_readDynamic.collect_letters _ (by decide), keyed_readDynamic.collect_parenthesis,
      keyed_readDynamic.collect_closing source rest filler]
  | styleUrl lead inner last =>
    simp only [Form.head, Form.keyword, Form.middle, atSign_import, List.append_assoc]
    rw [keyed_readDynamic.collect_letters _ (by decide), keyed_readDynamic.collect_import (readDynamic_import_url lead _),
      keyed_readDynamic.collect_url, keyed_readDynamic.collect_closing source rest filler]
  | dynamic => cases other

theorem collect_readStylesheet_taken {form : Form} (styled : form.isStyle = true) :
    collect readStylesheet (form.head ++ (source.text ++ (form.closing ++ rest))) =
      source.specifier :: collect readStylesheet rest := by
  have filler := form.filler_closing
  generalize form.closing = closing at filler ⊢
  cases form with
  | style lead =>
    apply keyed_readStylesheet.collect_taken [] source rest filler
    simp only [Form.head, Form.keyword, Form.middle, List.append_assoc]
    exact readStylesheet_plain lead source _
  | styleUrl lead inner last =>
    apply keyed_readStylesheet.collect_taken [] source rest filler
    simp only [Form.head, Form.keyword, Form.middle, List.append_assoc]
    exact readStylesheet_url lead inner source _
  | imports | exports | bare | required | dynamic => cases styled

theorem collect_readStylesheet_left {form : Form} (other : form.isStyle = false) :
    collect readStylesheet (form.head ++ (source.text ++ (form.closing ++ rest))) = collect readStylesheet rest := by
  have skipped (absent : '@' ∉ form.head) :
      collect readStylesheet (form.head ++ (source.text ++ (form.closing ++ rest))) = collect readStylesheet rest := by
    rw [collect_readStylesheet_other _ absent, keyed_readStylesheet.collect_closing source rest form.filler_closing]
  cases form with
  | imports clause | exports clause =>
    have absent : '@' ∉ clause.text := clause.not_mem rfl
    exact skipped (by simp [Form.head, Form.keyword, Form.middle, absent])
  | bare lead =>
    have absent : '@' ∉ lead.text := lead.not_mem rfl
    exact skipped (by simp [Form.head, Form.keyword, Form.middle, absent])
  | required outer inner last | dynamic outer inner last =>
    have before : '@' ∉ outer.text := outer.not_mem rfl
    have behind : '@' ∉ inner.text := inner.not_mem rfl
    exact skipped (by simp [Form.head, Form.keyword, Form.middle, before, behind])
  | style | styleUrl => cases other

/-! ## What is read out of a program -/

theorem collect_program {read : Reader (List Char)} {keeps : Form → Bool}
    (taken : ∀ (source : Source) (rest : List Char) (form : Form), keeps form = true →
      collect read (form.head ++ (source.text ++ (form.closing ++ rest))) = source.specifier :: collect read rest)
    (left : ∀ (source : Source) (rest : List Char) (form : Form), keeps form = false →
      collect read (form.head ++ (source.text ++ (form.closing ++ rest))) = collect read rest)
    (program : List Statement) :
    collect read (program.flatMap Statement.text) = (program.filter (keeps ·.form)).map (·.source.specifier) := by
  induction program with
  | nil => rfl
  | cons statement program ih =>
    rw [List.flatMap_cons, Statement.text, List.append_assoc, List.append_assoc]
    cases kept : keeps statement.form with
    | true => rw [taken _ _ _ kept, ih, List.filter_cons, if_pos kept, List.map_cons]
    | false => rw [left _ _ _ kept, ih, List.filter_cons, if_neg (by simp [kept])]

/-- Trimming changes no specifier, and none is empty. -/
theorem trimmed_specifiers (program : List Statement) :
    (((program.map (·.source.specifier)).map trimChars).filter (· != [])).map String.ofList =
      program.map Statement.specifier := by
  have trims (statement : Statement) : trimChars statement.source.specifier = statement.source.specifier :=
    trimChars_solid fun c member => isBlank_of_isSpecifierCharacter (statement.source.allowed c member)
  have same : (program.map (·.source.specifier)).map trimChars = program.map (·.source.specifier) := by
    simp only [List.map_map, Function.comp_def, trims]
  have filled : (program.map (·.source.specifier)).filter (· != []) = program.map (·.source.specifier) := by
    apply List.filter_eq_self.mpr
    intro specifier member
    obtain ⟨statement, -, rfl⟩ := List.mem_map.mp member
    simpa using statement.source.filled
  rw [same, filled, List.map_map]
  rfl

/-- Each reader takes its own statements in their order. A stylesheet import without `url` is read twice, which the
removal of later occurrences undoes. -/
theorem specifiers_written (program : List Statement) :
    specifiers (written program) =
      ((program.filter (·.form.isDirect)).map Statement.specifier ++
        (program.filter (·.form.isDynamic)).map Statement.specifier ++
        (program.filter (·.form.isUrl)).map Statement.specifier).eraseDups := by
  have direct := collect_program (fun source rest _ => collect_readStatic_taken source rest)
    (fun source rest _ => collect_readStatic_left source rest) program
  have dynamic := collect_program (fun source rest _ => collect_readDynamic_taken source rest)
    (fun source rest _ => collect_readDynamic_left source rest) program
  have style := collect_program (fun source rest _ => collect_readStylesheet_taken source rest)
    (fun source rest _ => collect_readStylesheet_left source rest) program
  have found : [readStatic, readDynamic, readStylesheet].flatMap (collect · (program.flatMap Statement.text)) =
      (program.filter (·.form.isDirect) ++ program.filter (·.form.isDynamic) ++
        program.filter (·.form.isStyle)).map (·.source.specifier) := by
    simp only [List.flatMap_cons, List.flatMap_nil, List.append_nil, direct, dynamic, style, List.map_append,
      List.append_assoc]
  rw [specifiers, written, String.toList_ofList, found, trimmed_specifiers, List.map_append, List.map_append]
  apply Sequence.eraseDups_append_filter
  · intro statement url
    cases shape : statement.form <;> simp_all [Form.isUrl, Form.isStyle]
  · intro statement member styled plain
    apply List.mem_append_left
    refine List.mem_map_of_mem (List.mem_filter.mpr ⟨member, ?_⟩)
    cases shape : statement.form <;> simp_all [Form.isUrl, Form.isStyle, Form.isDirect]

example : specifiers "@import url('a');\nimport('b');\nimport c from 'c';\n" = ["c", "b", "a"] := by decide +kernel

end Surveyor.Imports
