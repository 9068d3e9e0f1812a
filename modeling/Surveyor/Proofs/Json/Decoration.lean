import Surveyor.Proofs.Json.Lexeme

/-! JSON with comments and trailing commas, as pieces in their order. Stripping such a text takes its comments away and
each comma that only blanks keep apart from the end of its collection; all else stays as it is written. -/

namespace Surveyor.Json

inductive Piece where
  | token (lexeme : Lexeme)
  | space (c : Char)
  | line (comment : List Char)
  | block (comment : List Char)
  /-- A comma behind the last entry of a collection. -/
  | trailingComma

namespace Piece

def text : Piece → List Char
  | .token lexeme => lexeme.text
  | .space c => [c]
  | .line comment => '/' :: '/' :: comment
  | .block comment => '/' :: '*' :: comment ++ ['*', '/']
  | .trailingComma => [',']

def lexeme? : Piece → Option Lexeme
  | .token lexeme => some lexeme
  | _ => none

/-- Whether a piece may stand in JSON. -/
def isPlain : Piece → Bool
  | .token _ | .space _ => true
  | _ => false

end Piece

def written (pieces : List Piece) : List Char := pieces.flatMap Piece.text

def lexemes (pieces : List Piece) : List Lexeme := pieces.filterMap Piece.lexeme?

/-- Whether nothing but blanks stands before the end of a collection. -/
def closes : List Piece → Bool
  | .token lexeme :: _ => lexeme.token.closes
  | .space _ :: rest => closes rest
  | _ => false

/-- What may stand where: only blanks of JSON, a comment to the end of its line or of the text, a comment that does not
end early, and a further comma only before the end of a collection. -/
inductive Placed : List Piece → Prop where
  | nil : Placed []
  | token {lexeme : Lexeme} {rest : List Piece} (later : Placed rest) : Placed (.token lexeme :: rest)
  | space {c : Char} {rest : List Piece} (blank : isSpace c = true) (later : Placed rest) : Placed (.space c :: rest)
  | line {comment : List Char} {rest : List Piece} (inside : '\n' ∉ comment)
      (ends : rest = [] ∨ ∃ more, rest = .space '\n' :: more) (later : Placed rest) : Placed (.line comment :: rest)
  | block {comment : List Char} {rest : List Piece} (inside : ¬ ['*', '/'] <:+: comment) (later : Placed rest) :
      Placed (.block comment :: rest)
  | trailingComma {rest : List Piece} (ends : ∃ lexeme ∈ (lexemes rest).head?, lexeme.token.closes = true)
      (later : Placed rest) : Placed (.trailingComma :: rest)

/-- The pieces hold the lexemes of a text in their order, with blanks, comments and trailing commas in between. -/
structure Decorates (pieces : List Piece) (base : String) : Prop where
  lexemes : lexemes? base.toList = some (lexemes pieces)
  placed : Placed pieces

/-- No comment stands between a trailing comma and the end of its collection. -/
def Tight (pieces : List Piece) : Prop := ∀ rest, .trailingComma :: rest <:+ pieces → closes rest = true

/-- The pieces that stripping leaves. A comma that it leaves is then a lexeme like any other. -/
def stripped : List Piece → List Piece
  | [] => []
  | .line _ :: rest | .block _ :: rest => stripped rest
  | .trailingComma :: rest =>
    if closes rest then stripped rest
    else .token (.mark ',' .comma rfl) :: stripped rest
  | piece :: rest => piece :: stripped rest

@[simp] theorem written_cons (piece : Piece) (rest : List Piece) : written (piece :: rest) = piece.text ++ written rest :=
  rfl

@[simp] theorem lexemes_token (lexeme : Lexeme) (rest : List Piece) :
    lexemes (.token lexeme :: rest) = lexeme :: lexemes rest := rfl

/-! ## Stripping piece by piece -/

theorem strip_plain {c : Char} (quote : c ≠ '"') (slash : c ≠ '/') (comma : c ≠ ',') (rest : List Char) :
    strip (c :: rest) = c :: strip rest := by
  rw [strip] <;> simp_all

theorem strip_comma (rest : List Char) : strip (',' :: rest) = if closesHere rest then strip rest else ',' :: strip rest := by
  rw [strip]

theorem strip_text {raw rest : List Char} (closed : textToken? (raw ++ rest) = some (raw, rest)) :
    strip ('"' :: raw ++ rest) = '"' :: raw ++ strip rest := by
  rw [List.cons_append, strip]
  split
  next body tail same =>
    rw [closed] at same
    cases same
    rfl
  next none => simp [closed] at none

theorem strip_line (comment rest : List Char) :
    strip ('/' :: '/' :: comment ++ rest) = strip ((comment ++ rest).dropWhile (· != '\n')) := by
  rw [List.cons_append, List.cons_append, strip]

theorem strip_block {comment rest : List Char} (found : afterComment? comment = some rest) :
    strip ('/' :: '*' :: comment) = strip rest := by
  rw [strip]
  split
  next tail same => rw [Option.some.inj (found.symm.trans same)]
  next none => simp [found] at none

theorem afterComment?_append {comment : List Char} (inside : ¬ ['*', '/'] <:+: comment) (rest : List Char) :
    afterComment? (comment ++ '*' :: '/' :: rest) = some rest := by
  induction comment with
  | nil => rfl
  | cons c comment ih =>
    have later : ¬ ['*', '/'] <:+: comment := fun found => inside (List.infix_cons found)
    rw [List.cons_append, afterComment?, ih later]
    intro after star same
    cases comment with
    | nil => cases same
    | cons next comment =>
      obtain rfl := (List.cons.inj same).1
      exact inside ⟨[], comment, by rw [star]; rfl⟩

theorem dropWhile_line {comment : List Char} (inside : '\n' ∉ comment) {rest : List Piece}
    (ends : rest = [] ∨ ∃ more, rest = .space '\n' :: more) :
    (comment ++ written rest).dropWhile (· != '\n') = written rest := by
  have all : ∀ c ∈ comment, (c != '\n') = true := by
    intro c member
    rw [bne_iff_ne]
    rintro rfl
    exact inside member
  rw [List.dropWhile_append_of_pos all]
  rcases ends with rfl | ⟨more, rfl⟩ <;> rfl

theorem closesHere_written {pieces : List Piece} (placed : Placed pieces) :
    closesHere (written pieces) = closes pieces := by
  induction placed with
  | nil => rfl
  | @token lexeme rest _ _ =>
    obtain ⟨c, more, shape, solid, ends⟩ := lexeme.spelled.starts
    simp only [written_cons, Piece.text, shape, List.cons_append, closesHere, closes]
    rw [List.dropWhile_cons_of_neg (by simp [solid])]
    exact ends
  | @space c rest blank _ ih =>
    have skipped : closesHere (c :: written rest) = closesHere (written rest) := by
      simp only [closesHere, List.dropWhile_cons_of_pos (isBlank_of_isSpace blank)]
    exact skipped.trans ih
  | line | block | trailingComma => rfl

theorem strip_scalar {raw : List Char} (all : ∀ c ∈ raw, isScalarCharacter c = true) (rest : List Char) :
    strip (raw ++ rest) = raw ++ strip rest := by
  induction raw with
  | nil => rfl
  | cons c raw ih =>
    obtain ⟨scalar, all⟩ := List.forall_mem_cons.mp all
    have other (mark : Char) (apart : isScalarCharacter mark = false) : c ≠ mark := by
      rintro rfl
      simp [scalar] at apart
    rw [List.cons_append, strip_plain (other '"' rfl) (other '/' rfl) (other ',' rfl), ih all, List.cons_append]

/-- A lexeme stays as it is, and a comma does unless a collection ends behind it. -/
theorem strip_lexeme (lexeme : Lexeme) {rest : List Char} (goesOn : lexeme.token = .comma → closesHere rest = false) :
    strip (lexeme.text ++ rest) = lexeme.text ++ strip rest := by
  have spelled := lexeme.spelled
  generalize lexeme.text = raw at spelled
  generalize lexeme.token = token at spelled goesOn
  cases spelled with
  | @mark c token known =>
    unfold Token.ofMark? at known
    split at known
    case h_6 =>
      cases known
      rw [List.singleton_append, strip_comma, goesOn rfl]
      rfl
    all_goals cases known
    all_goals exact strip_plain (by decide) (by decide) (by decide) rest
  | text closed => exact strip_text (closed rest).2
  | scalar all => exact strip_scalar all rest

theorem closes_head {pieces : List Piece} (ends : closes pieces = true) :
    ∃ lexeme ∈ (lexemes pieces).head?, lexeme.token.closes = true := by
  fun_induction closes pieces with
  | case1 lexeme rest => exact ⟨lexeme, rfl, ends⟩
  | case2 c rest ih => exact ih ends
  | case3 => cases ends

/-- What stripping leaves of a text are the pieces that are no comment and no comma before the end of a collection. -/
theorem strip_written {pieces : List Piece} (placed : Placed pieces) (order : Ordered (lexemes pieces)) :
    strip (written pieces) = written (stripped pieces) := by
  induction placed with
  | nil => rw [written, List.flatMap_nil, strip, stripped, written, List.flatMap_nil]
  | @token lexeme rest later ih =>
    obtain ⟨next, order⟩ := List.isChain_cons.mp order
    -- A comma of the text itself is never one that is taken for a trailing comma.
    have goesOn : lexeme.token = .comma → closesHere (written rest) = false := by
      intro comma
      rw [closesHere_written later]
      by_contra ends
      obtain ⟨closer, head, isEnd⟩ := closes_head (by simpa using ends)
      have refused := next closer head
      simp [comma, Token.mayPrecede, isEnd] at refused
    rw [written_cons, Piece.text, strip_lexeme lexeme goesOn, ih order]
    rfl
  | @space c rest blank later ih =>
    have other (mark : Char) (apart : isSpace mark = false) : c ≠ mark := by
      rintro rfl
      simp [blank] at apart
    rw [written_cons, Piece.text, List.singleton_append,
      strip_plain (other '"' rfl) (other '/' rfl) (other ',' rfl), ih order]
    rfl
  | @line comment rest inside ends later ih =>
    rw [written_cons, Piece.text, strip_line, dropWhile_line inside ends, ih order]
    rfl
  | @block comment rest inside later ih =>
    have found : afterComment? (comment ++ ['*', '/'] ++ written rest) = some (written rest) := by
      rw [List.append_assoc]
      exact afterComment?_append inside (written rest)
    have cut : strip ((Piece.block comment).text ++ written rest) = strip (written rest) := strip_block found
    rw [written_cons, cut, ih order]
    rfl
  | @trailingComma rest ends later ih =>
    rw [written_cons, Piece.text, List.singleton_append, strip_comma, closesHere_written later, ih order, stripped]
    split <;> rfl

/-! ## Whole texts -/

@[simp] theorem tight_nil : Tight [] := fun rest found => by cases List.suffix_nil.mp found

theorem tight_cons {piece : Piece} {rest : List Piece} :
    Tight (piece :: rest) ↔ (piece = .trailingComma → closes rest = true) ∧ Tight rest := by
  constructor
  · intro tight
    refine ⟨?_, fun after found => tight after (found.trans (List.suffix_cons piece rest))⟩
    rintro rfl
    exact tight rest List.suffix_rfl
  · rintro ⟨here, later⟩ after found
    rcases List.suffix_cons_iff.mp found with same | found
    · cases same
      exact here rfl
    · exact later after found

theorem stripped_eq_filter {pieces : List Piece} (tight : Tight pieces) : stripped pieces = pieces.filter Piece.isPlain := by
  induction pieces with
  | nil => rfl
  | cons piece rest ih =>
    obtain ⟨here, tight⟩ := tight_cons.mp tight
    have later := ih tight
    cases piece with
    | token lexeme => exact congrArg (Piece.token lexeme :: ·) later
    | space c => exact congrArg (Piece.space c :: ·) later
    | line | block => exact later
    | trailingComma =>
      rw [stripped, if_pos (here rfl)]
      exact later

theorem exists_written_blanks {blanks : List Char} (all : ∀ c ∈ blanks, isSpace c = true) {pieces : List Piece}
    (placed : Placed pieces) (plain : ∀ piece ∈ pieces, piece.isPlain = true) :
    ∃ whole, written whole = blanks ++ written pieces ∧ lexemes whole = lexemes pieces ∧ Placed whole ∧
      ∀ piece ∈ whole, piece.isPlain = true := by
  induction blanks with
  | nil => exact ⟨pieces, rfl, rfl, placed, plain⟩
  | cons c blanks ih =>
    obtain ⟨space, all⟩ := List.forall_mem_cons.mp all
    obtain ⟨whole, text, same, placed, plain⟩ := ih all
    refine ⟨.space c :: whole, ?_, same, .space space placed, List.forall_mem_cons.mpr ⟨rfl, plain⟩⟩
    rw [written_cons, text]
    rfl

theorem ends_written {pieces : List Piece} (placed : Placed pieces)
    (other : ∀ lexeme ∈ (lexemes pieces).head?, lexeme.token.isScalar = false) : Ends (written pieces) := by
  cases placed with
  | nil => exact fun c head => by cases head
  | @token lexeme rest => exact lexeme.spelled.ends (other lexeme rfl) (written rest)
  | @space c rest blank =>
    rintro c ⟨⟩
    by_contra scalar
    simpa [isBlank_of_scalar (by simpa using scalar)] using isBlank_of_isSpace blank
  | line | block | trailingComma =>
    rintro c ⟨⟩
    rfl

/-- Lexemes are read as they are written where no scalar touches another. -/
theorem lexemes?_written {pieces : List Piece} (placed : Placed pieces) (plain : ∀ piece ∈ pieces, piece.isPlain = true)
    (apart : Apart (lexemes pieces)) : lexemes? (written pieces) = some (lexemes pieces) := by
  induction placed with
  | nil =>
    rw [written, List.flatMap_nil, lexemes?]
    rfl
  | @token lexeme rest later ih =>
    obtain ⟨next, apart⟩ := List.isChain_cons.mp apart
    have stop : lexeme.token.isScalar = true → Ends (written rest) := by
      intro scalar
      refine ends_written later fun after head => ?_
      simpa [Token.mayTouch, scalar] using next after head
    rw [written_cons, Piece.text, lexemes?_lexeme lexeme stop, ih (List.forall_mem_cons.mp plain).2 apart]
    rfl
  | @space c rest blank later ih =>
    rw [written_cons, Piece.text, List.singleton_append, lexemes?_space blank, ih (List.forall_mem_cons.mp plain).2 apart]
    rfl
  | line | block | trailingComma => cases (List.forall_mem_cons.mp plain).1

theorem lexemes?_item (item : Lexeme) :
    lexemes? ('[' :: item.text ++ [']']) = some [.mark '[' .beginArray rfl, item, .mark ']' .endArray rfl] := by
  have placed : Placed [.token (.mark '[' .beginArray rfl), .token item, .token (.mark ']' .endArray rfl)] :=
    .token (.token (.token .nil))
  have last : item.token.mayTouch .endArray = true := by simp [Token.mayTouch, Token.isScalar]
  exact lexemes?_written placed (by simp [Piece.isPlain]) (.cons_cons rfl (.cons_cons last (.singleton _)))

/-- A text is its lexemes with blanks between them. -/
theorem exists_written (text : List Char) :
    ∀ found ∈ lexemes? text, ∃ pieces, written pieces = text ∧ lexemes pieces = found ∧ Placed pieces ∧
      ∀ piece ∈ pieces, piece.isPlain = true := by
  fun_induction lexemes? text with
  | case1 text trimmed =>
    rintro found ⟨⟩
    have all : ∀ c ∈ text, isSpace c = true := List.dropWhile_eq_nil_iff.mp trimmed
    have blank := exists_written_blanks all .nil (by simp)
    rwa [written, List.flatMap_nil, List.append_nil] at blank
  | case2 =>
    rintro found ⟨⟩
  | case3 text c rest trimmed token tail read lexeme ih =>
    intro found cut
    obtain ⟨more, later, rfl⟩ := Option.map_eq_some_iff.mp cut
    obtain ⟨pieces, same, holds, placed, plain⟩ := ih more later
    have blanks : ∀ c ∈ text.takeWhile isSpace, isSpace c = true := fun c => List.mem_takeWhile_imp
    have inside : Placed (.token lexeme :: pieces) := .token placed
    obtain ⟨whole, text, lexemes, rest⟩ := exists_written_blanks blanks inside (List.forall_mem_cons.mpr ⟨rfl, plain⟩)
    refine ⟨whole, ?_, ?_, rest⟩
    · rw [text, written_cons, same, Piece.text, Token.next?_take read, ← trimmed, List.takeWhile_append_dropWhile]
    · rw [lexemes, ← holds]
      rfl

/-- Stripping takes comments and trailing commas away and leaves everything else, so JSON stays as it is. -/
theorem stripComments_decorated {base : String} {value : Json} {pieces : List Piece} (valid : parse? base = some value)
    (decorates : Decorates pieces base) (tight : Tight pieces) :
    stripComments (String.ofList (written pieces)) = String.ofList (written (pieces.filter Piece.isPlain)) ∧
      stripComments base = base := by
  have order := parse?_mayPrecede valid decorates.lexemes
  constructor
  · rw [stripComments, String.toList_ofList, strip_written decorates.placed order, stripped_eq_filter tight]
  · obtain ⟨own, same, found, placed, plain⟩ := exists_written _ _ decorates.lexemes
    have bare : Tight own := by
      intro rest suffix
      cases plain _ (suffix.subset List.mem_cons_self)
    rw [stripComments, ← same, strip_written placed (found ▸ order), stripped_eq_filter bare,
      List.filter_eq_self.mpr plain, same, String.ofList_toList]

theorem stripComments_decorated_item :
    ∃ pieces, String.ofList (written pieces) = "[\"//\", ] // ,]" ∧ Decorates pieces "[\"//\"]" ∧ Tight pieces ∧
      parse? "[\"//\"]" = some (.array [.text "//"]) ∧
      stripComments (String.ofList (written pieces)) = "[\"//\" ] " ∧ stripComments "[\"//\"]" = "[\"//\"]" := by
  let first : Lexeme := .mark '[' .beginArray rfl
  let item : Lexeme := { text := "\"//\"".toList, token := .text "//", read := ⟨[], rfl⟩ }
  let last : Lexeme := .mark ']' .endArray rfl
  let pieces : List Piece :=
    [.token first, .token item, .trailingComma, .space ' ', .token last, .space ' ', .line " ,]".toList]
  have found : lexemes? "[\"//\"]".toList = some [first, item, last] := lexemes?_item item
  have valid : parse? "[\"//\"]" = some (.array [.text "//"]) := parse?_lexemes found
  have comment : Placed [.line " ,]".toList] := .line (by decide) (.inl rfl) .nil
  have ending : Placed (.space ' ' :: .token last :: .space ' ' :: [.line " ,]".toList]) :=
    .space rfl (.token (.space rfl comment))
  have decorates : Decorates pieces "[\"//\"]" := ⟨found, .token (.token (.trailingComma ⟨last, rfl, rfl⟩ ending))⟩
  have tight : Tight pieces := by simp [pieces, tight_cons, last, closes, Lexeme.mark, Token.closes]
  exact ⟨pieces, rfl, decorates, tight, valid, stripComments_decorated valid decorates tight⟩

end Surveyor.Json
