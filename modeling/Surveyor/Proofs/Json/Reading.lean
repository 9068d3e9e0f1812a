import Surveyor.Proofs.Json.Decoration

/-! What is read of a text once it is stripped: the value it had without its comments and trailing commas, save where a
comment keeps such a comma apart from the end of its collection. That comma stays behind, and no value is read at all. -/

namespace Surveyor.Json

/-! ## What stripping leaves -/

theorem stripped_plain (pieces : List Piece) : ∀ piece ∈ stripped pieces, piece.isPlain = true := by
  fun_induction stripped pieces with
  | case1 => simp
  | case2 comment rest ih => exact ih
  | case3 comment rest ih => exact ih
  | case4 rest ends ih => exact ih
  | case5 rest goesOn ih => exact List.forall_mem_cons.mpr ⟨rfl, ih⟩
  | case6 piece rest line block comma ih =>
    refine List.forall_mem_cons.mpr ⟨?_, ih⟩
    cases piece <;> simp_all [Piece.isPlain]

theorem Placed.stripped {pieces : List Piece} (placed : Placed pieces) : Placed (stripped pieces) := by
  induction placed with
  | nil => exact .nil
  | token _ ih => exact .token ih
  | space blank _ ih => exact .space blank ih
  | line _ _ _ ih => exact ih
  | block _ _ ih => exact ih
  | @trailingComma rest _ _ ih =>
    rw [Json.stripped]
    split
    · exact ih
    · exact .token ih

theorem head_stripped (pieces : List Piece) :
    ∀ lexeme ∈ (lexemes (stripped pieces)).head?, lexeme.token = .comma ∨ lexeme ∈ (lexemes pieces).head? := by
  induction pieces with
  | nil => exact fun lexeme head => .inr head
  | cons piece rest ih =>
    cases piece with
    | token lexeme => exact fun other head => .inr head
    | space | line | block => exact ih
    | trailingComma =>
      rw [stripped]
      split
      · exact ih
      · rintro lexeme ⟨⟩
        exact .inl rfl

/-- A comma that stays touches no scalar in a way that would lengthen it. -/
theorem stripped_apart {pieces : List Piece} (apart : Apart (lexemes pieces)) : Apart (lexemes (stripped pieces)) := by
  induction pieces with
  | nil => exact .nil
  | cons piece rest ih =>
    cases piece with
    | token lexeme =>
      obtain ⟨next, apart⟩ := List.isChain_cons.mp apart
      refine List.isChain_cons.mpr ⟨fun other head => ?_, ih apart⟩
      rcases head_stripped rest other head with comma | same
      · simp [comma, Token.mayTouch, Token.isScalar]
      · exact next other same
    | space | line | block => exact ih apart
    | trailingComma =>
      rw [stripped]
      split
      · exact ih apart
      · exact List.isChain_cons.mpr ⟨fun other head => rfl, ih apart⟩

theorem lexemes_filter (pieces : List Piece) : lexemes (pieces.filter Piece.isPlain) = lexemes pieces := by
  rw [lexemes, List.filterMap_filter, lexemes]
  congr 1
  funext piece
  cases piece <;> rfl

theorem lexemes_stripped {pieces : List Piece} (tight : Tight pieces) : lexemes (stripped pieces) = lexemes pieces := by
  rw [stripped_eq_filter tight, lexemes_filter]

/-- The last comma that stays stands right before the end of a collection, where no reader takes it. -/
theorem stripped_refused {pieces : List Piece} (placed : Placed pieces) (loose : ¬ Tight pieces) :
    ¬ Ordered (lexemes (stripped pieces)) := by
  induction placed with
  | nil => exact absurd tight_nil loose
  | token _ ih =>
    intro order
    refine ih (fun tight => loose (tight_cons.mpr ⟨?_, tight⟩)) (List.isChain_cons.mp order).2
    rintro ⟨⟩
  | space _ _ ih | line _ _ _ ih | block _ _ ih =>
    refine ih fun tight => loose (tight_cons.mpr ⟨?_, tight⟩)
    rintro ⟨⟩
  | @trailingComma rest ends _ ih =>
    rw [stripped]
    split
    next here => exact ih fun tight => loose (tight_cons.mpr ⟨fun _ => here, tight⟩)
    next =>
      intro order
      rw [lexemes_token] at order
      obtain ⟨next, order⟩ := List.isChain_cons.mp order
      -- With no such comma further on, what follows this one is the end that it was written before.
      by_cases tight : Tight rest
      · obtain ⟨closer, head, isEnd⟩ := ends
        have refused := next closer (by rwa [lexemes_stripped tight])
        simp [Lexeme.mark, Token.mayPrecede, isEnd] at refused
      · exact ih tight order

/-! ## What is read -/

/-- The lexemes of a stripped text are those that stripping leaves. -/
theorem lexemes?_stripped {base : String} {value : Json} {pieces : List Piece} (valid : parse? base = some value)
    (decorates : Decorates pieces base) :
    lexemes? (stripComments (String.ofList (written pieces))).toList = some (lexemes (stripped pieces)) := by
  have order := parse?_mayPrecede valid decorates.lexemes
  rw [stripComments, String.toList_ofList, String.toList_ofList, strip_written decorates.placed order]
  exact lexemes?_written decorates.placed.stripped (stripped_plain pieces) (stripped_apart order.apart)

theorem lexemes?_tight {base : String} {value : Json} {pieces : List Piece} (valid : parse? base = some value)
    (decorates : Decorates pieces base) (tight : Tight pieces) :
    lexemes? (stripComments (String.ofList (written pieces))).toList = some (lexemes pieces) := by
  rw [lexemes?_stripped valid decorates, lexemes_stripped tight]

theorem parse?_tight {base : String} {value : Json} {pieces : List Piece} (valid : parse? base = some value)
    (decorates : Decorates pieces base) (tight : Tight pieces) :
    parse? (stripComments (String.ofList (written pieces))) = some value := by
  rw [parse?_lexemes (lexemes?_tight valid decorates tight), ← parse?_lexemes decorates.lexemes, valid]

theorem parse?_loose {base : String} {value : Json} {pieces : List Piece} (valid : parse? base = some value)
    (decorates : Decorates pieces base) (loose : ¬ Tight pieces) :
    parse? (stripComments (String.ofList (written pieces))) = none := by
  rw [parse?_lexemes (lexemes?_stripped valid decorates), ofTokens?]
  split
  next value last =>
    exact absurd ((List.isChain_map _).mp (foldlM_mayPrecede last)) (stripped_refused decorates.placed loose)
  next => rfl

theorem exists_read_eq_error {text : String} (refused : parse? text = none) : ∃ fault, read text = .error fault := by
  rw [read, refused]
  split
  next digits _ => exact ⟨.longInteger digits, rfl⟩
  next => exact ⟨.malformed, rfl⟩

/-- A text with comments and trailing commas reads as the text without them exactly if no comment stands between such a
comma and the end of its collection. Otherwise nothing is read. -/
theorem read_stripComments {base : String} {value : Json} {pieces : List Piece} (valid : parse? base = some value)
    (decorates : Decorates pieces base) :
    (Tight pieces →
      parse? (stripComments (String.ofList (written pieces))) = some value ∧
        read (stripComments (String.ofList (written pieces))) = read base) ∧
      (¬ Tight pieces →
        parse? (stripComments (String.ofList (written pieces))) = none ∧
          ∃ fault, read (stripComments (String.ofList (written pieces))) = .error fault) := by
  refine ⟨fun tight => ⟨parse?_tight valid decorates tight, ?_⟩, fun loose => ?_⟩
  · exact read_congr (lexemes?_tight valid decorates tight) decorates.lexemes
  · have refused := parse?_loose valid decorates loose
    exact ⟨refused, exists_read_eq_error refused⟩

theorem read_stripComments_item :
    ∃ pieces, String.ofList (written pieces) = "[1,\n] // one" ∧ Decorates pieces "[1]" ∧
      parse? "[1]" = some (.array [.int 1]) ∧
      parse? (stripComments (String.ofList (written pieces))) = some (.array [.int 1]) ∧
      read (stripComments (String.ofList (written pieces))) = read "[1]" := by
  let first : Lexeme := .mark '[' .beginArray rfl
  let item : Lexeme := { text := ['1'], token := .scalar (.int 1), read := ⟨[], Token.next?_number rfl false []⟩ }
  let last : Lexeme := .mark ']' .endArray rfl
  let pieces : List Piece :=
    [.token first, .token item, .trailingComma, .space '\n', .token last, .space ' ', .line " one".toList]
  have found : lexemes? "[1]".toList = some [first, item, last] := lexemes?_item item
  have valid : parse? "[1]" = some (.array [.int 1]) := parse?_lexemes found
  have comment : Placed [.line " one".toList] := .line (by decide) (.inl rfl) .nil
  have ending : Placed (.space '\n' :: .token last :: .space ' ' :: [.line " one".toList]) :=
    .space rfl (.token (.space rfl comment))
  have decorates : Decorates pieces "[1]" := ⟨found, .token (.token (.trailingComma ⟨last, rfl, rfl⟩ ending))⟩
  have tight : Tight pieces := by simp [pieces, tight_cons, last, closes, Lexeme.mark, Token.closes]
  exact ⟨pieces, rfl, decorates, valid, (read_stripComments valid decorates).1 tight⟩

/-- A comment behind the last comma, as it stands in many configurations. -/
theorem read_stripComments_comment :
    ∃ pieces, String.ofList (written pieces) = "[1, // one\n]" ∧ Decorates pieces "[1]" ∧
      parse? "[1]" = some (.array [.int 1]) ∧
      parse? (stripComments (String.ofList (written pieces))) ≠ some (.array [.int 1]) ∧
      ∀ value, read (stripComments (String.ofList (written pieces))) ≠ .ok value := by
  let first : Lexeme := .mark '[' .beginArray rfl
  let item : Lexeme := { text := ['1'], token := .scalar (.int 1), read := ⟨[], Token.next?_number rfl false []⟩ }
  let last : Lexeme := .mark ']' .endArray rfl
  let pieces : List Piece :=
    [.token first, .token item, .trailingComma, .space ' ', .line " one".toList, .space '\n', .token last]
  have found : lexemes? "[1]".toList = some [first, item, last] := lexemes?_item item
  have valid : parse? "[1]" = some (.array [.int 1]) := parse?_lexemes found
  have ending : Placed (.space ' ' :: .line " one".toList :: .space '\n' :: [.token last]) :=
    .space rfl (.line (by decide) (.inr ⟨_, rfl⟩) (.space rfl (.token .nil)))
  have decorates : Decorates pieces "[1]" := ⟨found, .token (.token (.trailingComma ⟨last, rfl, rfl⟩ ending))⟩
  have loose : ¬ Tight pieces := by simp [pieces, tight_cons, closes]
  have refused := parse?_loose valid decorates loose
  obtain ⟨fault, fails⟩ := exists_read_eq_error refused
  refine ⟨pieces, rfl, decorates, valid, ?_, ?_⟩
  · rw [refused]
    simp
  · intro value
    rw [fails]
    simp

end Surveyor.Json
