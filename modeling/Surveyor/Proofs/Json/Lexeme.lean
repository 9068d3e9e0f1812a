import Mathlib.Data.List.Chain
import Surveyor.Json.Reader
import Surveyor.Proofs.Json.Spelling

/-! A text as its lexemes. The reader only sees their tokens, and the blanks between them only matter where they keep
two scalars apart. -/

namespace Surveyor.Json

/-- A token together with the characters that it is read from. -/
structure Lexeme where
  text : List Char
  token : Token
  read : ∃ tail, Token.next? (text ++ tail) = some (token, tail)

/-- A mark by itself. -/
def Lexeme.mark (c : Char) (token : Token) (known : Token.ofMark? c = some token) : Lexeme :=
  { text := [c], token, read := ⟨[], Token.next?_mark known []⟩ }

theorem Lexeme.spelled (lexeme : Lexeme) : Spelled lexeme.text lexeme.token := by
  obtain ⟨tail, read⟩ := lexeme.read
  obtain ⟨raw, same, spelled⟩ := Token.next?_spelled read
  rwa [List.append_cancel_right same]

theorem Token.next?_take {text tail : List Char} {token : Token} (read : Token.next? text = some (token, tail)) :
    text.take (text.length - tail.length) ++ tail = text := by
  obtain ⟨raw, rfl, -⟩ := Token.next?_spelled read
  simp

/-- The lexemes of a text, without the blanks between them. -/
def lexemes? (text : List Char) : Option (List Lexeme) :=
  match _trimmed : text.dropWhile isSpace with
  | [] => some []
  | c :: rest =>
    match read : Token.next? (c :: rest) with
    | none => none
    | some (token, tail) =>
      let lexeme : Lexeme :=
        { text := (c :: rest).take ((c :: rest).length - tail.length), token
          read := ⟨tail, (congrArg Token.next? (Token.next?_take read)).trans read⟩ }
      (lexemes? tail).map (lexeme :: ·)
termination_by text.length
decreasing_by
  have shorter := Token.next?_length read
  have bound := (List.dropWhile_sublist (p := isSpace) (l := text)).length_le
  rw [_trimmed] at bound
  omega

theorem tokens?_trimmed {text rest : List Char} {c : Char} (trimmed : text.dropWhile isSpace = c :: rest) :
    tokens? text = (Token.next? (c :: rest)).bind fun (token, tail) => (tokens? tail).map (token :: ·) := by
  rw [tokens?]
  split
  next empty => simp [trimmed] at empty
  next first more same =>
    rw [trimmed] at same
    cases same
    split
    next none => rw [none, Option.bind_none]
    next token tail found => rw [found, Option.bind_some]

theorem tokens?_blank {text : List Char} (trimmed : text.dropWhile isSpace = []) : tokens? text = some [] := by
  rw [tokens?]
  split
  next => rfl
  next same => simp [trimmed] at same

theorem tokens?_eq (text : List Char) : tokens? text = (lexemes? text).map (·.map (·.token)) := by
  fun_induction lexemes? text with
  | case1 text trimmed => exact tokens?_blank trimmed
  | case2 text c rest trimmed read => rw [tokens?_trimmed trimmed, read, Option.bind_none, Option.map_none]
  | case3 text c rest trimmed token tail read lexeme ih =>
    simp only [tokens?_trimmed trimmed, read, Option.bind_some, ih, Option.map_map]
    rfl

theorem leadingTokens_eq {text : List Char} {tokens : List Token} (cut : tokens? text = some tokens) :
    leadingTokens text = tokens := by
  fun_induction tokens? text generalizing tokens with
  | case1 text trimmed =>
    cases cut
    rw [leadingTokens]
    split
    next => rfl
    next same => simp [trimmed] at same
  | case2 => cases cut
  | case3 text c rest trimmed token tail read ih =>
    obtain ⟨others, later, rfl⟩ := Option.map_eq_some_iff.mp cut
    rw [leadingTokens]
    split
    next empty => simp [trimmed] at empty
    next same =>
      rw [trimmed] at same
      cases same
      split
      next none => simp [read] at none
      next found =>
        cases read.symm.trans found
        rw [ih later]

theorem lexemes?_space {c : Char} (space : isSpace c = true) (rest : List Char) :
    lexemes? (c :: rest) = lexemes? rest := by
  rw [lexemes?, lexemes?, List.dropWhile_cons_of_pos space]

/-- A lexeme in front of a text is found as it is, unless the text would lengthen a scalar. -/
theorem lexemes?_lexeme (lexeme : Lexeme) {rest : List Char} (stop : lexeme.token.isScalar = true → Ends rest) :
    lexemes? (lexeme.text ++ rest) = (lexemes? rest).map (lexeme :: ·) := by
  obtain ⟨c, more, shape, solid, -⟩ := lexeme.spelled.starts
  have read := lexeme.spelled.next? stop
  have space : ¬ isSpace c = true := fun space => by simp [isBlank_of_isSpace space] at solid
  rw [shape, List.cons_append] at read ⊢
  have trimmed : (c :: (more ++ rest)).dropWhile isSpace = c :: (more ++ rest) := List.dropWhile_cons_of_neg space
  rw [lexemes?]
  split
  next empty => simp [trimmed] at empty
  next first after same =>
    rw [trimmed] at same
    cases same
    split
    next none => simp [read] at none
    next token tail found =>
      cases read.symm.trans found
      have whole : (c :: (more ++ rest)).take ((c :: (more ++ rest)).length - rest.length) = lexeme.text := by
        rw [shape, ← List.cons_append, List.length_append, Nat.add_sub_cancel, List.take_left]
      simp only [whole]

/-! ## The order of tokens -/

/-- Whether two tokens stay apart without a blank between them. -/
def Token.mayTouch (a b : Token) : Bool := !(a.isScalar && b.isScalar)

/-- Whether the reader may meet a token right after another. No collection ends behind a comma. -/
def Token.mayPrecede : Token → Token → Bool
  | .comma, next => !next.closes
  | token, next => token.mayTouch next

theorem step_comma {state next : Mode × List Frame} (moved : step state .comma = some next) :
    next.1 = .value ∨ ∃ fields, next.1 = .name fields := by
  unfold step at moved
  split at moved
  case h_8 | h_10 =>
    cases moved
    simp
  all_goals simp_all [startValue]

theorem step_scalar {state next : Mode × List Frame} {value : Json} (moved : step state (.scalar value) = some next) :
    next.1 = .closed value := by
  unfold step at moved
  split at moved
  case h_1 | h_3 =>
    cases moved
    rfl
  all_goals simp_all

theorem step_mayPrecede {state middle last : Mode × List Frame} {a b : Token} (first : step state a = some middle)
    (second : step middle b = some last) : a.mayPrecede b = true := by
  obtain ⟨mode, stack⟩ := middle
  cases a with
  | comma =>
    rcases step_comma first with rfl | ⟨fields, rfl⟩
    all_goals cases b <;> simp_all [step, startValue, Token.mayPrecede, Token.closes]
  | scalar value =>
    obtain rfl := step_scalar first
    cases b with
    | scalar => simp [step] at second
    | _ => rfl
  | _ => rfl

theorem mayTouch_of_mayPrecede {a b : Token} (order : a.mayPrecede b = true) : a.mayTouch b = true := by
  cases a with
  | comma => rfl
  | _ => exact order

/-- No two tokens stand side by side that the reader would not take. -/
theorem foldlM_mayPrecede {tokens : List Token} {state last : Mode × List Frame}
    (read : tokens.foldlM step state = some last) : tokens.IsChain fun a b => a.mayPrecede b = true := by
  induction tokens generalizing state with
  | nil => exact .nil
  | cons a tokens ih =>
    rw [List.foldlM_cons] at read
    obtain ⟨middle, first, read⟩ := Option.bind_eq_some_iff.mp read
    refine List.isChain_cons.mpr ⟨?_, ih read⟩
    intro b head
    cases tokens with
    | nil => cases head
    | cons c tokens =>
      cases head
      rw [List.foldlM_cons] at read
      obtain ⟨next, second, -⟩ := Option.bind_eq_some_iff.mp read
      exact step_mayPrecede first second

/-- No scalar touches another. -/
abbrev Apart (found : List Lexeme) : Prop := found.IsChain fun a b => a.token.mayTouch b.token = true

/-- Each lexeme may be met right after the one before it. -/
abbrev Ordered (found : List Lexeme) : Prop := found.IsChain fun a b => a.token.mayPrecede b.token = true

theorem Ordered.apart {found : List Lexeme} (order : Ordered found) : Apart found :=
  order.imp fun _ _ => mayTouch_of_mayPrecede

theorem parse?_lexemes {text : String} {found : List Lexeme} (cut : lexemes? text.toList = some found) :
    parse? text = ofTokens? (found.map (·.token)) := by
  rw [parse?, tokens?_eq, cut, Option.map_some, Option.bind_some]

/-- Only the lexemes of a text are read, its integers that are too long included. -/
theorem read_congr {text other : String} {found : List Lexeme} (cut : lexemes? text.toList = some found)
    (same : lexemes? other.toList = some found) : read text = read other := by
  have overlong : ∀ {text : String}, lexemes? text.toList = some found →
      overlong? text = overlongFrom? (.value, []) (found.map (·.token)) := by
    intro text cut
    rw [overlong?, leadingTokens_eq (by rw [tokens?_eq, cut, Option.map_some])]
  rw [read, read, overlong cut, overlong same, parse?_lexemes cut, parse?_lexemes same]

theorem parse?_mayPrecede {text : String} {found : List Lexeme} {value : Json} (read : parse? text = some value)
    (cut : lexemes? text.toList = some found) : Ordered found := by
  rw [parse?_lexemes cut, ofTokens?] at read
  split at read
  next value last => exact (List.isChain_map _).mp (foldlM_mayPrecede last)
  next => cases read

end Surveyor.Json
