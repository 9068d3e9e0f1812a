import Surveyor.Json.Printer
import Surveyor.Proofs.Fields
import Surveyor.Proofs.Json.Decoration
import Surveyor.Proofs.Json.Overlong

/-! A value that is rendered is read back. What is rendered is a sequence of lexemes that moves the reader over the whole
value wherever one may stand, and which stay apart because the reader takes them in their order. -/

namespace Surveyor.Json

/-! ## Lexemes of scalars and texts -/

theorem codeUnit?_control : ∀ n < 32, codeUnit? '0' '0' (hexDigit (n / 16)) (hexDigit n) = some n := by decide

theorem Closed.escaped {raw body : List Char} (closed : Closed raw body) (c : Char) :
    Closed (Json.escape c ++ raw) (c :: body) := by
  unfold Json.escape
  split
  next => exact closed.escape rfl
  next => exact closed.escape rfl
  next => exact closed.escape rfl
  next => exact closed.escape rfl
  next => exact closed.escape rfl
  next quote backslash _ _ _ =>
    split
    next control =>
      have small : c.toNat < 32 := UInt32.lt_iff_toNat_lt.mp control
      have low : isHigh c.toNat = false := by
        rw [isHigh, Bool.and_eq_false_iff]
        exact Or.inl (decide_eq_false (by omega))
      have alone : isLow c.toNat = false := by
        rw [isLow, Bool.and_eq_false_iff]
        exact Or.inl (decide_eq_false (by omega))
      have same : single c.toNat = c := by
        rw [single, low, alone]
        exact Char.ofNat_toNat c
      have apart : Unpaired c.toNat (raw ++ []) := fun _ _ _ _ _ _ _ _ => by rw [low, Bool.false_and]
      have unit := closed.unpaired (codeUnit?_control c.toNat small) apart
      rwa [same] at unit
    next visible =>
      have valid : ¬ (c < ' ' || c == '\\') = true := by
        rw [Bool.or_eq_true, decide_eq_true_eq, beq_iff_eq]
        exact fun wrong => wrong.elim visible backslash
      exact closed.plain quote valid

theorem closed_renderText (body : List Char) : Closed (body.flatMap escape ++ ['"']) body := by
  induction body with
  | nil => exact .quote
  | cons c body ih =>
    rw [List.flatMap_cons, List.append_assoc]
    exact ih.escaped c

theorem spelled_text (value : String) : Spelled (renderText value.toList) (.text value) := by
  have spelled := Spelled.text (closed_renderText value.toList)
  rwa [String.ofList_toList] at spelled

theorem ofDigits_toDigits (n : Nat) :
    Numeral.ofDigits 10 ((Nat.toDigits 10 n).map fun c => c.toNat - '0'.toNat) = n := by
  have digits := @Nat.ofDigitChars_toDigits 10 n (by decide) (by decide)
  rw [Nat.ofDigitChars] at digits
  simpa only [Numeral.ofDigits, List.foldl_map, Nat.mul_comm 10] using digits

/-- No zero leads in a number that is not zero. -/
theorem toDigits_positive {n : Nat} (positive : 0 < n) : ∃ first rest, Nat.toDigits 10 n = first :: rest ∧ first ≠ '0' := by
  induction n using Nat.strongRecOn with
  | ind n ih =>
    by_cases small : n < 10
    · have filled : ∀ m < 10, 0 < m → m.digitChar ≠ '0' := by decide
      exact ⟨n.digitChar, [], Nat.toDigits_of_lt_base small, filled n small positive⟩
    · obtain ⟨first, rest, shape, filled⟩ := ih (n / 10) (by omega) (by omega)
      refine ⟨first, rest ++ [(n % 10).digitChar], ?_, filled⟩
      rw [Nat.toDigits_of_base_le (by decide) (by omega), shape, List.cons_append]

theorem number?_toDigits (negative : Bool) (n : Nat) :
    number? negative (Nat.toDigits 10 n) = some (.int (if negative then -n else n), []) := by
  have digits : ∀ c ∈ Nat.toDigits 10 n, c.isDigit = true := fun c member =>
    Nat.isDigit_of_mem_toDigits (by decide) (by decide) member
  have whole : wholePart (Nat.toDigits 10 n) = Nat.toDigits 10 n := by
    cases n with
    | zero => rfl
    | succ n =>
      obtain ⟨first, rest, shape, filled⟩ := toDigits_positive (Nat.succ_pos n)
      rw [shape] at digits ⊢
      exact wholePart_digits digits filled
  have filled : (Nat.toDigits 10 n).isEmpty = false := by
    rw [List.isEmpty_eq_false_iff]
    exact List.ne_nil_of_length_pos Nat.length_toDigits_pos
  have read := @number?_eq (Nat.toDigits 10 n) [] [] [] negative (by simpa using whole) rfl rfl
  simp only [List.append_nil, numberOf, filled, ofDigits_toDigits] at read
  exact read

theorem spelled_int (value : Int) : Spelled (toString value).toList (.scalar (.int value)) := by
  have unsigned (negative : Bool) (n : Nat) :
      Spelled (sign negative ++ Nat.toDigits 10 n) (.scalar (.int (if negative then -n else n))) := by
    obtain ⟨raw, same, spelled⟩ := number_spelled (number?_toDigits negative n)
    rw [List.append_nil] at same
    rwa [← same] at spelled
  cases value with
  | ofNat n =>
    have digits : (toString (Int.ofNat n)).toList = sign false ++ Nat.toDigits 10 n := Nat.toList_repr
    rw [digits]
    exact unsigned false n
  | negSucc n =>
    have digits : (toString (Int.negSucc n)).toList = sign true ++ Nat.toDigits 10 (n + 1) := by
      change ("-" ++ (n + 1).repr).toList = _
      rw [String.toList_append, Nat.toList_repr]
      rfl
    rw [digits]
    exact unsigned true (n + 1)

theorem Spelled.scalar_characters {text : List Char} {value : Json} (spelled : Spelled text (.scalar value)) :
    ∀ c ∈ text, isScalarCharacter c = true := by
  cases spelled with
  | mark known =>
    unfold Token.ofMark? at known
    split at known <;> cases known
  | scalar all => exact all

/-! ## Values -/

/-- Values whose rendering is read as themselves: objects have different names, and all numbers are integers. -/
inductive Printable : Json → Prop
  | null : Printable .null
  | bool (value : Bool) : Printable (.bool value)
  | int (value : Int) : Printable (.int value)
  | text (value : String) : Printable (.text value)
  | array {items : List Json} (each : ∀ item ∈ items, Printable item) : Printable (.array items)
  | object {fields : List (String × Json)} (names : Fields.Distinct fields)
      (each : ∀ field ∈ fields, Printable field.2) : Printable (.object fields)

mutual

/-- The number of digits of the first integer in a value that has too many of them. -/
def overlongWithin? : Json → Option Nat
  | .int value => (Token.scalar (.int value)).overlong?
  | .array items => overlongItem? items
  | .object fields => overlongField? fields
  | _ => none

def overlongItem? : List Json → Option Nat
  | [] => none
  | item :: items => (overlongWithin? item).or (overlongItem? items)

def overlongField? : List (String × Json) → Option Nat
  | [] => none
  | (_, value) :: fields => (overlongWithin? value).or (overlongField? fields)

end

/-- Where integers stand under one name only, the field of this name decides. -/
theorem overlongField?_only {name : String} {fields : List (String × Json)} (names : Fields.Distinct fields)
    (others : ∀ field ∈ fields, field.1 ≠ name → overlongWithin? field.2 = none) :
    overlongField? fields = (Fields.get? name fields).bind overlongWithin? := by
  induction fields with
  | nil => rfl
  | cons field fields ih =>
    obtain ⟨other, value⟩ := field
    obtain ⟨first, rest⟩ := List.forall_mem_cons.mp others
    rw [Fields.Distinct, List.map_cons, List.nodup_cons] at names
    rw [overlongField?, ih names.2 rest]
    by_cases same : other = name
    · subst same
      have absent : Fields.get? other fields = none := by
        cases found : Fields.get? other fields with
        | none => rfl
        | some again => exact absurd (List.mem_map_of_mem (Fields.mem_of_get? found)) names.1
      rw [absent, Option.bind_none, Option.or_none, Fields.get?_cons, if_pos rfl, Option.bind_some]
    · rw [first same, Option.none_or, Fields.get?_cons, if_neg same]

def Lexeme.ofSpelled {text : List Char} {token : Token} (spelled : Spelled text token) : Lexeme :=
  { text, token, read := ⟨[], spelled.next? fun _ => by simp [Starts]⟩ }

/-- Lexemes that move the reader from one state to another, with the digits of their first overlong integer. -/
structure Moves (found : List Lexeme) (long : Option Nat) (before after : Mode × List Frame) : Prop where
  steps : (found.map (·.token)).foldlM step before = some after
  overlong : found.findSome? (·.token.overlong?) = long

theorem Moves.nil (state : Mode × List Frame) : Moves [] none state state := ⟨rfl, rfl⟩

theorem Moves.cons {lexeme : Lexeme} {found : List Lexeme} {long : Option Nat} {before middle after : Mode × List Frame}
    (moved : step before lexeme.token = some middle) (short : lexeme.token.overlong? = none)
    (rest : Moves found long middle after) : Moves (lexeme :: found) long before after := by
  constructor
  · rw [List.map_cons, List.foldlM_cons, moved]
    exact rest.steps
  · rw [List.findSome?_cons, short]
    exact rest.overlong

theorem Moves.append {first second : List Lexeme} {early late : Option Nat} {before middle after : Mode × List Frame}
    (one : Moves first early before middle) (two : Moves second late middle after) :
    Moves (first ++ second) (early.or late) before after := by
  constructor
  · rw [List.map_append, List.foldlM_append, one.steps]
    exact two.steps
  · rw [List.findSome?_append, one.overlong, two.overlong]

/-- A text whose lexemes are read as a value wherever one may stand. -/
def Renders (text : List Char) (value : Json) : Prop :=
  ∃ found : List Lexeme, found.flatMap (·.text) = text ∧ ∀ mode stack, mode = .value ∨ mode = .item →
    Moves found value.overlongWithin? (mode, stack) (.closed value, stack)

theorem step_opening {mode : Mode} {token : Token} (stack : List Frame) (opening : mode = .value ∨ mode = .item)
    (other : token.closes = false) : step (mode, stack) token = startValue stack token := by
  rcases opening with rfl | rfl
  · rfl
  · rw [step]
    rintro rest rfl rfl
    cases other

theorem Spelled.renders {text : List Char} {token : Token} {value : Json} (spelled : Spelled text token)
    (other : token.closes = false) (same : token.overlong? = value.overlongWithin?)
    (starts : ∀ stack, startValue stack token = some (.closed value, stack)) : Renders text value := by
  refine ⟨[.ofSpelled spelled], List.append_nil text, fun mode stack opening => ⟨?_, ?_⟩⟩
  · exact congrArg (Option.bind · pure) ((step_opening stack opening other).trans (starts stack))
  · rw [← same]
    exact List.findSome?_singleton

/-- The items behind the first one. -/
theorem exists_moves_items {items : List Json} (each : ∀ item ∈ items, Renders item.renderChars item) :
    ∃ found : List Lexeme, found.flatMap (·.text) = renderItems items ∧ ∀ value held stack,
      Moves found (overlongItem? items) (.closed value, .array held :: stack)
        (.closed (.array ((value :: held).reverse ++ items)), stack) := by
  induction items with
  | nil =>
    refine ⟨[.mark ']' .endArray rfl], by rw [renderItems]; rfl, fun value held stack => ?_⟩
    rw [List.append_nil]
    exact .cons rfl rfl (.nil _)
  | cons item items ih =>
    obtain ⟨renders, others⟩ := List.forall_mem_cons.mp each
    obtain ⟨first, firstText, reads⟩ := renders
    obtain ⟨rest, restText, moves⟩ := ih others
    refine ⟨.mark ',' .comma rfl :: (first ++ rest), ?_, fun value held stack => ?_⟩
    · rw [renderItems, List.flatMap_cons, List.flatMap_append, firstText, restText]
      rfl
    · have later := moves item (value :: held) stack
      rw [List.reverse_cons, List.append_assoc, List.singleton_append] at later
      exact .cons rfl rfl ((reads .value _ (.inl rfl)).append later)

/-- The fields behind the first one. -/
theorem exists_moves_fields {fields : List (String × Json)}
    (each : ∀ field ∈ fields, Renders field.2.renderChars field.2) :
    ∃ found : List Lexeme, found.flatMap (·.text) = renderFields fields ∧ ∀ known name value stack,
      Fields.Distinct (known ++ (name, value) :: fields) →
        Moves found (overlongField? fields) (.closed value, .object known name :: stack)
          (.closed (.object (known ++ (name, value) :: fields)), stack) := by
  have new {known : List (String × Json)} {name : String} {value : Json} {more : List (String × Json)}
      (distinct : Fields.Distinct (known ++ (name, value) :: more)) :
      Fields.set known name value = known ++ [(name, value)] := by
    apply Fields.set_new
    rw [Fields.Distinct, List.map_append, List.map_cons, List.nodup_append] at distinct
    exact fun member => distinct.2.2 name member name List.mem_cons_self rfl
  induction fields with
  | nil =>
    refine ⟨[.mark '\x7d' .endObject rfl], by rw [renderFields]; rfl, fun known name value stack distinct => ?_⟩
    have moved : step (.closed value, .object known name :: stack) .endObject =
        some (.closed (.object (known ++ [(name, value)])), stack) := by rw [step, new distinct]
    exact .cons moved rfl (.nil _)
  | cons field fields ih =>
    obtain ⟨next, nextValue⟩ := field
    obtain ⟨renders, others⟩ := List.forall_mem_cons.mp each
    obtain ⟨first, firstText, reads⟩ := renders
    obtain ⟨rest, restText, moves⟩ := ih others
    refine ⟨.mark ',' .comma rfl :: .ofSpelled (spelled_text next) :: .mark ':' .colon rfl :: (first ++ rest), ?_,
      fun known name value stack distinct => ?_⟩
    · rw [renderFields, List.flatMap_cons, List.flatMap_cons, List.flatMap_cons, List.flatMap_append, firstText,
        restText, List.append_assoc, List.cons_append]
      rfl
    · have moved : step (.closed value, .object known name :: stack) .comma =
          some (.name (known ++ [(name, value)]), stack) := by rw [step, new distinct]
      have same : known ++ (name, value) :: (next, nextValue) :: fields =
          (known ++ [(name, value)]) ++ (next, nextValue) :: fields := by simp
      rw [same] at distinct ⊢
      have later := moves (known ++ [(name, value)]) next nextValue stack distinct
      exact .cons moved rfl (.cons rfl rfl (.cons rfl rfl ((reads .value _ (.inl rfl)).append later)))

theorem spelled_whole {text : List Char} {token : Token} (read : Token.next? text = some (token, [])) :
    Spelled text token := by
  obtain ⟨raw, same, spelled⟩ := Token.next?_spelled read
  rw [List.append_nil] at same
  rwa [same]

theorem Printable.renders {value : Json} (printable : Printable value) : Renders value.renderChars value := by
  induction printable with
  | null =>
    rw [renderChars]
    exact (@spelled_whole _ (.scalar .null) rfl).renders rfl rfl fun _ => rfl
  | bool value =>
    rw [renderChars]
    cases value
    · exact (@spelled_whole _ (.scalar (.bool false)) rfl).renders rfl rfl fun _ => rfl
    · exact (@spelled_whole _ (.scalar (.bool true)) rfl).renders rfl rfl fun _ => rfl
  | int value =>
    rw [renderChars]
    exact (spelled_int value).renders rfl rfl fun _ => rfl
  | text value =>
    rw [renderChars]
    exact (spelled_text value).renders rfl rfl fun _ => rfl
  | @array items each ih =>
    cases items with
    | nil =>
      refine ⟨[.mark '[' .beginArray rfl, .mark ']' .endArray rfl], by rw [renderChars]; rfl,
        fun mode stack opening => ?_⟩
      exact .cons (step_opening stack opening rfl) rfl (.cons rfl rfl (.nil _))
    | cons item items =>
      obtain ⟨renders, others⟩ := List.forall_mem_cons.mp ih
      obtain ⟨first, firstText, reads⟩ := renders
      obtain ⟨rest, restText, moves⟩ := exists_moves_items others
      refine ⟨.mark '[' .beginArray rfl :: (first ++ rest), ?_, fun mode stack opening => ?_⟩
      · rw [renderChars, List.flatMap_cons, List.flatMap_append, firstText, restText]
        rfl
      · exact .cons (step_opening stack opening rfl) rfl ((reads .item _ (.inr rfl)).append (moves item [] stack))
  | @object fields names each ih =>
    cases fields with
    | nil =>
      refine ⟨[.mark '\x7b' .beginObject rfl, .mark '\x7d' .endObject rfl], by rw [renderChars]; rfl,
        fun mode stack opening => ?_⟩
      exact .cons (step_opening stack opening rfl) rfl (.cons rfl rfl (.nil _))
    | cons field fields =>
      obtain ⟨name, value⟩ := field
      obtain ⟨renders, others⟩ := List.forall_mem_cons.mp ih
      obtain ⟨first, firstText, reads⟩ := renders
      obtain ⟨rest, restText, moves⟩ := exists_moves_fields others
      refine ⟨.mark '\x7b' .beginObject rfl :: .ofSpelled (spelled_text name) :: .mark ':' .colon rfl :: (first ++ rest),
        ?_, fun mode stack opening => ?_⟩
      · rw [renderChars, List.flatMap_cons, List.flatMap_cons, List.flatMap_cons, List.flatMap_append, firstText, restText,
          List.append_assoc, List.cons_append]
        rfl
      · have later := moves [] name value stack names
        exact .cons (step_opening stack opening rfl) rfl
          (.cons rfl rfl (.cons rfl rfl ((reads .value _ (.inl rfl)).append later)))

/-! ## Reading what was rendered -/

/-- Where nothing is out of place, the reader meets all integers. -/
theorem overlongFrom?_eq {tokens : List Token} {state last : Mode × List Frame}
    (steps : tokens.foldlM step state = some last) : overlongFrom? state tokens = tokens.findSome? Token.overlong? := by
  induction tokens generalizing state with
  | nil => rfl
  | cons token tokens ih =>
    rw [List.foldlM_cons] at steps
    obtain ⟨next, moved, later⟩ := Option.bind_eq_some_iff.mp steps
    rw [overlongFrom?, moved, List.findSome?_cons]
    cases token.overlong? with
    | some digits => rfl
    | none => exact ih later

/-! ## Lexemes without blanks between them -/

theorem placed_tokens (found : List Lexeme) : Placed (found.map .token) := by
  induction found with
  | nil => exact .nil
  | cons lexeme found ih => exact .token ih

@[simp] theorem lexemes_tokens (found : List Lexeme) : lexemes (found.map .token) = found := by
  rw [lexemes, List.filterMap_map]
  exact List.filterMap_some

theorem written_tokens (found : List Lexeme) : written (found.map .token) = found.flatMap (·.text) := by
  rw [written, List.flatMap_map]
  rfl

theorem stripped_tokens (found : List Lexeme) : stripped (found.map .token) = found.map .token := by
  induction found with
  | nil => rfl
  | cons lexeme found ih => exact congrArg (.token lexeme :: ·) ih

theorem lexemes?_flatMap {found : List Lexeme} (apart : Apart found) :
    lexemes? (found.flatMap (·.text)) = some found := by
  have cut := lexemes?_written (placed_tokens found) (by simp [Piece.isPlain]) (by rwa [lexemes_tokens])
  rwa [written_tokens, lexemes_tokens] at cut

/-- Nothing is stripped of a value that is rendered. -/
theorem stripComments_render {value : Json} (printable : Printable value) : stripComments value.render = value.render := by
  obtain ⟨found, text, moves⟩ := printable.renders
  obtain ⟨steps, -⟩ := moves .value [] (.inl rfl)
  have order : Ordered found := (List.isChain_map _).mp (foldlM_mayPrecede steps)
  have kept := strip_written (placed_tokens found) (by rwa [lexemes_tokens])
  rw [stripped_tokens, written_tokens, text] at kept
  rw [stripComments, render, String.toList_ofList, kept]

/-- A value that is rendered is read back, unless an integer in it is too long. -/
theorem read_render {value : Json} (printable : Printable value) :
    read value.render = match value.overlongWithin? with
      | some digits => .error (.longInteger digits)
      | none => .ok value := by
  obtain ⟨found, text, moves⟩ := printable.renders
  obtain ⟨steps, overlong⟩ := moves .value [] (.inl rfl)
  -- Lexemes that the reader takes one after the other never run into each other.
  have order : Ordered found := (List.isChain_map _).mp (foldlM_mayPrecede steps)
  have cut : tokens? value.render.toList = some (found.map (·.token)) := by
    rw [render, String.toList_ofList, ← text, tokens?_eq, lexemes?_flatMap order.apart, Option.map_some]
  have parsed : parse? value.render = some value := by
    rw [parse?, cut, Option.bind_some, ofTokens?, steps]
  have digits : overlong? value.render = value.overlongWithin? := by
    rw [overlong?, leadingTokens_eq cut, overlongFrom?_eq steps, List.findSome?_map, ← overlong]
    rfl
  cases long : value.overlongWithin? with
  | some count => simp only [read, digits, long]
  | none => simp only [read, digits, long, parsed]

end Surveyor.Json
