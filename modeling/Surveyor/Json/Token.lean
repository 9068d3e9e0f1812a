import Surveyor.Json.Value
import Surveyor.Number.Numeral

/-!
The tokens of JSON. Beside the standard's literals the reader knows `NaN`, `Infinity` and `-Infinity`; between tokens
it skips the standard's four blanks only.
-/
namespace Surveyor.Json

inductive Token where
  | beginObject
  | endObject
  | beginArray
  | endArray
  | colon
  | comma
  | text (value : String)
  | scalar (value : Json)

def isSpace (c : Char) : Bool := c == ' ' || c == '\t' || c == '\n' || c == '\r'

def codeUnit? (a b c d : Char) : Option Nat := do
  let digits ← [a, b, c, d].mapM (Numeral.digitIn? 16)
  return Numeral.ofDigits 16 digits

def isHigh (unit : Nat) : Bool := 0xd800 ≤ unit && unit < 0xdc00

def isLow (unit : Nat) : Bool := 0xdc00 ≤ unit && unit < 0xe000

/-- The character of a pair of code units. -/
def joined (high low : Nat) : Char :=
  Char.ofNat (0x10000 + (high - 0xd800) * 0x400 + (low - 0xdc00))

/-- Half of a pair stands for no character, so that a text has a replacement character in its place. Texts which differ
in such halves only become equal by it: of two such names of an object the later one takes the value of both. -/
def single (unit : Nat) : Char :=
  if isHigh unit || isLow unit then '\ufffd' else Char.ofNat unit

def escaped? : Char → Option Char
  | '"' => some '"'
  | '\\' => some '\\'
  | '/' => some '/'
  | 'b' => some '\x08'
  | 'f' => some '\x0c'
  | 'n' => some '\n'
  | 'r' => some '\r'
  | 't' => some '\t'
  | _ => none

/-- The characters of a text up to its closing quote, and what follows the quote. -/
def textBody : List Char → Option (List Char × List Char)
  | [] => none
  | '"' :: rest => some ([], rest)
  | '\\' :: 'u' :: a :: b :: c :: d :: '\\' :: 'u' :: e :: f :: g :: h :: rest =>
    match codeUnit? a b c d, codeUnit? e f g h with
    | some high, some low =>
      if isHigh high && isLow low then
        (textBody rest).map fun (body, tail) => (joined high low :: body, tail)
      else
        (textBody ('\\' :: 'u' :: e :: f :: g :: h :: rest)).map fun (body, tail) => (single high :: body, tail)
    | _, _ => none
  | '\\' :: 'u' :: a :: b :: c :: d :: rest =>
    match codeUnit? a b c d with
    | some unit => (textBody rest).map fun (body, tail) => (single unit :: body, tail)
    | none => none
  | '\\' :: c :: rest =>
    match escaped? c with
    | some plain => (textBody rest).map fun (body, tail) => (plain :: body, tail)
    | none => none
  | c :: rest =>
    if c < ' ' || c == '\\' then none
    else (textBody rest).map fun (body, tail) => (c :: body, tail)

theorem textBody_length {text body tail : List Char} (read : textBody text = some (body, tail)) :
    tail.length < text.length := by
  have further {f : List Char → List Char} {rest body tail : List Char}
      (shorter : ∀ {body tail}, textBody rest = some (body, tail) → tail.length < rest.length)
      (read : ((textBody rest).map fun (body, tail) => (f body, tail)) = some (body, tail)) :
      tail.length < rest.length := by
    obtain ⟨⟨inner, last⟩, found, same⟩ := Option.map_eq_some_iff.mp read
    cases same
    exact shorter found
  fun_induction textBody text generalizing body tail with
  | case1 => cases read
  | case2 rest =>
    cases read
    exact Nat.lt_succ_self _
  | case3 a b c d e f g h rest high low _ _ _ ih => exact Nat.lt_add_right 12 (further ih read)
  | case4 a b c d e f g h rest high low _ _ _ ih => exact Nat.lt_add_right 6 (further ih read)
  | case5 => cases read
  | case6 a b c d rest _ unit _ ih => exact Nat.lt_add_right 6 (further ih read)
  | case7 => cases read
  | case8 c rest _ _ plain _ ih => exact Nat.lt_add_right 2 (further ih read)
  | case9 => cases read
  | case10 => cases read
  | case11 c rest _ _ _ _ _ ih => exact Nat.lt_add_right 1 (further ih read)

/-- The digits of a number without its sign: no zero leads unless it stands alone. -/
def wholePart : List Char → List Char
  | '0' :: _ => ['0']
  | input => input.takeWhile Char.isDigit

/-- A point with at least one digit after it. -/
def fractionPart : List Char → List Char
  | '.' :: rest =>
    let run := rest.takeWhile Char.isDigit
    if run.isEmpty then [] else '.' :: run
  | _ => []

/-- The letter of an exponent with its sign and at least one digit. -/
def exponentPart (text : List Char) : List Char :=
  match text with
  | letter :: rest =>
    if letter == 'e' || letter == 'E' then
      match rest with
      | mark :: digits =>
        if mark == '+' || mark == '-' then
          let run := digits.takeWhile Char.isDigit
          if run.isEmpty then [] else letter :: mark :: run
        else
          let run := rest.takeWhile Char.isDigit
          if run.isEmpty then [] else letter :: run
      | [] => []
    else []
  | [] => []

/-- Reads a number from an unsigned text; what it returns of the text follows the number. -/
def number? (negative : Bool) (text : List Char) : Option (Json × List Char) :=
  let whole := wholePart text
  let fraction := fractionPart (text.drop whole.length)
  let exponent := exponentPart (text.drop (whole.length + fraction.length))
  let tail := text.drop (whole.length + fraction.length + exponent.length)
  if whole.isEmpty then none
  else if fraction.isEmpty && exponent.isEmpty then
    let size : Int := Numeral.ofDigits 10 (whole.map fun c => c.toNat - '0'.toNat)
    some (.int (if negative then -size else size), tail)
  else
    (Numeral.decimal? negative (whole ++ fraction ++ exponent)).map fun value => (.real value, tail)

private theorem number?_drop {negative : Bool} {text tail : List Char} {value : Json}
    (read : number? negative text = some (value, tail)) :
    ∃ more, tail = text.drop ((wholePart text).length + more) ∧ wholePart text ≠ [] := by
  simp only [number?] at read
  by_cases empty : wholePart text = []
  · simp [empty] at read
  · simp only [List.isEmpty_iff, empty, if_false] at read
    split at read
    · simp only [Option.some.injEq, Prod.mk.injEq] at read
      exact ⟨_, read.2.symm.trans (by rw [Nat.add_assoc]), empty⟩
    · simp only [Option.map_eq_some_iff, Prod.mk.injEq] at read
      obtain ⟨_, _, _, same⟩ := read
      exact ⟨_, same.symm.trans (by rw [Nat.add_assoc]), empty⟩

theorem number?_length {negative : Bool} {text tail : List Char} {value : Json}
    (read : number? negative text = some (value, tail)) : tail.length < text.length := by
  obtain ⟨more, rfl, present⟩ := number?_drop read
  have long := List.length_pos_iff.mpr present
  cases text with
  | nil => simp [wholePart] at present
  | cons c rest => simp only [List.length_drop, List.length_cons]; omega

def literals : List (List Char × Json) :=
  [("true".toList, .bool true), ("false".toList, .bool false), ("null".toList, .null),
   ("NaN".toList, .real .nan), ("Infinity".toList, .real (.infinite false)),
   ("-Infinity".toList, .real (.infinite true))]

def afterWord? (word text : List Char) : Option (List Char) :=
  if word.isPrefixOf text then some (text.drop word.length) else none

def literal? (text : List Char) : Option (Json × List Char) :=
  literals.findSome? fun (word, value) => (afterWord? word text).map fun tail => (value, tail)

private theorem literal?_length {text tail : List Char} {value : Json}
    (read : literal? text = some (value, tail)) : tail.length < text.length := by
  obtain ⟨⟨word, found⟩, member, same⟩ := List.exists_of_findSome?_eq_some read
  simp only [afterWord?, Option.map_eq_some_iff, Prod.mk.injEq] at same
  obtain ⟨rest, taken, _, rfl⟩ := same
  split at taken
  · rename_i isLead
    cases taken
    have long : 0 < word.length := by
      simp only [literals, List.mem_cons, Prod.mk.injEq, List.not_mem_nil, or_false] at member
      rcases member with h | h | h | h | h | h <;> rw [h.1] <;> decide
    have bound := (List.isPrefixOf_iff_prefix.mp isLead).length_le
    simp only [List.length_drop]
    omega
  · simp at taken

def Token.next? : List Char → Option (Token × List Char)
  | [] => none
  | c :: rest =>
    match c with
    | '\x7b' => some (.beginObject, rest)
    | '\x7d' => some (.endObject, rest)
    | '[' => some (.beginArray, rest)
    | ']' => some (.endArray, rest)
    | ':' => some (.colon, rest)
    | ',' => some (.comma, rest)
    | '"' => (textBody rest).map fun (body, tail) => (.text (String.ofList body), tail)
    | _ =>
      match literal? (c :: rest) with
      | some (value, tail) => some (.scalar value, tail)
      | none =>
        if c == '-' then (number? true rest).map fun (value, tail) => (.scalar value, tail)
        else (number? false (c :: rest)).map fun (value, tail) => (.scalar value, tail)

theorem Token.next?_length {text tail : List Char} {token : Token}
    (read : Token.next? text = some (token, tail)) : tail.length < text.length := by
  unfold Token.next? at read
  split at read
  · simp at read
  · rename_i c rest
    split at read
    all_goals try (simp only [Option.some.injEq, Prod.mk.injEq] at read; simp [← read.2])
    · simp only [Option.map_eq_some_iff, Prod.exists, Prod.mk.injEq] at read
      obtain ⟨body, last, found, _, rfl⟩ := read
      have := textBody_length found
      simp only [List.length_cons]
      omega
    · split at read
      · rename_i found
        simp only [Option.some.injEq, Prod.mk.injEq] at read
        exact read.2 ▸ literal?_length found
      · split at read
        all_goals
          simp only [Option.map_eq_some_iff, Prod.exists, Prod.mk.injEq] at read
          obtain ⟨body, last, found, _, rfl⟩ := read
          have := number?_length found
          simp only [List.length_cons] at *
          omega

/-- The tokens up to the first place where none can be read. -/
def leadingTokens (text : List Char) : List Token :=
  match _trimmed : text.dropWhile isSpace with
  | [] => []
  | c :: rest =>
    match _read : Token.next? (c :: rest) with
    | none => []
    | some (token, tail) => token :: leadingTokens tail
termination_by text.length
decreasing_by
  have shorter := Token.next?_length _read
  have bound := (List.dropWhile_sublist (p := isSpace) (l := text)).length_le
  rw [_trimmed] at bound
  omega

def tokens? (text : List Char) : Option (List Token) :=
  match _trimmed : text.dropWhile isSpace with
  | [] => some []
  | c :: rest =>
    match _read : Token.next? (c :: rest) with
    | none => none
    | some (token, tail) => (tokens? tail).map (token :: ·)
termination_by text.length
decreasing_by
  have shorter := Token.next?_length _read
  have bound := (List.dropWhile_sublist (p := isSpace) (l := text)).length_le
  rw [_trimmed] at bound
  omega

end Surveyor.Json
