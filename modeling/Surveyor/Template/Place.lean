import Surveyor.Number.Numeral

/-!
Templates: texts with places for values. A place is a percent sign, a name in parentheses if the value is looked up,
marks, a width, a precision behind a point, and the letter that says how the value is written. The length marks of
older templates may stand before the letter and mean nothing. Two percent signs in a row are one in the text.
-/
namespace Surveyor.Template

inductive Conversion where
  | shown
  | quoted
  /-- Quoted with nothing but ASCII. -/
  | escaped
  | character
  | decimal
  | octal
  | hexadecimal (capital : Bool)
  | fixed (capital : Bool)
  | scientific (capital : Bool)
  | general (capital : Bool)
  deriving DecidableEq, Repr

def Conversion.ofLetter? : Char → Option Conversion
  | 's' => some shown
  | 'r' => some quoted
  | 'a' => some escaped
  | 'c' => some character
  | 'd' | 'i' | 'u' => some decimal
  | 'o' => some octal
  | 'x' => some (hexadecimal false)
  | 'X' => some (hexadecimal true)
  | 'f' => some (fixed false)
  | 'F' => some (fixed true)
  | 'e' => some (scientific false)
  | 'E' => some (scientific true)
  | 'g' => some (general false)
  | 'G' => some (general true)
  | _ => none

inductive Extent where
  | absent
  | given (size : Nat)
  /-- The next value says it. -/
  | taken
  deriving DecidableEq, Repr

structure Place where
  /-- The name under which the value is looked up. -/
  name : Option String := none
  /-- The marks between the name and the width. -/
  marks : List Char := []
  width : Extent := .absent
  precision : Extent := .absent
  conversion : Conversion
  deriving DecidableEq, Repr

inductive Piece where
  | character (c : Char)
  | place (place : Place)
  deriving DecidableEq, Repr

def isMark (c : Char) : Bool := ['-', '+', ' ', '#', '0'].contains c

/-- Reads a name up to the parenthesis that closes it; `depth` more are open. -/
private def nameFrom (depth : Nat) : List Char → Option (List Char × List Char)
  | [] => none
  | c :: rest =>
    let more := fun depth => (nameFrom depth rest).map fun (name, tail) => (c :: name, tail)
    if c == '(' then more (depth + 1)
    else if c == ')' then if depth = 0 then some ([], rest) else more (depth - 1)
    else more depth

private def name? : List Char → Option (Option String × List Char)
  | '(' :: rest => (nameFrom 0 rest).map fun (name, tail) => (some (String.ofList name), tail)
  | text => some (none, text)

private def extent : List Char → Extent × List Char
  | '*' :: rest => (.taken, rest)
  | text =>
    let digits := text.takeWhile Char.isDigit
    let size := Numeral.ofDigits 10 (digits.map fun d => d.toNat - '0'.toNat)
    (if digits.isEmpty then .absent else .given size, text.dropWhile Char.isDigit)

/-- A point without digits asks for none. -/
private def precision : List Char → Extent × List Char
  | '.' :: rest =>
    match extent rest with
    | (.absent, tail) => (.given 0, tail)
    | found => found
  | text => (.absent, text)

private def isLengthMark (c : Char) : Bool := c == 'h' || c == 'l' || c == 'L'

private def skipLengthMark : List Char → List Char
  | c :: rest => if isLengthMark c then rest else c :: rest
  | [] => []

def place? (text : List Char) : Option (Place × List Char) := do
  let (name, text) ← name? text
  let marks := text.takeWhile isMark
  let (width, text) := extent (text.dropWhile isMark)
  let (precision, text) := precision text
  match skipLengthMark text with
  | letter :: rest =>
    (Conversion.ofLetter? letter).map fun conversion => ({ name, marks, width, precision, conversion }, rest)
  | [] => none

private theorem nameFrom_length {depth : Nat} {text name tail : List Char}
    (found : nameFrom depth text = some (name, tail)) : tail.length ≤ text.length := by
  induction text generalizing depth name tail with
  | nil => simp [nameFrom] at found
  | cons c rest ih =>
    have more : ∀ depth, ((nameFrom depth rest).map fun (name, tail) => (c :: name, tail)) = some (name, tail) →
        tail.length ≤ (c :: rest).length := by
      intro depth same
      obtain ⟨⟨inner, last⟩, read, same⟩ := Option.map_eq_some_iff.1 same
      simp only [Prod.mk.injEq] at same
      have bound := ih read
      rw [← same.2, List.length_cons]
      omega
    simp only [nameFrom] at found
    split at found
    · exact more _ found
    · split at found
      · split at found
        · simp only [Option.some.injEq, Prod.mk.injEq] at found
          simp [← found.2]
        · exact more _ found
      · exact more _ found

private theorem name?_length {text tail : List Char} {name : Option String}
    (found : name? text = some (name, tail)) : tail.length ≤ text.length := by
  unfold name? at found
  split at found
  · obtain ⟨⟨inner, last⟩, read, same⟩ := Option.map_eq_some_iff.1 found
    have bound := nameFrom_length read
    simp only [Prod.mk.injEq] at same
    rw [← same.2, List.length_cons]
    omega
  · simp only [Option.some.injEq, Prod.mk.injEq] at found
    simp [found.2]

private theorem extent_length (text : List Char) : (extent text).2.length ≤ text.length := by
  unfold extent
  split
  · simp
  · exact (List.dropWhile_sublist _).length_le

private theorem precision_length (text : List Char) : (precision text).2.length ≤ text.length := by
  unfold precision
  split
  · rename_i rest
    have bound := extent_length rest
    split
    · rename_i same
      rw [same] at bound
      simp only [List.length_cons] at bound ⊢
      omega
    · simp only [List.length_cons]
      omega
  · simp

private theorem skipLengthMark_length (text : List Char) : (skipLengthMark text).length ≤ text.length := by
  unfold skipLengthMark
  split
  · split <;> simp
  · simp

theorem place?_length {text tail : List Char} {place : Place} (found : place? text = some (place, tail)) :
    tail.length < text.length := by
  simp only [place?, Option.bind_eq_bind, Option.bind_eq_some_iff] at found
  obtain ⟨⟨name, afterName⟩, named, found⟩ := found
  have first := name?_length named
  have second := (List.dropWhile_sublist (p := isMark) (l := afterName)).length_le
  have third := extent_length (afterName.dropWhile isMark)
  have fourth := precision_length (extent (afterName.dropWhile isMark)).2
  have fifth := skipLengthMark_length (precision (extent (afterName.dropWhile isMark)).2).2
  split at found
  · rename_i letter rest same
    obtain ⟨conversion, _, same'⟩ := Option.map_eq_some_iff.1 found
    simp only [Prod.mk.injEq] at same'
    have bound := congrArg List.length same
    simp only [List.length_cons] at bound
    rw [← same'.2]
    omega
  · simp at found

def parse? : List Char → Option (List Piece)
  | [] => some []
  | '%' :: '%' :: rest => (parse? rest).map (.character '%' :: ·)
  | '%' :: rest =>
    match _found : place? rest with
    | some (place, tail) => (parse? tail).map (.place place :: ·)
    | none => none
  | c :: rest => (parse? rest).map (.character c :: ·)
termination_by text => text.length
decreasing_by
  all_goals simp only [List.length_cons]
  all_goals first
    | omega
    | exact Nat.lt_succ_of_lt (place?_length _found)

end Surveyor.Template
