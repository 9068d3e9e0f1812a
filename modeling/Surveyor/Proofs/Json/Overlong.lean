import Mathlib.Algebra.Group.Nat.Defs
import Surveyor.Json.Reader
import Surveyor.Proofs.Json.Spelling

/-! Integers that are refused for their length. A run of digits without a leading zero has as many digits as its value, so
that the reader counts what is written. -/

namespace Surveyor

namespace Numeral

theorem foldl_digits_bounds {base : Nat} {digits : List Nat} (small : ∀ digit ∈ digits, digit < base) (start : Nat) :
    start * base ^ digits.length ≤ digits.foldl (fun n d => n * base + d) start ∧
      digits.foldl (fun n d => n * base + d) start < (start + 1) * base ^ digits.length := by
  induction digits generalizing start with
  | nil => simp
  | cons digit rest ih =>
    obtain ⟨low, high⟩ := ih (fun other member => small other (List.mem_cons_of_mem _ member)) (start * base + digit)
    have fits : start * base + digit + 1 ≤ (start + 1) * base := by
      have bound := small digit List.mem_cons_self
      rw [Nat.add_mul]
      omega
    rw [List.foldl_cons, List.length_cons, Nat.pow_succ', ← Nat.mul_assoc, ← Nat.mul_assoc]
    exact ⟨(Nat.mul_le_mul_right _ (Nat.le_add_right _ _)).trans low, high.trans_le (Nat.mul_le_mul_right _ fits)⟩

/-- A number has as many digits as it is written with, unless a zero leads. -/
theorem length_toDigits_ofDigits {first : Nat} {rest : List Nat} (positive : 0 < first)
    (small : ∀ digit ∈ first :: rest, digit < 10) :
    (Nat.toDigits 10 (ofDigits 10 (first :: rest))).length = rest.length + 1 := by
  have written : ofDigits 10 (first :: rest) = rest.foldl (fun n d => n * 10 + d) first := by
    rw [ofDigits, List.foldl_cons, Nat.zero_mul, Nat.zero_add]
  obtain ⟨low, high⟩ := foldl_digits_bounds (fun digit member => small digit (List.mem_cons_of_mem _ member)) first
  rw [← written] at low high
  have leading : first + 1 ≤ 10 := small first List.mem_cons_self
  have above : 10 ^ rest.length ≤ ofDigits 10 (first :: rest) := (Nat.le_mul_of_pos_left _ positive).trans low
  have below : ofDigits 10 (first :: rest) < 10 ^ (rest.length + 1) := by
    rw [Nat.pow_succ']
    exact high.trans_le (Nat.mul_le_mul_right _ leading)
  refine Nat.le_antisymm ((Nat.length_toDigits_le_iff (by decide) (Nat.succ_pos _)).mpr below) ?_
  cases size : rest.length with
  | zero => exact Nat.length_toDigits_pos
  | succ n =>
    have many : ¬ (Nat.toDigits 10 (ofDigits 10 (first :: rest))).length ≤ n + 1 := by
      rw [Nat.length_toDigits_le_iff (by decide) (Nat.succ_pos n), Nat.not_lt]
      rwa [size] at above
    omega

end Numeral

namespace Json

theorem wholePart_digits {first : Char} {rest : List Char} (digits : ∀ c ∈ first :: rest, c.isDigit = true)
    (filled : first ≠ '0') : wholePart (first :: rest) = first :: rest := by
  rw [wholePart]
  · exact List.takeWhile_eq_self_iff.mpr digits
  · rintro tail ⟨⟩
    exact filled rfl

theorem number?_digits {first : Char} {rest : List Char} (digits : ∀ c ∈ first :: rest, c.isDigit = true)
    (filled : first ≠ '0') :
    number? false (first :: rest) =
      some (.int (Numeral.ofDigits 10 ((first :: rest).map fun c => c.toNat - '0'.toNat)), []) := by
  have whole := wholePart_digits digits filled
  simp [number?, whole, fractionPart, exponentPart]

theorem isSpace_of_isDigit {c : Char} (digit : c.isDigit = true) : isSpace c = false := by
  cases space : isSpace c with
  | false => rfl
  | true => cases (isBlank_of_isSpace space).symm.trans (isBlank_of_scalar (isScalarCharacter_of_isDigit digit))

theorem leadingTokens_digits {first : Char} {rest : List Char} (digits : ∀ c ∈ first :: rest, c.isDigit = true)
    (filled : first ≠ '0') :
    leadingTokens (first :: rest) =
      [.scalar (.int (Numeral.ofDigits 10 ((first :: rest).map fun c => c.toNat - '0'.toNat)))] := by
  have isDigit := digits first List.mem_cons_self
  have trimmed : (first :: rest).dropWhile isSpace = first :: rest :=
    List.dropWhile_cons_of_neg (by simp [isSpace_of_isDigit isDigit])
  have next := Token.next?_number isDigit false rest
  rw [sign, if_neg (by decide), List.nil_append, number?_digits digits filled] at next
  have nothing : leadingTokens [] = [] := by rw [leadingTokens]; rfl
  rw [leadingTokens]
  split
  next empty => simp [trimmed] at empty
  next c more same =>
    rw [trimmed] at same
    cases same
    split
    next none => simp [none] at next
    next token tail found =>
      rw [next] at found
      cases found
      rw [nothing]

theorem isDigit_range {c : Char} (digit : c.isDigit = true) : '0'.toNat ≤ c.toNat ∧ c.toNat < '0'.toNat + 10 := by
  have range : 48 ≤ c.toNat ∧ c.toNat ≤ 57 := by simpa [Char.isDigit, UInt32.le_iff_toNat_le] using digit
  have zero : '0'.toNat = 48 := rfl
  omega

/-- An integer that fills a whole text is refused beyond the limit, by the number of its characters. -/
theorem overlong?_digits {first : Char} {rest : List Char} (digits : ∀ c ∈ first :: rest, c.isDigit = true)
    (filled : first ≠ '0') (long : Numeral.digitLimit < rest.length + 1) :
    overlong? (String.ofList (first :: rest)) = some (rest.length + 1) := by
  have small : ∀ digit ∈ (first :: rest).map fun c => c.toNat - '0'.toNat, digit < 10 := by
    intro digit member
    obtain ⟨c, inside, rfl⟩ := List.mem_map.mp member
    have range := isDigit_range (digits c inside)
    omega
  have positive : 0 < first.toNat - '0'.toNat := by
    have range := isDigit_range (digits first List.mem_cons_self)
    have other : first.toNat ≠ '0'.toNat := fun same => filled (Char.toNat_inj.mp same)
    omega
  have size := Numeral.length_toDigits_ofDigits positive small
  rw [List.length_map] at size
  rw [overlong?, String.toList_ofList, leadingTokens_digits digits filled, List.map_cons]
  simp only [overlongFrom?, step, startValue, Token.overlong?, Int.natAbs_natCast, size, if_pos long]

/-- Such a text is not read at all. -/
theorem read_digits {first : Char} {rest : List Char} (digits : ∀ c ∈ first :: rest, c.isDigit = true)
    (filled : first ≠ '0') (long : Numeral.digitLimit < rest.length + 1) :
    read (String.ofList (first :: rest)) = .error (.longInteger (rest.length + 1)) := by
  rw [read, overlong?_digits digits filled long]

end Json

end Surveyor
