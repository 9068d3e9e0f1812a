import Surveyor.Number.Shortest

/-!
Decimal texts of a magnitude with a wanted number of digits, correctly rounded; a half goes to the even neighbour. The
digits are those of the exact value, however many are wanted.
-/
namespace Surveyor.Decimal

/-- The digits before and after the point, with `places` of them after it. -/
def fixedDigits (places : Nat) (value : Rat) : List Char × List Char :=
  let digits := Nat.toDigits 10 (roundQuotient (value.num.natAbs * Nat.pow 10 places) value.den)
  let padded := List.replicate (places + 1 - digits.length) '0' ++ digits
  (padded.take (padded.length - places), padded.drop (padded.length - places))

/-- The first `count` digits and the exponent of the first of them. Rounding may carry into one more digit. -/
def leadingDigits (count : Nat) (value : Rat) : List Char × Int :=
  if value = 0 then (List.replicate count '0', 0)
  else
    let exponent := leading value
    let digits := Nat.toDigits 10 (roundToInt (value / power (exponent + 1 - count))).natAbs
    (digits.take count, if count < digits.length then exponent + 1 else exponent)

/-- Puts the point between two parts. Without digits after it the point stands only where it is kept. -/
private def pointed (keepsPoint : Bool) (whole fraction : List Char) : List Char :=
  whole ++ if fraction.isEmpty && !keepsPoint then [] else '.' :: fraction

/-- An exponent with its letter, its sign and at least two digits. -/
private def exponentText (exponent : Int) : List Char :=
  let size := Nat.toDigits 10 exponent.natAbs
  ['e', if exponent < 0 then '-' else '+'] ++ List.replicate (2 - size.length) '0' ++ size

private def dropZerosAtEnd (digits : List Char) : List Char := (digits.reverse.dropWhile (· == '0')).reverse

/-- The text with `places` digits after the point. -/
def fixedText (keepsPoint : Bool) (places : Nat) (value : Rat) : List Char :=
  let (whole, fraction) := fixedDigits places value
  pointed keepsPoint whole fraction

/-- The text with one digit before the point, `places` digits after it, and an exponent. -/
def scientificText (keepsPoint : Bool) (places : Nat) (value : Rat) : List Char :=
  let (digits, exponent) := leadingDigits (places + 1) value
  pointed keepsPoint (digits.take 1) (digits.drop 1) ++ exponentText exponent

/-- The text with `count` digits in all, at least one. It has an exponent when the number is below `10 ^ -4` or needs
more digits before its point; zeros at its end are left out with the point, unless the point is kept. -/
def generalText (keepsPoint : Bool) (count : Nat) (value : Rat) : List Char :=
  let count := max count 1
  let (digits, exponent) := leadingDigits count value
  let ended := fun fraction => if keepsPoint then fraction else dropZerosAtEnd fraction
  if exponent < -4 || (count : Int) ≤ exponent then
    pointed keepsPoint (digits.take 1) (ended (digits.drop 1)) ++ exponentText exponent
  else if exponent < 0 then
    pointed keepsPoint ['0'] (ended (List.replicate (exponent.natAbs - 1) '0' ++ digits))
  else pointed keepsPoint (digits.take (exponent.natAbs + 1)) (ended (digits.drop (exponent.natAbs + 1)))

end Surveyor.Decimal
