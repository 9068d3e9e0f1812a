import Surveyor.Number.Binary64

/-!
The shortest decimal text that reads back as the same binary number, and of the shortest ones the nearest.
-/
namespace Surveyor

/-- A number of decimal digits and the power of ten that scales it. -/
structure Decimal where
  digits : Nat
  exponent : Int
  deriving DecidableEq, Repr

namespace Decimal

def power (exponent : Int) : Rat :=
  if exponent < 0 then mkRat 1 (Nat.pow 10 exponent.natAbs) else Nat.pow 10 exponent.natAbs

def toRat (d : Decimal) : Rat := d.digits * power d.exponent

/-- The exponent of the leading decimal digit of a positive number. -/
def leading (value : Rat) : Int :=
  let low : Int := (((value.num.natAbs.log2 : Int) - value.den.log2 - 1) * 30103) / 100000 - 1
  ((List.range 4).map fun (step : Nat) => low + step).find? (fun e => value < power (e + 1)) |>.getD (low + 4)

/-- Of the two neighbours with `count` digits, those that read back, the nearer first; a tie goes to the even one. -/
def neighbour? (value : Rat) (count : Nat) : Option Decimal :=
  let exponent := leading value + 1 - count
  let steps := value / power exponent
  let below := steps.floor.natAbs
  let gap := steps - below
  let candidates :=
    if 2 * gap < 1 || (2 * gap = 1 && below % 2 = 0) then [below, below + 1] else [below + 1, below]
  (candidates.map (Decimal.mk · exponent)).find? fun d => Binary64.ofRat d.toRat = .finite false value

/-- Seventeen digits always read back. -/
def shortest (value : Rat) : Decimal :=
  ((List.range' 1 17).findSome? (neighbour? value)).getD ⟨0, 0⟩

end Decimal

/-- The digits without their trailing zeros, and how many were dropped. -/
private def dropZeros (digits : List Char) : List Char × Nat :=
  let kept := (digits.reverse.dropWhile (· == '0')).reverse
  (kept, digits.length - kept.length)

/-- Exponents from -4 to 15 are written out in place, with at least one digit after the point; the others follow an
`e` with a sign and at least two digits. -/
def Decimal.text (d : Decimal) : List Char :=
  let all := Nat.toDigits 10 d.digits
  let (digits, dropped) := dropZeros all
  let point : Int := digits.length + d.exponent + dropped
  if digits.isEmpty then ['0', '.', '0']
  else if -4 < point && point ≤ 16 then
    if point ≤ 0 then ['0', '.'] ++ List.replicate point.natAbs '0' ++ digits
    else
      let whole := digits.take point.toNat
      let fraction := digits.drop point.toNat
      whole ++ List.replicate (point.toNat - whole.length) '0' ++ ['.'] ++
        if fraction.isEmpty then ['0'] else fraction
  else
    let exponent := point - 1
    let size := Nat.toDigits 10 exponent.natAbs
    let fraction := digits.drop 1
    digits.take 1 ++ (if fraction.isEmpty then [] else '.' :: fraction) ++
      ['e', if exponent < 0 then '-' else '+'] ++ List.replicate (2 - size.length) '0' ++ size

def Binary64.text : Binary64 → String
  | nan => "nan"
  | infinite negative => if negative then "-inf" else "inf"
  | finite negative magnitude =>
    let body := if magnitude = 0 then ['0', '.', '0'] else (Decimal.shortest magnitude).text
    String.ofList (if negative then '-' :: body else body)

end Surveyor
