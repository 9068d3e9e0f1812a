/-!
Binary floating point of 64 bits, held as exact values. A finite number keeps its sign apart from its magnitude, so
that both zeros exist, and the magnitude is a rational number; arithmetic is exact and then rounded to the nearest
representable value, ties to the even one.
-/
namespace Surveyor

/-- The nearest natural number to a quotient; a tie goes to the even neighbour. -/
def roundQuotient (numerator denominator : Nat) : Nat :=
  let whole := numerator / denominator
  let double := 2 * (numerator % denominator)
  if double < denominator then whole
  else if denominator < double then whole + 1
  else whole + whole % 2

/-- The nearest integer; a tie goes to the even neighbour. -/
def roundToInt (value : Rat) : Int :=
  let size : Int := roundQuotient value.num.natAbs value.den
  if value.num < 0 then -size else size

inductive Binary64 where
  | nan
  | infinite (negative : Bool)
  | finite (negative : Bool) (magnitude : Rat)
  deriving DecidableEq, Repr

namespace Binary64

def scaled (mantissa : Nat) (exponent : Int) : Rat :=
  if exponent < 0 then mkRat mantissa (Nat.pow 2 exponent.natAbs) else (mantissa * Nat.pow 2 exponent.natAbs : Nat)

/-- The exponent of the last place of a positive quotient: 53 binary places, and none below `2 ^ -1074`. -/
def lastPlace (numerator denominator : Nat) : Int :=
  let guess : Int := (numerator.log2 : Int) - denominator.log2 - 52
  let below := mkRat numerator denominator < scaled (Nat.pow 2 52) guess
  max (if below then guess - 1 else guess) (-1074)

/-- The nearest number to a quotient. At `2 ^ 1024` and above it is infinite. -/
def round (negative : Bool) (numerator denominator : Nat) : Binary64 :=
  if numerator = 0 then finite negative 0
  else
    let place := lastPlace numerator denominator
    let mantissa :=
      if place < 0 then roundQuotient (numerator * Nat.pow 2 place.natAbs) denominator
      else roundQuotient numerator (denominator * Nat.pow 2 place.natAbs)
    let magnitude := scaled mantissa place
    if Nat.pow 2 1024 ≤ magnitude then infinite negative else finite negative magnitude

def ofRat (value : Rat) : Binary64 := round (value.num < 0) value.num.natAbs value.den

def ofInt (value : Int) : Binary64 := round (value < 0) value.natAbs 1

/-- The nearest number to `digits * 10 ^ exponent`. Exponents far outside the range are settled without the power. -/
def ofDecimal (negative : Bool) (digits : Nat) (exponent : Int) : Binary64 :=
  if digits = 0 then finite negative 0
  else if 400 < exponent then infinite negative
  else if exponent < -(401 + digits.log2 : Int) then finite negative 0
  else if exponent < 0 then round negative digits (Nat.pow 10 exponent.natAbs)
  else round negative (digits * Nat.pow 10 exponent.natAbs) 1

/-- The value of a finite number. -/
def toRat? : Binary64 → Option Rat
  | finite negative magnitude => some (if negative then -magnitude else magnitude)
  | _ => none

def isInfinite : Binary64 → Bool
  | infinite _ => true
  | _ => false

def negate : Binary64 → Binary64
  | nan => nan
  | infinite negative => infinite !negative
  | finite negative magnitude => finite (!negative) magnitude

/-- The order of numbers, in which nothing compares with `nan` and both zeros are equal. -/
def le : Binary64 → Binary64 → Bool
  | nan, _ | _, nan => false
  | infinite negative, infinite other => negative || !other
  | infinite negative, finite .. => negative
  | finite .., infinite negative => !negative
  | finite s a, finite t b => (if s then -a else a) ≤ (if t then -b else b)

def isAtMost (x : Binary64) (value : Rat) : Bool :=
  match x with
  | nan => false
  | infinite negative => negative
  | finite negative magnitude => (if negative then -magnitude else magnitude) ≤ value

def add : Binary64 → Binary64 → Binary64
  | nan, _ | _, nan => nan
  | infinite s, infinite t => if s == t then infinite s else nan
  | infinite s, finite .. | finite .., infinite s => infinite s
  | finite s a, finite t b =>
    let sum := (if s then -a else a) + (if t then -b else b)
    if sum = 0 then finite (s && t) 0 else ofRat sum

def mul : Binary64 → Binary64 → Binary64
  | nan, _ | _, nan => nan
  | infinite s, infinite t => infinite (s != t)
  | infinite s, finite t a | finite t a, infinite s => if a = 0 then nan else infinite (s != t)
  | finite s a, finite t b => round (s != t) (a * b).num.natAbs (a * b).den

/-- The sign, the biased exponent and the fraction in one word of 64 bits. -/
def bits (x : Binary64) : Nat :=
  match x with
  | nan => 0x7ff8000000000000
  | infinite negative => sign negative + 0x7ff0000000000000
  | finite negative magnitude =>
    if magnitude = 0 then sign negative
    else
      let place := lastPlace magnitude.num.natAbs magnitude.den
      let mantissa := (magnitude / scaled 1 place).num.natAbs
      if mantissa < Nat.pow 2 52 then sign negative + mantissa
      else sign negative + (place + 1075).toNat * Nat.pow 2 52 + (mantissa - Nat.pow 2 52)
where
  sign (negative : Bool) : Nat := if negative then Nat.pow 2 63 else 0

end Binary64

end Surveyor
