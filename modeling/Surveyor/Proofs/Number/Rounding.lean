import Mathlib.Algebra.Order.Field.Rat
import Mathlib.Algebra.Order.Group.Abs
import Mathlib.Data.Rat.Lemmas
import Mathlib.Tactic.Linarith
import Mathlib.Tactic.NormNum
import Mathlib.Tactic.Positivity
import Mathlib.Tactic.Ring
import Surveyor.Number.Binary64

/-! Rounding does not leave a bound that is a small whole number: a quotient up to it has a nearest number up to it. The whole
number that a value is rounded to is the nearest one, and of two that are as near the even one, and it keeps the order of
values. -/

namespace Surveyor

theorem roundQuotient_le {numerator denominator bound : Nat} (positive : 0 < denominator)
    (bounded : numerator ≤ bound * denominator) : roundQuotient numerator denominator ≤ bound := by
  have split := Nat.div_add_mod numerator denominator
  have below : numerator / denominator ≤ bound := Nat.div_le_of_le_mul (by rwa [Nat.mul_comm])
  unfold roundQuotient
  rcases Nat.lt_or_eq_of_le below with less | equal
  · dsimp only
    split
    · exact below
    · split <;> omega
  · -- Nothing remains of a quotient that reaches the bound.
    have whole : numerator % denominator = 0 := by
      rw [equal, Nat.mul_comm] at split
      omega
    simp [whole, positive, below]

private theorem natAbs_num_le {value : Rat} {bound : Nat} (positive : 0 ≤ value) (bounded : value ≤ bound) :
    value.num.natAbs ≤ bound * value.den := by
  have numerator : value.num ≤ bound * value.den := by
    have spread := mul_le_mul_of_nonneg_right bounded (Nat.cast_nonneg value.den : (0 : Rat) ≤ value.den)
    rw [Rat.mul_den_eq_num] at spread
    exact_mod_cast spread
  have sign := Rat.num_nonneg.mpr positive
  omega

namespace Binary64

private theorem lastPlace_neg {numerator denominator bound : Nat} (present : numerator ≠ 0)
    (bounded : numerator ≤ bound * denominator) (small : bound < 2 ^ 50) : lastPlace numerator denominator < 0 := by
  have guess : numerator.log2 < denominator.log2 + 51 := by
    apply (Nat.log2_lt present).mpr
    calc numerator ≤ bound * denominator := bounded
      _ ≤ 2 ^ 50 * denominator := Nat.mul_le_mul_right _ small.le
      _ < 2 ^ 50 * 2 ^ (denominator.log2 + 1) := by
        apply Nat.mul_lt_mul_of_pos_left Nat.lt_log2_self (by positivity)
      _ = 2 ^ (denominator.log2 + 51) := by rw [← Nat.pow_add]; congr 1; omega
  simp only [lastPlace]
  split <;> omega

theorem round_bounded {numerator denominator bound : Nat} (negative : Bool) (positive : 0 < denominator)
    (bounded : numerator ≤ bound * denominator) (small : bound < 2 ^ 50) :
    ∃ magnitude : Rat, round negative numerator denominator = finite negative magnitude ∧ 0 ≤ magnitude ∧
      magnitude ≤ bound := by
  unfold round
  by_cases absent : numerator = 0
  · refine ⟨0, by rw [if_pos absent], le_refl _, ?_⟩
    exact Nat.cast_nonneg bound
  · have place := lastPlace_neg absent bounded small
    rw [if_neg absent]
    simp only [if_pos place, scaled]
    generalize (lastPlace numerator denominator).natAbs = places
    have mantissa : roundQuotient (numerator * Nat.pow 2 places) denominator ≤ bound * 2 ^ places := by
      apply roundQuotient_le positive
      calc numerator * 2 ^ places ≤ bound * denominator * 2 ^ places := Nat.mul_le_mul_right _ bounded
        _ = bound * 2 ^ places * denominator := Nat.mul_right_comm _ _ _
    generalize roundQuotient (numerator * Nat.pow 2 places) denominator = size at mantissa ⊢
    have scale : (0 : Rat) < (Nat.pow 2 places : Nat) := Nat.cast_pos.mpr (Nat.pow_pos (by decide))
    have reaches : mkRat size (Nat.pow 2 places) ≤ bound := by
      rw [Rat.mkRat_eq_div, div_le_iff₀ scale]
      exact_mod_cast mantissa
    generalize highest : 1024 = exponent
    have finite : ¬ ((Nat.pow 2 exponent : Nat) : Rat) ≤ mkRat size (Nat.pow 2 places) := by
      intro huge
      have large : Nat.pow 2 exponent ≤ bound := by exact_mod_cast huge.trans reaches
      have least : 2 ^ 50 ≤ Nat.pow 2 exponent := Nat.pow_le_pow_right (by decide) (by omega)
      exact absurd small (Nat.not_lt.mpr (least.trans large))
    refine ⟨mkRat size (Nat.pow 2 places), if_neg finite, ?_, reaches⟩
    rw [Rat.mkRat_eq_div]
    exact div_nonneg (Nat.cast_nonneg size) scale.le

theorem ofRat_bounded {value : Rat} {bound : Nat} (positive : 0 ≤ value) (bounded : value ≤ bound)
    (small : bound < 2 ^ 50) :
    ∃ magnitude : Rat, ofRat value = finite false magnitude ∧ 0 ≤ magnitude ∧ magnitude ≤ bound := by
  have sign : ¬ value.num < 0 := not_lt.mpr (Rat.num_nonneg.mpr positive)
  simp only [ofRat, sign, decide_false]
  exact round_bounded false value.den_pos (natAbs_num_le positive bounded) small

theorem mul_bounded {first second : Rat} {bound : Nat} (positive : 0 ≤ first * second)
    (bounded : first * second ≤ bound) (small : bound < 2 ^ 50) :
    ∃ magnitude : Rat, mul (finite false first) (finite false second) = finite false magnitude ∧ 0 ≤ magnitude ∧
      magnitude ≤ bound :=
  round_bounded false (first * second).den_pos (natAbs_num_le positive bounded) small

end Binary64

theorem roundToInt_bounded {value : Rat} {bound : Nat} (positive : 0 ≤ value) (bounded : value ≤ bound) :
    0 ≤ roundToInt value ∧ roundToInt value ≤ bound := by
  have sign : ¬ value.num < 0 := not_lt.mpr (Rat.num_nonneg.mpr positive)
  have size := roundQuotient_le value.den_pos (natAbs_num_le positive bounded)
  simp only [roundToInt, sign, ite_false]
  omega

/-- No whole number is nearer to the value, and of two that are as near it is the even one. -/
structure NearestEven (value : Rat) (whole : Int) : Prop where
  near : |value - whole| ≤ 1 / 2
  even : |value - whole| = 1 / 2 → Even whole

/-- How far a quotient is from the nearest natural number, without a division. -/
private theorem roundQuotient_near (numerator : Nat) {denominator : Nat} (positive : 0 < denominator) :
    let reached := roundQuotient numerator denominator * denominator
    (2 * numerator ≤ 2 * reached + denominator ∧ 2 * reached ≤ 2 * numerator + denominator) ∧
      (2 * numerator = 2 * reached + denominator ∨ 2 * reached = 2 * numerator + denominator →
        roundQuotient numerator denominator % 2 = 0) := by
  have split := Nat.div_add_mod numerator denominator
  have small := Nat.mod_lt numerator positive
  have whole : roundQuotient numerator denominator = numerator / denominator ∧
        2 * (numerator % denominator) < denominator ∨
      roundQuotient numerator denominator = numerator / denominator + 1 ∧
        denominator < 2 * (numerator % denominator) ∨
      roundQuotient numerator denominator = numerator / denominator + numerator / denominator % 2 ∧
        2 * (numerator % denominator) = denominator := by
    rw [roundQuotient]
    split
    next low => exact .inl ⟨rfl, low⟩
    next low =>
      split
      next high => exact .inr (.inl ⟨rfl, high⟩)
      next high => exact .inr (.inr ⟨rfl, by omega⟩)
  generalize roundQuotient numerator denominator = rounded at whole ⊢
  generalize numerator / denominator = below at split whole
  rw [Nat.mul_comm] at split
  rcases whole with ⟨rfl, low⟩ | ⟨rfl, high⟩ | ⟨rfl, tie⟩
  · omega
  · rw [Nat.add_mul]
    omega
  · rcases Nat.mod_two_eq_zero_or_one below with even | odd
    · rw [even, Nat.add_zero]
      omega
    · rw [odd, Nat.add_mul]
      omega

private theorem abs_sub_roundToInt (value : Rat) :
    |value - roundToInt value| * value.den =
      |(value.num.natAbs : Int) - (roundQuotient value.num.natAbs value.den * value.den : Nat)| := by
  have scale : (0 : Rat) ≤ value.den := Nat.cast_nonneg value.den
  have spread : |value - roundToInt value| * value.den = |value.num - roundToInt value * (value.den : Int)| :=
    calc |value - roundToInt value| * value.den = |(value - roundToInt value) * value.den| := by
          rw [abs_mul, abs_of_nonneg scale]
      _ = |value.num - roundToInt value * (value.den : Int)| := by
          rw [sub_mul, Rat.mul_den_eq_num]
          push_cast
          rfl
  rw [spread, Int.cast_inj, roundToInt]
  by_cases negative : value.num < 0
  · rw [if_pos negative, ← abs_neg]
    congr 1
    push_cast
    rw [abs_of_neg negative]
    ring
  · rw [if_neg negative]
    congr 1
    push_cast
    rw [abs_of_nonneg (not_lt.mp negative)]

theorem roundToInt_nearest (value : Rat) : NearestEven value (roundToInt value) := by
  obtain ⟨⟨above, below⟩, tied⟩ := roundQuotient_near value.num.natAbs value.den_pos
  have spread := abs_sub_roundToInt value
  have scale : (0 : Rat) < value.den := Nat.cast_pos.mpr value.den_pos
  have gap := abs_cases ((value.num.natAbs : Int) - (roundQuotient value.num.natAbs value.den * value.den : Nat))
  generalize |(value.num.natAbs : Int) - (roundQuotient value.num.natAbs value.den * value.den : Nat)| = size at spread gap
  constructor
  case near =>
    have small : 2 * size ≤ value.den := by omega
    have small : 2 * (size : Rat) ≤ value.den := by exact_mod_cast small
    refine le_of_mul_le_mul_right ?_ scale
    linarith
  case even =>
    intro half
    rw [half] at spread
    have exactly : (2 * size : Rat) = value.den := by linarith
    have exactly : 2 * size = value.den := by exact_mod_cast exactly
    have even : roundQuotient value.num.natAbs value.den % 2 = 0 := tied (by omega)
    rw [roundToInt, Int.even_iff]
    split <;> omega

/-- Two neighbours are as near only in the middle between them, and one of them is odd. -/
private theorem NearestEven.not_succ {value : Rat} {whole : Int} (one : NearestEven value whole)
    (other : NearestEven value (whole + 1)) : False := by
  have low := (abs_le.mp one.near).2
  have high := (abs_le.mp other.near).1
  push_cast at high
  have middle : value = whole + 1 / 2 := by linarith
  have even := one.even (by rw [middle, add_sub_cancel_left]; norm_num)
  have odd := other.even (by rw [middle]; push_cast; norm_num)
  rw [Int.even_iff] at even odd
  omega

/-- A value that grows is never rounded to less, not even from one middle to the next. -/
theorem NearestEven.mono {lower higher : Rat} {first second : Int} (one : NearestEven lower first)
    (other : NearestEven higher second) (grown : lower ≤ higher) : first ≤ second := by
  have low := (abs_le.mp one.near).1
  have high := (abs_le.mp other.near).2
  have within : (first : Rat) ≤ (second + 1 : Int) := by push_cast; linarith
  rw [Int.cast_le] at within
  rcases (by omega : first ≤ second ∨ first = second + 1) with ordered | rfl
  · exact ordered
  · -- Both values are in the middle, so they are one value that is rounded to both neighbours.
    push_cast at low
    have same : lower = higher := le_antisymm grown (by linarith)
    exact (other.not_succ (same ▸ one)).elim

theorem NearestEven.unique {value : Rat} {first second : Int} (one : NearestEven value first)
    (other : NearestEven value second) : first = second :=
  le_antisymm (one.mono other (le_refl value)) (other.mono one (le_refl value))

theorem nearestEven_intCast (whole : Int) : NearestEven whole whole where
  near := by simp
  even half := by norm_num at half

@[simp] theorem roundToInt_intCast (whole : Int) : roundToInt whole = whole :=
  (roundToInt_nearest _).unique (nearestEven_intCast whole)

end Surveyor
