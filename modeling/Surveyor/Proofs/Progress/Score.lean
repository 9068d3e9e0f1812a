import Mathlib.Order.Lattice
import Surveyor.Progress.Score
import Surveyor.Proofs.Number.Rounding

/-! Scores and stages keep the order of what they are read off: points that grow never lower a score, and a score that
grows never lowers a stage. Points are whole numbers of any size or real numbers; a half goes to the even neighbour. -/

namespace Surveyor

namespace Score

theorem clamp_eq (points : Int) : (clamp points : Int) = max 0 (min 100 points) := by
  unfold clamp highest
  omega

theorem clamp_mono {fewer more : Int} (grown : fewer ≤ more) : clamp fewer ≤ clamp more := by
  unfold clamp
  omega

theorem clamp_natCast {points : Nat} (within : points ≤ 100) : clamp points = points := by
  unfold clamp highest
  omega

theorem clampReal_eq {points : Binary64} {value : Rat} (finite : points.toRat? = some value) :
    clampReal points = .ok (clamp (roundToInt value)) := by
  cases points with
  | nan | infinite => cases finite
  | finite negative magnitude =>
    obtain rfl := Option.some.inj finite
    rfl

end Score

namespace Stage

def all : List Stage := [backlog, todo, doing, review, done]

def rank (stage : Stage) : Nat := all.idxOf stage

theorem ofScore_eq (score : Int) : ofScore score =
    if 90 ≤ score then done else if 60 ≤ score then review else if 20 ≤ score then doing
    else if 1 ≤ score then todo else backlog := by
  by_cases finished : 90 ≤ score
  · simp [ofScore, thresholds, finished]
  by_cases reviewed : 60 ≤ score
  · simp [ofScore, thresholds, finished, reviewed]
  by_cases begun : 20 ≤ score
  · simp [ofScore, thresholds, finished, reviewed, begun]
  by_cases planned : 1 ≤ score <;> simp [ofScore, thresholds, finished, reviewed, begun, planned]

/-- Each stage is a range of scores. -/
structure Spans (stage : Stage) (score : Int) : Prop where
  done : stage = done ↔ 90 ≤ score
  review : stage = review ↔ 60 ≤ score ∧ score ≤ 89
  doing : stage = doing ↔ 20 ≤ score ∧ score ≤ 59
  todo : stage = todo ↔ 1 ≤ score ∧ score ≤ 19
  backlog : stage = backlog ↔ score ≤ 0

theorem ofScore_spans (score : Int) : (ofScore score).Spans score := by
  rw [ofScore_eq]
  constructor <;> split_ifs <;> simp <;> omega

theorem rank_ofScore_mono {lower higher : Int} (grown : lower ≤ higher) :
    (ofScore lower).rank ≤ (ofScore higher).rank := by
  rw [ofScore_eq, ofScore_eq]
  split_ifs <;> first | decide | omega

end Stage

/-! ## Points of either kind -/

inductive Points where
  | whole (points : Int)
  | real (points : Binary64)

namespace Points
open Score (Unroundable)

/-- The exact value of points that are finite. -/
def value? : Points → Option Rat
  | whole points => some points
  | real points => points.toRat?

def score : Points → Except Unroundable Nat
  | whole points => .ok (Score.clamp points)
  | real points => Score.clampReal points

/-- The nearest whole number, of two that are as near the even one, or the end of the range that it is beyond. -/
def Nearest (value : Rat) (score : Nat) : Prop :=
  ∃ whole, NearestEven value whole ∧ (score : Int) = max 0 (min 100 whole)

theorem Nearest.mono {lower higher : Rat} {first second : Nat} (one : Nearest lower first) (other : Nearest higher second)
    (grown : lower ≤ higher) : first ≤ second := by
  obtain ⟨low, nearLow, first_eq⟩ := one
  obtain ⟨high, nearHigh, second_eq⟩ := other
  have ordered := nearLow.mono nearHigh grown
  omega

theorem Nearest.within {value : Rat} {score : Nat} (nearest : Nearest value score) : score ≤ 100 := by
  obtain ⟨whole, -, score_eq⟩ := nearest
  omega

/-- Finite points have a score, and one that depends on their value alone. -/
theorem exists_score {points : Points} {value : Rat} (finite : points.value? = some value) :
    ∃ score, points.score = .ok score ∧ Nearest value score := by
  have nearest : Nearest value (Score.clamp (roundToInt value)) := ⟨_, roundToInt_nearest value, Score.clamp_eq _⟩
  refine ⟨_, ?_, nearest⟩
  cases points with
  | whole points =>
    obtain rfl := Option.some.inj finite
    rw [score, roundToInt_intCast]
  | real points => exact Score.clampReal_eq finite

/-- Any two finite numbers of points have scores, and the greater one has neither the lower score nor the lower stage. The
scores are in the range, and a whole number in the range is its own score. -/
theorem score_ordered {fewer more : Points} {low high : Rat} (least : fewer.value? = some low)
    (most : more.value? = some high) (grown : low ≤ high) :
    ∃ lower higher : Nat, (fewer.score = .ok lower ∧ Nearest low lower) ∧ (more.score = .ok higher ∧ Nearest high higher) ∧
      lower ≤ higher ∧ higher ≤ 100 ∧ (Stage.ofScore lower).rank ≤ (Stage.ofScore higher).rank ∧
      ∀ points : Nat, points ≤ 100 → (whole points).score = .ok points := by
  obtain ⟨lower, scoredLow, nearLow⟩ := exists_score least
  obtain ⟨higher, scoredHigh, nearHigh⟩ := exists_score most
  have ordered := nearLow.mono nearHigh grown
  have staged := Stage.rank_ofScore_mono (Int.ofNat_le.mpr ordered)
  refine ⟨lower, higher, ⟨scoredLow, nearLow⟩, ⟨scoredHigh, nearHigh⟩, ordered, nearHigh.within, staged, ?_⟩
  intro points within
  rw [score, Score.clamp_natCast within]

/-- Of two halves, one goes down and the other one up. -/
theorem score_ordered_halves :
    let fewer := real (.finite false (121 / 2))
    let more := real (.finite false (179 / 2))
    fewer.value? = some (121 / 2) ∧ more.value? = some (179 / 2) ∧ (121 / 2 : Rat) ≤ 179 / 2 ∧
      ∃ lower higher : Nat, fewer.score = .ok lower ∧ more.score = .ok higher ∧ lower = 60 ∧ higher = 90 ∧
        (Stage.ofScore lower).rank ≤ (Stage.ofScore higher).rank := by
  intro fewer more
  have grown : (121 / 2 : Rat) ≤ 179 / 2 := by norm_num
  obtain ⟨lower, higher, ⟨scoredLow, -⟩, ⟨scoredHigh, -⟩, -, -, staged, -⟩ := @score_ordered fewer more _ _ rfl rfl grown
  have down : fewer.score = .ok 60 := by decide +kernel
  have up : more.score = .ok 90 := by decide +kernel
  have low := Except.ok.inj (scoredLow.symm.trans down)
  have high := Except.ok.inj (scoredHigh.symm.trans up)
  exact ⟨rfl, rfl, grown, lower, higher, scoredLow, scoredHigh, low, high, staged⟩

end Points

/-- Neither the score nor the stage of the second assessment is lower. -/
structure Assessment.AtMost (first second : Assessment) : Prop where
  score : first.score ≤ second.score
  stage : first.stage.rank ≤ second.stage.rank

end Surveyor
