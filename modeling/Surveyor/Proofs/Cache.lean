import Surveyor.Cache

/-! What a cache answers. It gives its value back to the identity that it was stored for, for as long as the time since
then is less than its time to live. -/

namespace Surveyor

namespace Binary64

/-- The number is greater than an exact value. Nothing is less than what is no number. -/
def Exceeds (x : Binary64) (value : Rat) : Prop := x = infinite false ∨ ∃ exact ∈ x.toRat?, value < exact

theorem exceeds_iff {x : Binary64} (number : x ≠ nan) (value : Rat) : x.Exceeds value ↔ x.isAtMost value = false := by
  cases x with
  | nan => exact absurd rfl number
  | infinite negative => cases negative <;> simp [Exceeds, toRat?, isAtMost]
  | finite negative magnitude =>
    rw [isAtMost, decide_eq_false_iff_not, Rat.not_le]
    simp [Exceeds, toRat?]

theorem isAtMost_eq_false_iff {x : Binary64} {value : Rat} : x.isAtMost value = false ↔ x = nan ∨ x.Exceeds value := by
  by_cases number : x = nan
  · simp [number, isAtMost]
  · rw [exceeds_iff number, or_iff_right number]

end Binary64

namespace Cache

variable {α : Type}

theorem get_value (cache : Cache α) (now : Rat) (identity : String) :
    (cache.get now identity).value =
      (cache.entry.filter fun entry => entry.identity == identity && !cache.isExpired now entry).map (·.value) := by
  unfold get
  cases cache.entry with
  | none => rfl
  | some entry =>
    dsimp only
    by_cases same : entry.identity = identity
    · cases expired : cache.isExpired now entry <;> simp [same, expired, Option.filter]
    · simp [same, Option.filter]

theorem get_eq_some_iff {cache : Cache α} (number : cache.timeToLive ≠ .nan) {now : Rat} {identity : String} {value : α} :
    (cache.get now identity).value = some value ↔
      ∃ timestamp, cache.entry = some ⟨value, timestamp, identity⟩ ∧ cache.timeToLive.Exceeds (now - timestamp) := by
  simp only [get_value, Option.map_eq_some_iff, Option.filter_eq_some_iff, Bool.and_eq_true, beq_iff_eq,
    Bool.not_eq_true', isExpired, ← Binary64.exceeds_iff number]
  constructor
  · rintro ⟨entry, ⟨kept, rfl, fresh⟩, rfl⟩
    exact ⟨entry.timestamp, kept, fresh⟩
  · rintro ⟨timestamp, kept, fresh⟩
    exact ⟨_, ⟨kept, rfl, fresh⟩, rfl⟩

end Cache

end Surveyor
