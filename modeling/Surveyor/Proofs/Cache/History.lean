import Surveyor.Proofs.Cache
import Surveyor.Proofs.Sequence

/-! Histories of a cache. Whatever has happened to it, it holds the value of the last storing, unless an invalidation has
followed. Asking changes nothing, so that a miss, for another identity or after the time to live, can be followed by a
hit. -/

namespace Surveyor.Cache

/-- What happens to a cache and to its clock. -/
inductive Event (α : Type) where
  /-- The clock shows another time, which may be an earlier one. -/
  | tick (now : Rat)
  | adjust (timeToLive : Binary64)
  | store (identity : String) (value : α)
  | invalidate
  | get (identity : String)

namespace Event

variable {α : Type}

/-- Whether what the cache holds is replaced, by a value or by nothing. -/
def replaces : Event α → Bool
  | store .. | invalidate => true
  | tick _ | adjust _ | get _ => false

def asks : Event α → Bool
  | get _ => true
  | tick _ | adjust _ | store .. | invalidate => false

end Event

/-- A cache with the time that its clock shows. -/
structure Timed (α : Type) where
  cache : Cache α
  now : Rat

namespace Timed

variable {α : Type}

def answer (timed : Timed α) (identity : String) : Option α := (timed.cache.get timed.now identity).value

def step (timed : Timed α) : Event α → Timed α
  | .tick now => { timed with now }
  | .adjust timeToLive => { timed with cache := { timed.cache with timeToLive } }
  | .store identity value => { timed with cache := timed.cache.store timed.now identity value }
  | .invalidate => { timed with cache := timed.cache.invalidate }
  | .get _ => timed

def run (timed : Timed α) (events : List (Event α)) : Timed α := events.foldl step timed

/-- What the cache answers each time that it is asked, in order. -/
def answers (timed : Timed α) : List (Event α) → List (Option α)
  | [] => []
  | .get identity :: rest => timed.answer identity :: timed.answers rest
  | event :: rest => (timed.step event).answers rest

theorem answer_eq_some_iff {timed : Timed α} {identity : String} {value : α} :
    timed.answer identity = some value ↔ ∃ timestamp, timed.cache.entry = some ⟨value, timestamp, identity⟩ ∧
      (timed.cache.timeToLive = .nan ∨ timed.cache.timeToLive.Exceeds (timed.now - timestamp)) := by
  simp only [answer, get_value, Option.map_eq_some_iff, Option.filter_eq_some_iff, Bool.and_eq_true, beq_iff_eq,
    Bool.not_eq_true', isExpired, Binary64.isAtMost_eq_false_iff]
  constructor
  · rintro ⟨entry, ⟨kept, rfl, fresh⟩, rfl⟩
    exact ⟨entry.timestamp, kept, fresh⟩
  · rintro ⟨timestamp, kept, fresh⟩
    exact ⟨_, ⟨kept, rfl, fresh⟩, rfl⟩

/-- What the cache holds after an event was stored by it, or was there and is not replaced. -/
theorem step_entry {timed : Timed α} {event : Event α} {entry : CacheEntry α} :
    (timed.step event).cache.entry = some entry ↔ timed.cache.entry = some entry ∧ event.replaces = false ∨
      event = .store entry.identity entry.value ∧ timed.now = entry.timestamp := by
  obtain ⟨value, timestamp, identity⟩ := entry
  cases event with
  | tick | adjust | get => simp [step, Event.replaces]
  | invalidate => simp [step, Cache.invalidate, Event.replaces]
  | store other stored =>
    simp only [step, Cache.store, Event.replaces, Option.some.injEq, CacheEntry.mk.injEq, Event.store.injEq,
      Bool.true_eq_false, and_false, false_or]
    constructor
    · rintro ⟨rfl, rfl, rfl⟩
      exact ⟨⟨rfl, rfl⟩, rfl⟩
    · rintro ⟨⟨rfl, rfl⟩, rfl⟩
      exact ⟨rfl, rfl, rfl⟩

/-- What the cache holds after a run was stored in it, at the time that the clock showed then, and nothing replaced it
since; or it was there at the start and nothing replaced it at all. -/
theorem run_entry {timed : Timed α} {events : List (Event α)} {entry : CacheEntry α} :
    (timed.run events).cache.entry = some entry ↔
      timed.cache.entry = some entry ∧ (∀ event ∈ events, event.replaces = false) ∨
        ∃ before after, events = before ++ .store entry.identity entry.value :: after ∧
          (∀ event ∈ after, event.replaces = false) ∧ (timed.run before).now = entry.timestamp := by
  have turns (timed : Timed α) (event : Event α) := @step_entry α timed event entry
  refine (Sequence.foldl_kept_iff (·.cache.entry = some entry) turns events timed).trans (or_congr_right ⟨?_, ?_⟩)
  · rintro ⟨before, _, after, split, kept, rfl, time⟩
    exact ⟨before, after, split, kept, time⟩
  · rintro ⟨before, after, split, kept, time⟩
    exact ⟨before, _, after, split, kept, rfl, time⟩

theorem run_unasked (timed : Timed α) (events : List (Event α)) :
    timed.run (events.filter fun event => !event.asks) = timed.run events := by
  induction events generalizing timed with
  | nil => rfl
  | cons event rest ih =>
    cases event with
    | get identity => exact ih timed
    | _ => exact ih _

theorem answer_of_entry {timed : Timed α} {identity other : String} {value : α} {timestamp : Rat}
    (kept : timed.cache.entry = some ⟨value, timestamp, other⟩) :
    timed.answer identity =
      if other = identity ∧ timed.cache.timeToLive.isAtMost (timed.now - timestamp) = false then some value else none := by
  rw [answer, get_value, kept]
  by_cases same : other = identity
  · cases late : timed.cache.timeToLive.isAtMost (timed.now - timestamp) <;>
      simp [Option.filter, isExpired, same, late]
  · simp [Option.filter, same]

/-- A value that is stored is missed under another identity and after its time, and found once the clock has stepped
back. -/
theorem answers_again (timed : Timed α) {identity other : String} (value : α) {elapsed : Rat} (apart : other ≠ identity)
    (lives : timed.cache.timeToLive.Exceeds 0) (late : ¬ timed.cache.timeToLive.Exceeds elapsed) :
    timed.answers [.store identity value, .get other, .tick (timed.now + elapsed), .get identity, .tick timed.now,
      .get identity] = [none, none, some value] := by
  have number : timed.cache.timeToLive ≠ .nan := by
    intro none
    simp [none, Binary64.Exceeds, Binary64.toRat?] at lives
  have later : timed.now + elapsed - timed.now = elapsed := by grind
  have again : timed.now - timed.now = 0 := by grind
  rw [Binary64.exceeds_iff number] at lives late
  have stored (now : Rat) (asked : String) :
      ({ cache := timed.cache.store timed.now identity value, now } : Timed α).answer asked =
        if identity = asked ∧ timed.cache.timeToLive.isAtMost (now - timed.now) = false then some value else none :=
    answer_of_entry rfl
  simp only [answers, step, stored, later, again]
  rw [if_neg fun same => apart same.1.symm, if_neg fun same => late same.2, if_pos ⟨trivial, lives⟩]

end Timed

/-- After every history of a new cache, an identity is given a value exactly if the last event that replaced anything has
stored this value for it, and the time since then is less than the time to live. A time to live that is no number never
ends. Lookups change nothing, and those that miss can be followed by one that hits. -/
theorem answer_after_run (timeToLive : Binary64) (now : Rat) (events : List (Event α)) (identity : String) :
    let start : Timed α := ⟨{ timeToLive }, now⟩
    let reached := start.run events
    (∀ value, reached.answer identity = some value ↔
      ∃ before after, events = before ++ .store identity value :: after ∧
        (∀ event ∈ after, event.replaces = false) ∧
        (reached.cache.timeToLive = .nan ∨ reached.cache.timeToLive.Exceeds (reached.now - (start.run before).now))) ∧
    start.run (events.filter fun event => !event.asks) = reached ∧
    ∀ other value elapsed, other ≠ identity → reached.cache.timeToLive.Exceeds 0 →
      ¬ reached.cache.timeToLive.Exceeds elapsed →
      reached.answers [.store identity value, .get other, .tick (reached.now + elapsed), .get identity,
        .tick reached.now, .get identity] = [none, none, some value] := by
  intro start reached
  refine ⟨fun value => ?_, start.run_unasked events, ?_⟩
  · rw [Timed.answer_eq_some_iff]
    constructor
    · rintro ⟨timestamp, kept, fresh⟩
      rcases Timed.run_entry.mp kept with ⟨empty, -⟩ | ⟨before, after, split, unreplaced, time⟩
      · cases empty
      · exact ⟨before, after, split, unreplaced, by rwa [time]⟩
    · rintro ⟨before, after, split, unreplaced, fresh⟩
      exact ⟨(start.run before).now, Timed.run_entry.mpr (.inr ⟨before, after, split, unreplaced, rfl⟩), fresh⟩
  · intro other value elapsed apart lives late
    exact reached.answers_again value apart lives late

end Surveyor.Cache
