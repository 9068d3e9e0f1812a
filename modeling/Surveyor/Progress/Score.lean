import Surveyor.Number.Binary64

/-!
Scores of phases: whole numbers from 0 to 100, and the stage of work that each of them stands for.
-/
namespace Surveyor

/-- A stage of work, from the least complete one to the most complete one. -/
inductive Stage where
  | backlog
  | todo
  | doing
  | review
  | done
  deriving DecidableEq, Repr

namespace Stage

def name : Stage → String
  | backlog => "backlog"
  | todo => "todo"
  | doing => "doing"
  | review => "review"
  | done => "done"

/-- The stages with the scores from which they hold, the most complete one first. -/
def thresholds : List (Int × Stage) := [(90, done), (60, review), (20, doing), (1, todo)]

def ofScore (score : Int) : Stage :=
  ((thresholds.find? fun threshold => threshold.1 ≤ score).map (·.2)).getD backlog

end Stage

namespace Score

def highest : Nat := 100

/-- The nearest score to a number of points. -/
def clamp (points : Int) : Nat := min highest points.toNat

inductive Unroundable where
  | nan
  | infinite
  deriving DecidableEq, Repr

def Unroundable.message : Unroundable → String
  | nan => "cannot convert float NaN to integer"
  | infinite => "cannot convert float infinity to integer"

/-- The nearest score to a real number. -/
def clampReal : Binary64 → Except Unroundable Nat
  | .nan => .error .nan
  | .infinite _ => .error .infinite
  | .finite negative magnitude => .ok (clamp (roundToInt (if negative then -magnitude else magnitude)))

end Score

/-- How far a phase has come, with what shows it and what it lacks. -/
structure Assessment where
  score : Nat
  stage : Stage
  evidence : List String := []
  missing : List String := []
  deriving DecidableEq, Repr

end Surveyor
