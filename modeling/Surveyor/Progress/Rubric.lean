import Surveyor.Graph.Basic
import Surveyor.Fields
import Surveyor.FileStats
import Surveyor.Metrics.Measure
import Surveyor.Progress.Score
import Surveyor.Stack
import Surveyor.Text.Quoted

/-!
Rubrics: checks with points. A check that holds gives its points and a line of evidence, any other one a line that says
what is missing; a cap may bound the sum. The evidence of a check is asked for only where the check holds.
-/
namespace Surveyor.Progress

structure ProjectFacts where
  signals : Signals := {}
  markers : Markers := {}
  stats : FileStats := {}
  manifest : Option Manifest := none
  metrics : Option CodeMetrics := none
  graph : Option Graph := none

/-- Why facts give no answer to a check. -/
inductive Unscorable where
  | divisionByZero
  /-- A ratio lies beyond all real numbers. -/
  | ratioOverflow
  /-- A ratio that is no real number has no percentage. -/
  | unroundable (reason : Score.Unroundable)
  /-- A number has too many digits to be written. -/
  | overlong
  | unmeasured
  | noFile
  deriving DecidableEq, Repr

def Unscorable.message : Unscorable → String
  | divisionByZero => "division by zero"
  | ratioOverflow => "integer division result too large for a float"
  | unroundable reason => reason.message
  | overlong =>
    "Exceeds the limit (4300 digits) for integer string conversion; use sys.set_int_max_str_digits() to increase the limit"
  | unmeasured => "\x27NoneType\x27 object has no attribute \x27total_interfaces\x27"
  | noFile => "tuple index out of range"

structure Check where
  points : Int
  holds : ProjectFacts → Except Unscorable Bool
  evidence : ProjectFacts → Except Unscorable String
  missing : String

/-- What the checks of a rubric have come to so far. -/
structure Tally where
  points : Int := 0
  evidence : List String := []
  missing : List String := []

/-- One check after those before it. -/
def Tally.add (facts : ProjectFacts) (tally : Tally) (check : Check) : Except Unscorable Tally := do
  if ← check.holds facts then
    let line ← check.evidence facts
    return { tally with points := tally.points + check.points, evidence := tally.evidence ++ [line] }
  else return { tally with missing := tally.missing ++ [check.missing] }

structure Rubric where
  name : String
  checks : List Check
  cap : Option (ProjectFacts → Int) := none

namespace Rubric

def sumPoints (checks : List Check) : Int := checks.foldr (fun check sum => check.points + sum) 0

def maxPoints (rubric : Rubric) : Int := sumPoints rubric.checks

/-- A number of points under the cap of a rubric. -/
def capped (rubric : Rubric) (facts : ProjectFacts) (points : Int) : Int :=
  match rubric.cap with
  | some cap => min points (cap facts)
  | none => points

def assess (rubric : Rubric) (facts : ProjectFacts) : Except Unscorable Assessment := do
  let tally ← rubric.checks.foldlM (Tally.add facts) {}
  let score := Score.clamp (rubric.capped facts tally.points)
  return { score, stage := .ofScore score, evidence := tally.evidence, missing := tally.missing }

end Rubric

/-- A rubric for the titles that hold some keyword. -/
structure RubricEntry where
  keywords : List String
  rubric : Rubric

/-- Whether a title holds a keyword. Around the title there are spaces, so that keywords may ask for whole words. -/
def RubricEntry.covers (entry : RubricEntry) (title : String) : Bool :=
  entry.keywords.any (Text.contains (" " ++ Text.lower title ++ " "))

/-- Rubrics in the order in which titles choose them. -/
structure Registry where
  entries : List RubricEntry
  /-- For titles that no entry covers. -/
  generic : Rubric

namespace Registry

def rubricFor (registry : Registry) (title : String) : Rubric :=
  ((registry.entries.find? (·.covers title)).map (·.rubric)).getD registry.generic

/-- Scores a phase by its title. -/
def score (registry : Registry) (title : String) (facts : ProjectFacts) : Logged (Except Unscorable Assessment) := do
  let rubric := registry.rubricFor title
  match rubric.assess facts with
  | .error unscorable => return .error unscorable
  | .ok result =>
    let message := "Phase " ++ Text.quote title ++ " scored " ++ toString result.score ++ " (" ++ result.stage.name ++
      ") with rubric " ++ rubric.name
    Logged.write ⟨.debug, "progress", message, none⟩
    return .ok result

end Registry

end Surveyor.Progress
