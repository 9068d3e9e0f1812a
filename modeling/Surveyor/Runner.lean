import Surveyor.Log
import Surveyor.Text.Quoted

/-!
Runners that answer prompts. A runner may fail in several ways; all but one of them are met by whoever asked. Its
behaviour is a function of how often it was asked, and it remembers the prompts.
-/
namespace Surveyor

inductive RunnerFault where
  /-- With a message of its own. -/
  | refused (message : String)
  /-- The service behind it cannot be reached. -/
  | unreachable
  /-- A key of its own was missing, which nobody who asks expects. -/
  | missingKey (key : String)
  deriving DecidableEq, Repr

structure Runner where
  /-- What the runner does when it is asked, by the number of earlier prompts. -/
  outcome : Nat → Except RunnerFault String
  prompts : List String := []

def Runner.ask (runner : Runner) (prompt : String) : Except RunnerFault String × Runner :=
  (runner.outcome runner.prompts.length, { runner with prompts := runner.prompts ++ [prompt] })

/-- A fault that nobody met: the key that a runner missed. -/
structure Breakdown where
  key : String
  deriving DecidableEq, Repr

def Breakdown.message (breakdown : Breakdown) : String := Text.quote breakdown.key

end Surveyor
