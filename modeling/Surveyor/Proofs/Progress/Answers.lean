import Surveyor.Proofs.Number.Rounding
import Surveyor.Proofs.Progress.Scoring
import Surveyor.Progress.Rubrics

/-! Which checks of the standard rubrics find no answer in the facts. Evidence that takes a file from a list, reads
measures of code or divides counts is asked for only where the check holds, and there it can be given. What is left are
numbers with more digits than are written, and a ratio of tests that lies beyond all real numbers. -/

namespace Surveyor.Progress

def leastOverlong : Int := 10 ^ Numeral.digitLimit

theorem hundred_lt_leastOverlong : 100 < leastOverlong := by
  have power : (10 : Int) ^ 3 ≤ 10 ^ Numeral.digitLimit := pow_le_pow_right₀ (by decide) (by decide)
  unfold leastOverlong
  omega

theorem written_eq_error {number : Int} {reason : Unscorable} (positive : 0 ≤ number) :
    written number = .error reason ↔ reason = .overlong ∧ leastOverlong ≤ number := by
  have limit : Nat.pow 10 Numeral.digitLimit ≤ number.natAbs ↔ leastOverlong ≤ number := by
    have cast (digits : Nat) : ((Nat.pow 10 digits : Nat) : Int) = 10 ^ digits := Int.natCast_pow 10 digits
    have power := cast Numeral.digitLimit
    unfold leastOverlong
    omega
  unfold written
  by_cases long : Nat.pow 10 Numeral.digitLimit ≤ number.natAbs
  · rw [if_pos long]
    simp [limit.mp long, eq_comm]
  · rw [if_neg long]
    simp [mt limit.mpr long]

theorem exists_written {number : Int} (positive : 0 ≤ number) (small : number ≤ 100) :
    ∃ digits, written number = .ok digits := by
  cases spelled : written number with
  | ok digits => exact ⟨digits, rfl⟩
  | error reason =>
    have long := ((written_eq_error positive).mp spelled).2
    have limit := hundred_lt_leastOverlong
    omega

theorem ratio_eq_error {part whole : Int} {reason : Unscorable} (present : whole ≠ 0) :
    ratio part whole = .error reason ↔
      reason = .ratioOverflow ∧ (Binary64.ofRat (part / whole)).isInfinite = true := by
  unfold ratio
  rw [if_neg present]
  cases Binary64.ofRat (part / whole) <;> simp [Binary64.isInfinite, eq_comm]

/-- A share of a whole is a real number from zero to one. -/
theorem ratio_share {part whole : Nat} (present : whole ≠ 0) (within : part ≤ whole) :
    ∃ share : Rat, ratio part whole = .ok (.finite false share) ∧ 0 ≤ share ∧ share ≤ 1 := by
  have positive : (0 : Rat) ≤ ((part : Int) : Rat) / ((whole : Int) : Rat) := by positivity
  have bounded : ((part : Int) : Rat) / ((whole : Int) : Rat) ≤ (1 : Nat) := by
    rw [Nat.cast_one]
    exact div_le_one_of_le₀ (by exact_mod_cast within) (by positivity)
  obtain ⟨share, nearest, above, below⟩ := Binary64.ofRat_bounded positive bounded (by decide)
  refine ⟨share, ?_, above, by simpa using below⟩
  unfold ratio
  rw [if_neg (by exact_mod_cast present), nearest]

theorem wholePercent_share {share : Rat} (positive : 0 ≤ share) (bounded : share ≤ 1) :
    ∃ text, wholePercent (.finite false share) = .ok text := by
  have hundred : Binary64.ofInt 100 = .finite false 100 := by decide +kernel
  have scaled : share * 100 ≤ (100 : Nat) := by
    norm_num
    linarith
  obtain ⟨percentage, nearest, above, below⟩ :=
    Binary64.mul_bounded (mul_nonneg positive (by norm_num)) scaled (by decide)
  obtain ⟨whole, small⟩ := roundToInt_bounded above below
  obtain ⟨digits, spelled⟩ := exists_written whole small
  refine ⟨digits ++ "%", ?_⟩
  simp only [wholePercent, hundred, nearest, Bool.false_eq_true, ite_false, spelled]
  rfl

theorem connectedRatio_share (facts : ProjectFacts) :
    ∃ share : Rat, facts.connectedRatio = .ok (.finite false share) ∧ 0 ≤ share ∧ share ≤ 1 := by
  unfold ProjectFacts.connectedRatio
  cases facts.graph with
  | none => exact ⟨0, rfl, by decide, by decide⟩
  | some graph =>
    dsimp only
    split
    · exact ⟨0, rfl, by decide, by decide⟩
    next filled => exact ratio_share (by simpa using filled) List.countP_le_length

def ProjectFacts.OverflowsTests (facts : ProjectFacts) : Prop :=
  facts.stats.code ≠ 0 ∧ (Binary64.ofRat (facts.stats.test / facts.stats.code)).isInfinite = true

theorem testRatio_eq_error {facts : ProjectFacts} {reason : Unscorable} :
    facts.testRatio = .error reason ↔ reason = .ratioOverflow ∧ facts.OverflowsTests := by
  unfold ProjectFacts.testRatio ProjectFacts.OverflowsTests
  by_cases empty : facts.stats.code = 0
  · simp [empty]
  · rw [if_neg empty, ratio_eq_error empty]
    simp [empty]

namespace Check

variable {facts : ProjectFacts} {reason : Unscorable} {points : Int} {missing : String}

@[simp] theorem not_refuses_plain {holds : ProjectFacts → Bool} {evidence : String} :
    ¬ (plain points holds evidence missing).Refuses facts reason := by
  simp [plain, Refuses]

@[simp] theorem not_refuses_marked {marker : Marker} {evidence : String} :
    ¬ (marked points marker evidence missing).Refuses facts reason :=
  not_refuses_plain

@[simp] theorem not_refuses_scripted {parts : List String} {evidence : String} :
    ¬ (scripted points parts evidence missing).Refuses facts reason :=
  not_refuses_plain

@[simp] theorem not_refuses_detected {category : StackCategory} {label : String} :
    ¬ (detected points category label missing).Refuses facts reason := by
  simp [detected, Refuses]

@[simp] theorem not_refuses_themed : ¬ (themed points).Refuses facts reason := by
  simp [themed, Refuses]

/-- A file is taken from the list only where the list has one. -/
@[simp] theorem not_refuses_databaseModule : ¬ (databaseModule points).Refuses facts reason := by
  cases found : facts.importedDatabaseFiles <;> simp [databaseModule, Refuses, found]

@[simp] theorem not_refuses_connected : ¬ (connected points).Refuses facts reason := by
  obtain ⟨share, ratio, positive, bounded⟩ := connectedRatio_share facts
  obtain ⟨text, shown⟩ := wholePercent_share positive bounded
  simp [connected, rated, Refuses, ratio, shown, bind, Except.bind, pure, Except.pure]

theorem counted_refuses {count : ProjectFacts → Int} {least : Int} {label : String} (positive : 0 ≤ least)
    (small : least ≤ 100) :
    (counted points count least label missing).Refuses facts reason ↔
      reason = .overlong ∧ leastOverlong ≤ count facts := by
  have limit := hundred_lt_leastOverlong
  by_cases holds : least ≤ count facts
  · rw [← written_eq_error (positive.trans holds)]
    cases spelled : written (count facts) <;>
      simp [counted, Refuses, holds, spelled, bind, Except.bind, pure, Except.pure]
  · have below : ¬ leastOverlong ≤ count facts := by omega
    simp [counted, Refuses, holds, below]

theorem interfaces_refuses :
    (interfaces points).Refuses facts reason ↔
      reason = .overlong ∧ ∃ metrics ∈ facts.metrics, leastOverlong ≤ metrics.interfaces := by
  have limit := hundred_lt_leastOverlong
  -- The measures are read only where there are any.
  cases measured : facts.metrics with
  | none => simp [interfaces, Refuses, ProjectFacts.declaresInterfaces, measured]
  | some metrics =>
    by_cases holds : 0 < metrics.interfaces
    · simp only [Option.mem_def, Option.some.injEq, exists_eq_left', ← written_eq_error holds.le]
      cases spelled : written metrics.interfaces <;>
        simp [interfaces, Refuses, ProjectFacts.declaresInterfaces, ProjectFacts.interfaceCount, measured, holds,
          spelled, bind, Except.bind, pure, Except.pure]
    · have below : ¬ leastOverlong ≤ metrics.interfaces := by omega
      simp [interfaces, Refuses, ProjectFacts.declaresInterfaces, measured, holds, below]

private theorem rated_refuses {least : Binary64} {evidence : ProjectFacts → Except Unscorable String}
    (shown : ∀ ratio, facts.testRatio = .ok ratio → ∃ text, evidence facts = .ok text) :
    (rated points (·.testRatio) least evidence missing).Refuses facts reason ↔
      reason = .ratioOverflow ∧ facts.OverflowsTests := by
  rw [← testRatio_eq_error]
  cases ratio : facts.testRatio with
  | error other => simp [rated, Refuses, ratio, bind, Except.bind]
  | ok value =>
    obtain ⟨text, spelled⟩ := shown value ratio
    simp [rated, Refuses, ratio, spelled, bind, Except.bind, pure, Except.pure]

theorem rated_plain_refuses {least : Binary64} {text : String} :
    (rated points (·.testRatio) least (fun _ => .ok text) missing).Refuses facts reason ↔
      reason = .ratioOverflow ∧ facts.OverflowsTests :=
  rated_refuses fun _ _ => ⟨text, rfl⟩

/-- The ratio that the evidence shows has been found when the check held. -/
theorem rated_shown_refuses {least : Binary64} {text : Binary64 → String} :
    (rated points (·.testRatio) least (fun facts => text <$> facts.testRatio) missing).Refuses facts reason ↔
      reason = .ratioOverflow ∧ facts.OverflowsTests :=
  rated_refuses fun ratio found => ⟨text ratio, by rw [found]; rfl⟩

end Check

namespace Rubric

/-- The counts that lines of evidence write out, by the name of a standard rubric. -/
def shownCounts (facts : ProjectFacts) : String → List Int
  | "architecture" => [facts.stats.code, facts.edgeCount] ++ (facts.metrics.map (·.interfaces)).toList
  | "design" => [facts.stats.component, facts.stats.style]
  | "backend" => [facts.endpointCount]
  | "tests" => [facts.stats.test]
  | "documentation" => [facts.stats.documentation]
  | "generic" => [facts.stats.code, facts.stats.test, facts.edgeCount]
  | _ => []

/-- The rubrics of the usual phases. -/
def usual : List Rubric := Registry.standard.entries.map (·.rubric)

theorem mem_usual {rubric : Rubric} : rubric ∈ usual ↔
    rubric = setup ∨ rubric = architecture ∨ rubric = design ∨ rubric = backend ∨ rubric = database ∨ rubric = tests ∨
      rubric = continuousIntegration ∨ rubric = documentation ∨ rubric = deployment := by
  simp [usual, Registry.standard]

def Refuses (rubric : Rubric) (facts : ProjectFacts) (reason : Unscorable) : Prop :=
  ∃ check ∈ rubric.checks, check.Refuses facts reason

/-- What a standard rubric writes or divides is too large. -/
def Exceeded (rubric : Rubric) (facts : ProjectFacts) (reason : Unscorable) : Prop :=
  reason = .overlong ∧ (∃ count ∈ shownCounts facts rubric.name, leastOverlong ≤ count) ∨
    reason = .ratioOverflow ∧ rubric.name = "tests" ∧ facts.OverflowsTests

private theorem not_overlong_layerCount (facts : ProjectFacts) : ¬ leastOverlong ≤ facts.layerCount := by
  have limit := hundred_lt_leastOverlong
  have few : facts.layerCount ≤ 17 := List.countP_le_length
  omega

open Check in
theorem refuses_iff {rubric : Rubric} (standard : rubric ∈ generic :: usual) {facts : ProjectFacts}
    {reason : Unscorable} : rubric.Refuses facts reason ↔ rubric.Exceeded facts reason := by
  rw [List.mem_cons, mem_usual] at standard
  rcases standard with rfl | rfl | rfl | rfl | rfl | rfl | rfl | rfl | rfl | rfl
  · simp [Refuses, Exceeded, shownCounts, generic, readme, buildScript, edges, counted_refuses, and_or_left]
  · simp [Refuses, Exceeded, shownCounts, setup, readme, eslint, prettier, buildScript, environment, husky]
  · simp [Refuses, Exceeded, shownCounts, architecture, edges, counted_refuses, interfaces_refuses, and_or_left,
      not_overlong_layerCount]
  · simp [Refuses, Exceeded, shownCounts, design, counted_refuses, and_or_left]
  · simp [Refuses, Exceeded, shownCounts, backend, environment, counted_refuses]
  · simp [Refuses, Exceeded, shownCounts, database]
  · simp [Refuses, Exceeded, shownCounts, tests, testScript, eslint, prettier, counted_refuses, rated_plain_refuses,
      rated_shown_refuses]
  · simp [Refuses, Exceeded, shownCounts, continuousIntegration, pipeline, dockerfile, testScript, buildScript, husky,
      eslint]
  · simp [Refuses, Exceeded, shownCounts, documentation, readme, counted_refuses]
  · simp [Refuses, Exceeded, shownCounts, deployment, dockerfile, pipeline, buildScript, environment]

end Rubric

end Surveyor.Progress
