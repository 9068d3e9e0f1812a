import Surveyor.Proofs.Progress.Answers

/-! What the standard rubrics promise of their scores. The points of each of them add up to one hundred, so that a score
and the points of what is reported missing make up a whole. -/

namespace Surveyor.Progress

namespace Rubric

theorem sumPoints_filter (keeps : Check → Bool) (checks : List Check) :
    sumPoints (checks.filter keeps) + sumPoints (checks.filter fun check => !keeps check) = sumPoints checks := by
  induction checks with
  | nil => rfl
  | cons check checks ih =>
    cases kept : keeps check <;> simp only [List.filter_cons, kept, Bool.not_true, Bool.not_false, Bool.false_eq_true,
      ite_true, ite_false, sumPoints, List.foldr_cons] at ih ⊢ <;> omega

theorem sumPoints_nonneg {checks : List Check} (positive : ∀ check ∈ checks, 0 < check.points) :
    0 ≤ sumPoints checks := by
  induction checks with
  | nil => exact Int.le_refl 0
  | cons check checks ih =>
    have first := positive check List.mem_cons_self
    have rest := ih fun other member => positive other (List.mem_cons_of_mem check member)
    simp only [sumPoints, List.foldr_cons] at rest ⊢
    omega

theorem sumPoints_eq_zero {checks : List Check} (positive : ∀ check ∈ checks, 0 < check.points) :
    sumPoints checks = 0 ↔ checks = [] := by
  cases checks with
  | nil => simp [sumPoints]
  | cons check checks =>
    have first := positive check List.mem_cons_self
    have rest := sumPoints_nonneg fun other member => positive other (List.mem_cons_of_mem check member)
    simp only [sumPoints, List.foldr_cons, reduceCtorEq, iff_false] at rest ⊢
    omega

theorem sumPoints_filter_le {checks : List Check} (positive : ∀ check ∈ checks, 0 < check.points)
    (keeps : Check → Bool) : sumPoints (checks.filter keeps) ≤ sumPoints checks := by
  have split := sumPoints_filter keeps checks
  have rest : 0 ≤ sumPoints (checks.filter fun check => !keeps check) :=
    sumPoints_nonneg fun check member => positive check (List.mem_filter.mp member).1
  omega

/-- A rubric whose checks all give points, one hundred in all. -/
structure Full (rubric : Rubric) : Prop where
  positive : ∀ check ∈ rubric.checks, 0 < check.points
  whole : rubric.maxPoints = 100

theorem Full.passed {rubric : Rubric} (full : rubric.Full) (facts : ProjectFacts) :
    sumPoints (rubric.passed facts) + sumPoints (rubric.failed facts) = 100 ∧ 0 ≤ sumPoints (rubric.passed facts) ∧
      0 ≤ sumPoints (rubric.failed facts) := by
  refine ⟨(sumPoints_filter _ _).trans full.whole, ?_, ?_⟩
  all_goals exact sumPoints_nonneg fun check member => full.positive check (List.mem_filter.mp member).1

theorem Full.balance {rubric : Rubric} {facts : ProjectFacts} {result : Assessment} (full : rubric.Full)
    (uncapped : rubric.cap = none) (reported : rubric.Reports facts result) :
    (result.score : Int) + sumPoints (rubric.failed facts) = 100 ∧ (result.score = 100 ↔ result.missing = []) := by
  obtain ⟨whole, gained, lost⟩ := full.passed facts
  have score := reported.uncapped uncapped
  have balance : (result.score : Int) + sumPoints (rubric.failed facts) = 100 := by omega
  refine ⟨balance, ?_⟩
  have none_lost : sumPoints (rubric.failed facts) = 0 ↔ rubric.failed facts = [] :=
    sumPoints_eq_zero fun check member => full.positive check (List.mem_filter.mp member).1
  rw [reported.missing, List.map_eq_nil_iff, ← none_lost]
  omega

theorem usual_full {rubric : Rubric} (usual : rubric ∈ usual) : rubric.Full ∧ rubric.cap = none := by
  rcases mem_usual.mp usual with rfl | rfl | rfl | rfl | rfl | rfl | rfl | rfl | rfl
  all_goals exact ⟨⟨by decide, rfl⟩, rfl⟩

theorem generic_full : generic.Full := ⟨by decide, rfl⟩

theorem standard_full {rubric : Rubric} (standard : rubric ∈ generic :: usual) : rubric.Full := by
  rcases List.mem_cons.mp standard with rfl | usual
  · exact generic_full
  · exact (usual_full usual).1

theorem Reports.code_caps {facts : ProjectFacts} {result : Assessment} (reported : generic.Reports facts result) :
    (result.score : Int) = max 0 (min (5 * facts.stats.code) (100 - sumPoints (generic.failed facts))) := by
  have score := reported.capped (fun facts => facts.stats.code * pointsPerCodeFile) rfl
  obtain ⟨whole, -, lost⟩ := generic_full.passed facts
  simp only [pointsPerCodeFile] at score
  omega

end Rubric

namespace Check

variable {facts : ProjectFacts} {points least : Int} {evidence missing : String}

theorem passes_plain {holds : ProjectFacts → Bool} :
    (plain points holds evidence missing).passes facts = holds facts :=
  rfl

theorem passes_detected {category : StackCategory} :
    (detected points category evidence missing).passes facts = (facts.signals.labels category).isSome :=
  rfl

theorem passes_counted {count : ProjectFacts → Int} :
    (counted points count least evidence missing).passes facts = decide (least ≤ count facts) :=
  rfl

theorem passes_rated {ratio : ProjectFacts → Except Unscorable Binary64} {value least : Binary64}
    {evidence : ProjectFacts → Except Unscorable String} (found : ratio facts = .ok value) :
    (rated points ratio least evidence missing).passes facts = least.le value := by
  simp [passes, rated, found, bind, Except.bind, pure, Except.pure]

end Check

namespace Registry

theorem Chooses.cases {registry : Registry} {title : String} {rubric : Rubric}
    (chosen : registry.Chooses title rubric) :
    (∃ entry ∈ registry.entries, Mentions title entry ∧ entry.rubric = rubric) ∨
      (∀ entry ∈ registry.entries, ¬ Mentions title entry) ∧ registry.generic = rubric := by
  cases chosen with
  | entry entries _ mentioned => exact Or.inl ⟨_, by rw [entries]; simp, mentioned, rfl⟩
  | generic unmentioned => exact Or.inr ⟨unmentioned, rfl⟩

theorem rubricFor_usual {title : String} (mentioned : ∃ entry ∈ standard.entries, Mentions title entry) :
    standard.rubricFor title ∈ Rubric.usual := by
  rcases (standard.rubricFor_chosen title).cases with ⟨entry, member, -, same⟩ | ⟨unmentioned, -⟩
  · rw [← same]
    exact List.mem_map_of_mem member
  · obtain ⟨entry, member, holds⟩ := mentioned
    exact absurd holds (unmentioned entry member)

theorem rubricFor_generic {title : String} (unmentioned : ∀ entry ∈ standard.entries, ¬ Mentions title entry) :
    standard.rubricFor title = .generic := by
  rcases (standard.rubricFor_chosen title).cases with ⟨entry, member, mentioned, -⟩ | ⟨-, same⟩
  · exact absurd mentioned (unmentioned entry member)
  · exact same.symm

theorem rubricFor_standard (title : String) : standard.rubricFor title ∈ Rubric.generic :: Rubric.usual := by
  by_cases mentioned : ∃ entry ∈ standard.entries, Mentions title entry
  · exact List.mem_cons_of_mem _ (rubricFor_usual mentioned)
  · push Not at mentioned
    rw [rubricFor_generic mentioned]
    exact List.mem_cons_self

/-- There is a score unless a number is too large, and none of the other failures of the checks comes out. For a
usual phase the score and the points of what is missing make up one hundred; for any other one the code files cap the
score. -/
theorem score_balanced (title : String) (facts : ProjectFacts) :
    let rubric := standard.rubricFor title
    let lacking := Rubric.sumPoints (rubric.failed facts)
    match (standard.score title facts).value with
    | .error reason => rubric.Exceeded facts reason
    | .ok result =>
      (∀ reason, ¬ rubric.Exceeded facts reason) ∧
      result.missing = (rubric.failed facts).map (·.missing) ∧
      ((∃ entry ∈ standard.entries, Mentions title entry) →
        (result.score : Int) + lacking = 100 ∧ (result.score = 100 ↔ result.missing = [])) ∧
      ((∀ entry ∈ standard.entries, ¬ Mentions title entry) →
        (result.score : Int) = max 0 (min (5 * facts.stats.code) (100 - lacking))) := by
  have known := rubricFor_standard title
  have usual := @rubricFor_usual title
  have generic := @rubricFor_generic title
  simp only [score_value]
  generalize standard.rubricFor title = rubric at *
  cases assessed : rubric.assess facts with
  | error reason => exact (Rubric.refuses_iff known).mp (Rubric.refuses_of_assess assessed)
  | ok result =>
    have reported := Rubric.reports_of_assess assessed
    refine ⟨fun reason large => ?_, reported.missing, fun mentioned => ?_, fun unmentioned => ?_⟩
    · obtain ⟨check, member, refuses⟩ := (Rubric.refuses_iff known).mpr large
      exact reported.answered check member reason refuses
    · obtain ⟨full, uncapped⟩ := Rubric.usual_full (usual mentioned)
      exact full.balance uncapped reported
    · obtain rfl := generic unmentioned
      exact reported.code_caps

/-- A ratio of two counts may be too large for a real number. -/
theorem not_score_balanced_overflow :
    (standard.score "Tests" { stats := { code := 1, test := 10 ^ 309 } }).value = .error .ratioOverflow := by
  decide +kernel

end Registry

section Untested

variable {facts : ProjectFacts} (unframed : facts.signals.labels .testing = none) (untested : facts.stats.test = 0)

include untested

private theorem testRatio_untested : facts.testRatio = .ok (.finite false 0) := by
  unfold ProjectFacts.testRatio
  by_cases empty : facts.stats.code = 0
  · rw [if_pos empty]
  · have zero : Binary64.ofRat ((0 : Int) / facts.stats.code) = .finite false 0 := by simp; rfl
    simp only [if_neg empty, untested, ratio, zero]

private theorem not_exceeded_untested (reason : Unscorable) : ¬ Rubric.tests.Exceeded facts reason := by
  rintro (⟨-, count, member, long⟩ | ⟨-, -, overflows⟩)
  · have shown : count = facts.stats.test := List.mem_singleton.mp member
    have limit := hundred_lt_leastOverlong
    omega
  · have failed := testRatio_eq_error.mpr ⟨rfl, overflows⟩
    rw [testRatio_untested untested] at failed
    cases failed

include unframed

/-- What the checks for tests themselves, for their ratio and for end-to-end tools add is out of reach. -/
private theorem passed_untested :
    Rubric.tests.passed facts = [Check.testScript 8, Check.eslint 6, Check.prettier 5].filter (·.passes facts) := by
  have tenth : (Binary64.ofDecimal false 1 (-1)).le (.finite false 0) = false := by decide +kernel
  have third : (Binary64.ofDecimal false 3 (-1)).le (.finite false 0) = false := by decide +kernel
  have ratio := testRatio_untested untested
  have tools : facts.hasEndToEndTools = false := by simp [ProjectFacts.hasEndToEndTools, unframed, untested]
  simp only [Rubric.passed, Rubric.tests, List.filter_cons, Check.passes_detected, Check.passes_counted,
    Check.passes_rated ratio, Check.passes_plain, unframed, untested, tenth, third, tools]
  rfl

/-- Without a test framework and without tests, whatever else there is does not make a beginning of the tests. -/
theorem Registry.score_untested {title : String} (selected : standard.rubricFor title = .tests) :
    ∃ result, (standard.score title facts).value = .ok result ∧ result.score < 20 ∧
      (result.stage = .backlog ∨ result.stage = .todo) := by
  have known := rubricFor_standard title
  rw [score_value]
  rw [selected] at known ⊢
  cases assessed : Rubric.tests.assess facts with
  | error reason =>
    have exceeded := (Rubric.refuses_iff known).mp (Rubric.refuses_of_assess assessed)
    exact absurd exceeded (not_exceeded_untested untested reason)
  | ok result =>
    have reported := Rubric.reports_of_assess assessed
    have score := reported.uncapped rfl
    have bounded :
        Rubric.sumPoints ([Check.testScript 8, Check.eslint 6, Check.prettier 5].filter (·.passes facts)) ≤ 19 :=
      Rubric.sumPoints_filter_le (by decide) _
    rw [passed_untested unframed untested] at score
    have low : result.score < 20 := by omega
    refine ⟨result, rfl, low, ?_⟩
    by_cases nothing : result.score = 0
    · exact Or.inl (reported.stage.backlog.mpr (by omega))
    · exact Or.inr (reported.stage.todo.mpr (by omega))

end Untested

/-- A workspace with the tools for end-to-end tests, a script for them and two linters, but without tests. -/
def ProjectFacts.equipped : ProjectFacts where
  markers := ⟨[.eslint, .prettier]⟩
  stats := { total := 30, code := 25 }
  manifest := some { scripts := [("test", "playwright test")], devDependencies := ["playwright", "cypress"] }

theorem Registry.score_untested_equipped :
    standard.rubricFor "Tests & Qualité" = .tests ∧
      ∃ result, (standard.score "Tests & Qualité" .equipped).value = .ok result ∧ result.score < 20 ∧
        (result.stage = .backlog ∨ result.stage = .todo) :=
  have selected : standard.rubricFor "Tests & Qualité" = .tests := rfl
  ⟨selected, score_untested rfl rfl selected⟩

end Surveyor.Progress
