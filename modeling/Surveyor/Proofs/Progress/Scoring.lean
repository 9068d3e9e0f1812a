import Surveyor.Proofs.Progress.Score
import Surveyor.Progress.Rubric

/-! What a score says, whatever the registry. The lines of evidence and of what is missing are those of the checks that
hold and of the others, in the order of the rubric, and the score is the sum of the points of the checks that hold.
There is no score only where a check itself gives no answer. -/

namespace Surveyor.Progress

namespace Check

/-- What a check comes to: its evidence where it holds, and nothing where it does not. -/
def verdict (facts : ProjectFacts) (check : Check) : Except Unscorable (Option String) :=
  match check.holds facts, check.evidence facts with
  | .error reason, _ => .error reason
  | .ok false, _ => .ok none
  | .ok true, evidence => evidence.map some

def passes (facts : ProjectFacts) (check : Check) : Bool :=
  match check.holds facts with
  | .ok holds => holds
  | .error _ => false

/-- The check finds no answer in the facts, whether it holds or what shows that it does. -/
def Refuses (facts : ProjectFacts) (reason : Unscorable) (check : Check) : Prop :=
  check.holds facts = .error reason ∨ check.holds facts = .ok true ∧ check.evidence facts = .error reason

theorem verdict_eq_error {facts : ProjectFacts} {check : Check} {reason : Unscorable} :
    check.verdict facts = .error reason ↔ check.Refuses facts reason := by
  unfold verdict Refuses
  rcases check.holds facts with _ | ⟨_ | _⟩ <;> cases check.evidence facts <;> simp [Except.map]

theorem verdict_eq_some {facts : ProjectFacts} {check : Check} {line : String} :
    check.verdict facts = .ok (some line) ↔ check.holds facts = .ok true ∧ check.evidence facts = .ok line := by
  unfold verdict
  rcases check.holds facts with _ | ⟨_ | _⟩ <;> cases check.evidence facts <;> simp [Except.map]

theorem verdict_eq_none {facts : ProjectFacts} {check : Check} :
    check.verdict facts = .ok none ↔ check.holds facts = .ok false := by
  unfold verdict
  rcases check.holds facts with _ | ⟨_ | _⟩ <;> cases check.evidence facts <;> simp [Except.map]

end Check

namespace Tally

/-- A check that has come to a verdict. -/
def record (tally : Tally) (check : Check) : Option String → Tally
  | some line => { tally with points := tally.points + check.points, evidence := tally.evidence ++ [line] }
  | none => { tally with missing := tally.missing ++ [check.missing] }

theorem add_eq (facts : ProjectFacts) (tally : Tally) (check : Check) :
    tally.add facts check = tally.record check <$> check.verdict facts := by
  unfold add Check.verdict
  rcases check.holds facts with _ | ⟨_ | _⟩ <;> cases check.evidence facts <;> rfl

end Tally

namespace Rubric

def passed (rubric : Rubric) (facts : ProjectFacts) : List Check := rubric.checks.filter (·.passes facts)

def failed (rubric : Rubric) (facts : ProjectFacts) : List Check :=
  rubric.checks.filter fun check => !check.passes facts

/-- What an assessment by a rubric says of the facts. -/
structure Reports (rubric : Rubric) (facts : ProjectFacts) (result : Assessment) : Prop where
  answered : ∀ check ∈ rubric.checks, ∀ reason, ¬ check.Refuses facts reason
  evidence : (rubric.passed facts).map (·.evidence facts) = result.evidence.map .ok
  missing : result.missing = (rubric.failed facts).map (·.missing)
  uncapped : rubric.cap = none → (result.score : Int) = max 0 (min 100 (sumPoints (rubric.passed facts)))
  capped : ∀ cap, rubric.cap = some cap →
    (result.score : Int) = max 0 (min 100 (min (sumPoints (rubric.passed facts)) (cap facts)))
  stage : result.stage.Spans result.score

/-- Where all checks give an answer, the loop counts each of them by it. -/
private theorem foldlM_add_answered {facts : ProjectFacts} (checks : List Check) (tally : Tally)
    (answered : ∀ check ∈ checks, ∀ reason, ¬ check.Refuses facts reason) :
    ∃ lines, (checks.filter (·.passes facts)).map (·.evidence facts) = lines.map .ok ∧
      checks.foldlM (Tally.add facts) tally =
        .ok { points := tally.points + sumPoints (checks.filter (·.passes facts))
              evidence := tally.evidence ++ lines
              missing := tally.missing ++ (checks.filter fun check => !check.passes facts).map (·.missing) } := by
  induction checks generalizing tally with
  | nil => exact ⟨[], rfl, by simp [sumPoints]; rfl⟩
  | cons check checks ih =>
    have later := fun other member => answered other (List.mem_cons_of_mem check member)
    rw [List.foldlM_cons, Tally.add_eq]
    cases verdict : check.verdict facts with
    | error reason => exact absurd (Check.verdict_eq_error.mp verdict) (answered check List.mem_cons_self reason)
    | ok answer =>
      obtain ⟨lines, shown, counted⟩ := ih (tally.record check answer) later
      cases answer with
      | none =>
        have fails : check.passes facts = false := by simp [Check.passes, Check.verdict_eq_none.mp verdict]
        refine ⟨lines, by simp [fails, shown], counted.trans ?_⟩
        simp [Tally.record, fails]
      | some line =>
        obtain ⟨holds, evidence⟩ := Check.verdict_eq_some.mp verdict
        have passes : check.passes facts = true := by simp [Check.passes, holds]
        refine ⟨line :: lines, by simp [passes, evidence, shown], counted.trans ?_⟩
        simp [Tally.record, passes, sumPoints, Int.add_assoc]

/-- The loop stops at the first check that gives no answer. -/
private theorem foldlM_add_refused {facts : ProjectFacts} (checks : List Check) (tally : Tally)
    (refused : ∃ check ∈ checks, ∃ reason, check.Refuses facts reason) :
    ∃ reason, checks.foldlM (Tally.add facts) tally = .error reason ∧ ∃ check ∈ checks, check.Refuses facts reason := by
  induction checks generalizing tally with
  | nil =>
    obtain ⟨check, member, -⟩ := refused
    cases member
  | cons check checks ih =>
    rw [List.foldlM_cons, Tally.add_eq]
    cases verdict : check.verdict facts with
    | error reason => exact ⟨reason, rfl, check, List.mem_cons_self, Check.verdict_eq_error.mp verdict⟩
    | ok answer =>
      have later : ∃ other ∈ checks, ∃ reason, other.Refuses facts reason := by
        obtain ⟨other, member, reason, refuses⟩ := refused
        rcases List.mem_cons.mp member with rfl | inside
        · rw [← Check.verdict_eq_error, verdict] at refuses
          cases refuses
        · exact ⟨other, inside, reason, refuses⟩
      obtain ⟨reason, stopped, other, member, refuses⟩ := ih (tally.record check answer) later
      exact ⟨reason, stopped, other, List.mem_cons_of_mem check member, refuses⟩

private theorem assess_answered {rubric : Rubric} {facts : ProjectFacts}
    (answered : ∀ check ∈ rubric.checks, ∀ reason, ¬ check.Refuses facts reason) :
    ∃ result, rubric.assess facts = .ok result ∧ rubric.Reports facts result := by
  obtain ⟨lines, shown, counted⟩ := foldlM_add_answered rubric.checks {} answered
  refine ⟨_, by rw [assess, counted]; rfl, ?_⟩
  constructor
  · exact answered
  · exact shown
  · rfl
  · intro uncapped
    simp only [Score.clamp_eq, Rubric.capped, uncapped, Int.zero_add, passed]
  · intro cap capped
    simp only [Score.clamp_eq, Rubric.capped, capped, Int.zero_add, passed]
  · exact Stage.ofScore_spans _

private theorem assess_refused {rubric : Rubric} {facts : ProjectFacts}
    (refused : ∃ check ∈ rubric.checks, ∃ reason, check.Refuses facts reason) :
    ∃ reason, rubric.assess facts = .error reason ∧ ∃ check ∈ rubric.checks, check.Refuses facts reason := by
  obtain ⟨reason, stopped, found⟩ := foldlM_add_refused rubric.checks {} refused
  exact ⟨reason, by rw [assess, stopped]; rfl, found⟩

theorem refuses_of_assess {rubric : Rubric} {facts : ProjectFacts} {reason : Unscorable}
    (failed : rubric.assess facts = .error reason) : ∃ check ∈ rubric.checks, check.Refuses facts reason := by
  by_cases refused : ∃ check ∈ rubric.checks, ∃ reason, check.Refuses facts reason
  · obtain ⟨other, stopped, found⟩ := assess_refused refused
    rw [failed] at stopped
    cases stopped
    exact found
  · push Not at refused
    obtain ⟨result, assessed, -⟩ := assess_answered refused
    rw [failed] at assessed
    cases assessed

theorem reports_of_assess {rubric : Rubric} {facts : ProjectFacts} {result : Assessment}
    (assessed : rubric.assess facts = .ok result) : rubric.Reports facts result := by
  by_cases refused : ∃ check ∈ rubric.checks, ∃ reason, check.Refuses facts reason
  · obtain ⟨reason, failed, -⟩ := assess_refused refused
    rw [assessed] at failed
    cases failed
  · push Not at refused
    obtain ⟨other, found, reported⟩ := assess_answered refused
    rw [assessed] at found
    cases found
    exact reported

end Rubric

namespace Registry

/-- A keyword of the entry occurs in the title in small letters, with a space before and behind it. -/
def Mentions (title : String) (entry : RubricEntry) : Prop :=
  ∃ keyword ∈ entry.keywords, keyword.toList <:+: [' '] ++ (Text.lower title).toList ++ [' ']

/-- The rubric of the first entry that a title mentions, and the generic one if there is none. -/
inductive Chooses (registry : Registry) (title : String) : Rubric → Prop
  | entry {before after : List RubricEntry} {entry : RubricEntry}
      (entries : registry.entries = before ++ entry :: after) (earlier : ∀ other ∈ before, ¬ Mentions title other)
      (mentioned : Mentions title entry) : Chooses registry title entry.rubric
  | generic (unmentioned : ∀ entry ∈ registry.entries, ¬ Mentions title entry) :
      Chooses registry title registry.generic

theorem covers_iff {entry : RubricEntry} {title : String} : entry.covers title = true ↔ Mentions title entry := by
  simp [RubricEntry.covers, Mentions, Text.contains, Text.occursIn_iff]

theorem rubricFor_chosen (registry : Registry) (title : String) :
    registry.Chooses title (registry.rubricFor title) := by
  unfold rubricFor
  cases found : registry.entries.find? (·.covers title) with
  | none =>
    refine Chooses.generic fun entry member => ?_
    rw [← covers_iff]
    exact List.find?_eq_none.mp found entry member
  | some entry =>
    obtain ⟨covered, before, after, entries, earlier⟩ := List.find?_eq_some_iff_append.mp found
    refine Chooses.entry entries (fun other member => ?_) (covers_iff.mp covered)
    rw [← covers_iff]
    simpa using earlier other member

theorem score_value (registry : Registry) (title : String) (facts : ProjectFacts) :
    (registry.score title facts).value = (registry.rubricFor title).assess facts := by
  unfold score
  cases assessed : (registry.rubricFor title).assess facts <;> simp [assessed]

/-- A score is that of the chosen rubric and says what its checks come to; without a score, one of these checks finds no
answer in the facts. -/
theorem score_reports (registry : Registry) (title : String) (facts : ProjectFacts) :
    ∃ rubric, registry.Chooses title rubric ∧
      match (registry.score title facts).value with
      | .ok result => rubric.Reports facts result
      | .error reason => ∃ check ∈ rubric.checks, check.Refuses facts reason := by
  refine ⟨registry.rubricFor title, rubricFor_chosen registry title, ?_⟩
  rw [score_value]
  cases assessed : (registry.rubricFor title).assess facts with
  | error reason => exact Rubric.refuses_of_assess assessed
  | ok result => exact Rubric.reports_of_assess assessed

end Registry

end Surveyor.Progress
