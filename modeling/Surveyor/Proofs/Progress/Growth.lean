import Surveyor.Proofs.Progress.Balance
import Surveyor.Proofs.Stack

/-! More evidence never lowers a score. Two runs of a rubric are compared check by check: the counts are the same in
both, so they fail together, and a check that holds with less evidence holds with more of it. -/

namespace Surveyor.Progress

/-- Two outcomes agree when both fail for one reason, or both give values that are related. -/
inductive Agree {α β : Type} (related : α → β → Prop) : Except Unscorable α → Except Unscorable β → Prop
  | failed (reason : Unscorable) : Agree related (.error reason) (.error reason)
  | answered {first : α} {second : β} (held : related first second) : Agree related (.ok first) (.ok second)

namespace Agree

variable {α β γ δ σ τ : Type}

theorem refl {related : α → α → Prop} (reflexive : ∀ value, related value value) (outcome : Except Unscorable α) :
    Agree related outcome outcome := by
  cases outcome with
  | error reason => exact .failed reason
  | ok value => exact .answered (reflexive value)

theorem bind {related : α → β → Prop} {further : γ → δ → Prop} {first : Except Unscorable α}
    {second : Except Unscorable β} {next : α → Except Unscorable γ} {other : β → Except Unscorable δ}
    (agree : Agree related first second)
    (continued : ∀ value value', related value value' → Agree further (next value) (other value')) :
    Agree further (first >>= next) (second >>= other) := by
  cases agree with
  | failed reason => exact .failed reason
  | answered held => exact continued _ _ held

theorem foldlM {state : σ → τ → Prop} {step : σ → α → Except Unscorable σ} {other : τ → α → Except Unscorable τ}
    {items : List α} (steps : ∀ item ∈ items, ∀ first second, state first second →
      Agree state (step first item) (other second item))
    {first : σ} {second : τ} (start : state first second) :
    Agree state (items.foldlM step first) (items.foldlM other second) := by
  induction items generalizing first second with
  | nil => exact .answered start
  | cons item items ih =>
    rw [List.foldlM_cons, List.foldlM_cons]
    refine bind (steps item List.mem_cons_self first second start) fun next after reached => ?_
    exact ih (fun later member => steps later (List.mem_cons_of_mem item member)) reached

end Agree

namespace ProjectFacts

/-- What was counted and measured, without what was found in the manifest and among the markers. -/
def counts (facts : ProjectFacts) : ProjectFacts where
  stats := facts.stats
  metrics := facts.metrics
  graph := facts.graph

/-- The second facts show whatever the first ones show. Game engines are left out: no check asks for them. -/
structure Within (first second : ProjectFacts) : Prop where
  labels : ∀ category ≠ .gameEngine, (first.signals.labels category).isSome = true →
    (second.signals.labels category).isSome = true
  markers : ∀ marker, first.markers.has marker = true → second.markers.has marker = true
  dependencies : ∀ name ∈ first.dependencies, name ∈ second.dependencies
  scripts : ∀ script ∈ first.scripts, script ∈ second.scripts
  counts : first.counts = second.counts

variable {first second : ProjectFacts}

theorem Within.stats (within : first.Within second) : first.stats = second.stats := by
  have same : first.counts.stats = second.counts.stats := by rw [within.counts]
  exact same

theorem Within.hasScript (within : first.Within second) {parts : List String} (defined : first.hasScript parts = true) :
    second.hasScript parts = true := by
  obtain ⟨script, member, named⟩ := List.any_eq_true.mp defined
  exact List.any_eq_true.mpr ⟨script, within.scripts script member, named⟩

theorem Within.hasEndToEndTools (within : first.Within second) (equipped : first.hasEndToEndTools = true) :
    second.hasEndToEndTools = true := by
  simp only [ProjectFacts.hasEndToEndTools, Bool.and_eq_true, Bool.or_eq_true, List.any_eq_true,
    List.contains_iff_mem] at equipped ⊢
  obtain ⟨tested, tool, known, held⟩ := equipped
  refine ⟨?_, tool, known, within.dependencies tool held⟩
  rw [← within.stats]
  exact tested.imp_left (within.labels .testing (by decide))

end ProjectFacts

namespace Check

/-- With more evidence the check fails for the same reason, or holds if it held before. -/
def Grows (check : Check) : Prop :=
  ∀ first second : ProjectFacts, first.Within second →
    Agree (fun answer other => answer.isSome = true → other.isSome = true) (check.verdict first) (check.verdict second)

variable {points least : Int} {evidence missing : String}

theorem grows_of_counts {check : Check} (holds : ∀ facts, check.holds facts = check.holds facts.counts)
    (evidence : ∀ facts, check.evidence facts = check.evidence facts.counts) : check.Grows := by
  intro first second within
  have same : check.verdict first = check.verdict second := by
    unfold verdict
    rw [holds first, holds second, evidence first, evidence second, within.counts]
  rw [same]
  exact Agree.refl (fun _ => id) _

theorem verdict_plain {facts : ProjectFacts} {holds : ProjectFacts → Bool} :
    (plain points holds evidence missing).verdict facts = .ok (if holds facts then some evidence else none) := by
  cases held : holds facts <;> simp [verdict, plain, held, Except.map]

theorem verdict_detected {facts : ProjectFacts} {category : StackCategory} :
    (detected points category evidence missing).verdict facts =
      .ok ((facts.signals.labels category).map fun label => evidence ++ ": " ++ label) := by
  cases found : facts.signals.labels category <;> simp [verdict, detected, found, Except.map]

theorem grows_plain {holds : ProjectFacts → Bool}
    (grows : ∀ first second : ProjectFacts, first.Within second → holds first = true → holds second = true) :
    (plain points holds evidence missing).Grows := by
  intro first second within
  rw [verdict_plain, verdict_plain]
  refine Agree.answered fun shown => ?_
  rw [Option.isSome_ite] at shown ⊢
  exact grows first second within shown

theorem grows_marked {marker : Marker} : (marked points marker evidence missing).Grows :=
  grows_plain fun _ _ within => within.markers marker

theorem grows_scripted {parts : List String} : (scripted points parts evidence missing).Grows :=
  grows_plain fun _ _ within => within.hasScript

theorem grows_detected {category : StackCategory} (other : category ≠ .gameEngine) :
    (detected points category evidence missing).Grows := by
  intro first second within
  rw [verdict_detected, verdict_detected]
  refine Agree.answered fun shown => ?_
  rw [Option.isSome_map] at shown ⊢
  exact within.labels category other shown

theorem grows_marked_or_folder {marker : Marker} {names : List String} :
    (plain points (fun facts => facts.markers.has marker || facts.hasFolder names) evidence missing).Grows := by
  refine grows_plain fun first second within shown => ?_
  rw [Bool.or_eq_true] at shown ⊢
  refine shown.imp (within.markers marker) fun found => ?_
  rwa [ProjectFacts.hasFolder, ← within.stats]

end Check

namespace Tally

theorem add_grows {check : Check} (grows : check.Grows) (positive : 0 < check.points) {first second : ProjectFacts}
    (within : first.Within second) {fewer more : Tally} (points : fewer.points ≤ more.points) :
    Agree (·.points ≤ ·.points) (fewer.add first check) (more.add second check) := by
  rw [add_eq, add_eq, ← bind_pure_comp, ← bind_pure_comp]
  refine Agree.bind (grows first second within) fun answer other kept => ?_
  refine Agree.answered ?_
  cases answer with
  | none =>
    cases other with
    | none => exact points
    | some line => exact points.trans (Int.le_add_of_nonneg_right positive.le)
  | some line =>
    obtain ⟨shown, rfl⟩ := Option.isSome_iff_exists.mp (kept rfl)
    exact Int.add_le_add_right points check.points

end Tally

namespace Rubric

structure Grows (rubric : Rubric) : Prop where
  checks : ∀ check ∈ rubric.checks, check.Grows
  cap : ∀ facts points, rubric.capped facts points = rubric.capped facts.counts points

theorem capped_mono (rubric : Rubric) (facts : ProjectFacts) {fewer more : Int} (grown : fewer ≤ more) :
    rubric.capped facts fewer ≤ rubric.capped facts more := by
  unfold capped
  cases rubric.cap with
  | none => exact grown
  | some cap => exact min_le_min_right (cap facts) grown

theorem Grows.assess {rubric : Rubric} (grows : rubric.Grows) (full : rubric.Full) {first second : ProjectFacts}
    (within : first.Within second) : Agree Assessment.AtMost (rubric.assess first) (rubric.assess second) := by
  have counted : Agree (·.points ≤ ·.points) (rubric.checks.foldlM (Tally.add first) {})
      (rubric.checks.foldlM (Tally.add second) {}) := by
    refine Agree.foldlM (fun check member fewer more points => ?_) (Int.le_refl 0)
    exact Tally.add_grows (grows.checks check member) (full.positive check member) within points
  refine counted.bind fun fewer more points => ?_
  have capped : rubric.capped first fewer.points ≤ rubric.capped second more.points := by
    rw [grows.cap first, grows.cap second, within.counts]
    exact rubric.capped_mono second.counts points
  have score := Score.clamp_mono capped
  exact Agree.answered ⟨score, Stage.rank_ofScore_mono (by exact_mod_cast score)⟩

open Check in
theorem grows_standard {rubric : Rubric} (standard : rubric ∈ generic :: usual) : rubric.Grows := by
  rw [List.mem_cons, mem_usual] at standard
  rcases standard with rfl | rfl | rfl | rfl | rfl | rfl | rfl | rfl | rfl | rfl
  all_goals
    refine ⟨?_, fun _ _ => rfl⟩
    simp only [generic, setup, architecture, design, backend, database, tests, continuousIntegration, documentation,
      deployment, List.forall_mem_cons, List.not_mem_nil, false_implies, implies_true, and_true]
    and_intros
    all_goals first
      | exact grows_marked
      | exact grows_scripted
      | exact grows_detected (by decide)
      | exact grows_of_counts (fun _ => rfl) fun _ => rfl
      | exact grows_plain fun _ _ within => within.hasEndToEndTools
      | exact grows_marked_or_folder

end Rubric

/-- The facts with this manifest and these markers, and with the stack that they show. -/
def ProjectFacts.showing (facts : ProjectFacts) (manifest : Option Manifest) (markers : Markers) : ProjectFacts :=
  { facts with manifest, markers, signals := Signals.detect manifest markers }

theorem ProjectFacts.showing_within (facts : ProjectFacts) {first second : Option Manifest} {before after : Markers}
    (manifests : ∀ small ∈ first, ∃ large ∈ second, small.Within large ∧ large.Distinct)
    (markers : ∀ marker, before.has marker = true → after.has marker = true) :
    (facts.showing first before).Within (facts.showing second after) := by
  have labels (category : StackCategory) (other : category ≠ .gameEngine) :=
    Signals.isSome_detect_mono manifests markers other
  cases first with
  | none => exact ⟨labels, markers, fun _ held => (by cases held), fun _ held => (by cases held), rfl⟩
  | some small =>
    obtain ⟨large, rfl, within, -⟩ := manifests small rfl
    exact ⟨labels, markers, within.dependencies, within.scripts, rfl⟩

namespace Registry

/-- With more dependencies, scripts and markers, and the same files, measures and graph, a phase of any title keeps its
score and its stage or gets higher ones. It has no score only where the files, the measures or the graph are too large,
whatever the manifest and the markers. -/
theorem score_grows (title : String) (facts : ProjectFacts) {first second : Option Manifest} {before after : Markers}
    (manifests : ∀ small ∈ first, ∃ large ∈ second, small.Within large ∧ large.Distinct)
    (markers : ∀ marker, before.has marker = true → after.has marker = true) :
    (∃ low high, (standard.score title (facts.showing first before)).value = .ok low ∧
      (standard.score title (facts.showing second after)).value = .ok high ∧ low.AtMost high) ∨
    ∃ reason, (standard.rubricFor title).Exceeded facts reason ∧
      (standard.score title (facts.showing first before)).value = .error reason ∧
      (standard.score title (facts.showing second after)).value = .error reason := by
  have known := rubricFor_standard title
  rw [score_value, score_value]
  generalize standard.rubricFor title = rubric at *
  have agree := (Rubric.grows_standard known).assess (Rubric.standard_full known) (facts.showing_within manifests markers)
  generalize lower : rubric.assess (facts.showing first before) = low at agree
  generalize rubric.assess (facts.showing second after) = high at agree
  cases agree with
  | answered held => exact Or.inl ⟨_, _, rfl, rfl, held⟩
  | failed reason =>
    have exceeded : rubric.Exceeded (facts.showing first before) reason :=
      (Rubric.refuses_iff known).mp (Rubric.refuses_of_assess lower)
    exact Or.inr ⟨reason, exceeded, rfl, rfl⟩

/-- A manifest with unit tests. -/
def unitTested : Manifest := { scripts := [("test", "jest")], dependencies := ["jest"] }

/-- The same with a linter and with tools for end-to-end tests. -/
def wellTested : Manifest where
  scripts := [("lint", "eslint ."), ("test", "jest")]
  dependencies := ["eslint", "jest"]
  devDependencies := ["playwright"]

theorem score_grows_tested :
    let facts : ProjectFacts := { stats := { code := 25 } }
    let before : Markers := ⟨[.readme]⟩
    let after : Markers := ⟨[.eslint, .readme]⟩
    (∀ small ∈ some unitTested, ∃ large ∈ some wellTested, small.Within large ∧ large.Distinct) ∧
    (∀ marker, before.has marker = true → after.has marker = true) ∧
    ((∃ low high, (standard.score "Tests" (facts.showing (some unitTested) before)).value = .ok low ∧
      (standard.score "Tests" (facts.showing (some wellTested) after)).value = .ok high ∧ low.AtMost high) ∨
    ∃ reason, (standard.rubricFor "Tests").Exceeded facts reason ∧
      (standard.score "Tests" (facts.showing (some unitTested) before)).value = .error reason ∧
      (standard.score "Tests" (facts.showing (some wellTested) after)).value = .error reason) := by
  intro facts before after
  have manifests : ∀ small ∈ some unitTested, ∃ large ∈ some wellTested, small.Within large ∧ large.Distinct := by
    rintro small ⟨⟩
    exact ⟨wellTested, rfl, ⟨by decide, by decide⟩, by unfold Manifest.Distinct Fields.Distinct; decide⟩
  have markers : ∀ marker, before.has marker = true → after.has marker = true := by
    intro marker shown
    exact List.contains_iff_mem.mpr (List.mem_cons_of_mem _ (List.contains_iff_mem.mp shown))
  exact ⟨manifests, markers, score_grows "Tests" facts manifests markers⟩

end Registry

end Surveyor.Progress
