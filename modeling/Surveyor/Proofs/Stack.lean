import Surveyor.Proofs.Manifest
import Surveyor.Stack

/-! How the rules of a category give its label. They are read once, from first to last, and give what two passes would
give: one for the plain rule that names the label, and one for the last rule behind it that refines it. More evidence
never takes a label away. Which label a category has may change, but a category that has one keeps one when dependencies,
scripts and markers are added. -/

namespace Surveyor

/-- The second facts show whatever the first ones show. -/
structure StackFacts.Within (first second : StackFacts) : Prop where
  dependencies : ∀ name ∈ first.dependencies, name ∈ second.dependencies
  scripts : ∀ name command, Fields.get? name first.scripts = some command →
    Fields.get? name second.scripts = some command
  markers : ∀ marker, first.markers.has marker = true → second.markers.has marker = true

namespace StackRule

variable {first second : StackFacts}

theorem applies_mono (within : first.Within second) {rule : StackRule} (applied : rule.applies first = true) :
    rule.applies second = true := by
  simp only [applies, Bool.or_eq_true, List.any_eq_true, List.contains_iff_mem] at applied ⊢
  rcases applied with
    (((always | ⟨name, listed, held⟩) | ⟨marker, listed, held⟩) | ⟨part, listed, name, held, fits⟩) |
    ⟨script, listed, fits⟩
  · exact Or.inl (Or.inl (Or.inl (Or.inl always)))
  · exact Or.inl (Or.inl (Or.inl (Or.inr ⟨name, listed, within.dependencies name held⟩)))
  · exact Or.inl (Or.inl (Or.inr ⟨marker, listed, within.markers marker held⟩))
  · exact Or.inl (Or.inr ⟨part, listed, name, within.dependencies name held, fits⟩)
  · refine Or.inr ⟨script, listed, ?_⟩
    cases found : Fields.get? script.1 first.scripts with
    | some command => simpa only [found, within.scripts script.1 command found] using fits
    | none =>
      -- Only the empty part occurs in a command that is not there, and it occurs in every other one.
      simp only [found, Option.getD_none, Text.contains, Text.occursIn_iff, String.toList_empty,
        List.infix_nil] at fits ⊢
      rw [fits]
      exact List.nil_infix

theorem isSome_refine (facts : StackFacts) (found : Option (String × String)) (rule : StackRule) :
    (refine facts found rule).isSome = (found.isSome || rule.family.isNone && rule.applies facts) := by
  unfold refine
  cases found with
  | none => cases rule.family <;> cases applied : rule.applies facts <;> simp
  | some label =>
    cases rule.family with
    | none => rfl
    | some family =>
      dsimp only
      split <;> rfl

theorem isSome_foldl_refine (facts : StackFacts) (rules : List StackRule) (found : Option (String × String)) :
    (rules.foldl (refine facts) found).isSome =
      (found.isSome || rules.any fun rule => rule.family.isNone && rule.applies facts) := by
  induction rules generalizing found with
  | nil => simp
  | cons rule rules ih => rw [List.foldl_cons, ih, isSome_refine, List.any_cons, Bool.or_assoc]

/-- A category has a label as soon as some plain rule applies; refinements neither give nor take one. -/
theorem isSome_classify (rules : List StackRule) (facts : StackFacts) :
    (classify rules facts).isSome = rules.any fun rule => rule.family.isNone && rule.applies facts := by
  rw [classify, Option.isSome_map, isSome_foldl_refine, Option.isSome_none, Bool.false_or]

theorem isSome_classify_mono (within : first.Within second) {rules : List StackRule}
    (labelled : (classify rules first).isSome = true) : (classify rules second).isSome = true := by
  rw [isSome_classify, List.any_eq_true] at labelled ⊢
  obtain ⟨rule, member, applied⟩ := labelled
  rw [Bool.and_eq_true] at applied
  exact ⟨rule, member, Bool.and_eq_true_iff.mpr ⟨applied.1, applies_mono within applied.2⟩⟩

theorem foldl_refine_plain (facts : StackFacts) {rules : List StackRule} (plain : ∀ rule ∈ rules, rule.family = none)
    (found : String × String) : rules.foldl (refine facts) (some found) = some found := by
  induction rules with
  | nil => rfl
  | cons rule rules ih =>
    obtain ⟨first, rest⟩ := List.forall_mem_cons.mp plain
    have kept : refine facts (some found) rule = some found := by simp only [refine, first]
    rw [List.foldl_cons, kept, ih rest]

/-- Without refinements the first rule that applies gives the label. -/
theorem classify_plain {rules : List StackRule} (plain : ∀ rule ∈ rules, rule.family = none) (facts : StackFacts) :
    classify rules facts = (rules.find? (·.applies facts)).map (·.label) := by
  induction rules with
  | nil => rfl
  | cons rule rules ih =>
    obtain ⟨first, rest⟩ := List.forall_mem_cons.mp plain
    cases applied : rule.applies facts with
    | true =>
      have taken : refine facts none rule = some (rule.label, rule.label) := by simp [refine, first, applied]
      rw [classify, List.foldl_cons, taken, foldl_refine_plain facts rest, List.find?_cons, applied]
      rfl
    | false =>
      have passed : refine facts none rule = none := by simp [refine, first, applied]
      rw [classify, List.foldl_cons, passed, List.find?_cons, applied]
      exact ih rest

/-! ## Two passes -/

/-- The rule is plain and applies. -/
def opens (rule : StackRule) (facts : StackFacts) : Bool := rule.family.isNone && rule.applies facts

def refines (rule : StackRule) (facts : StackFacts) (label : String) : Bool :=
  rule.family == some label && rule.applies facts

/-- The first plain rule that applies, or the last rule behind it that applies and refines its label. -/
def chosen? (rules : List StackRule) (facts : StackFacts) : Option StackRule :=
  match rules.dropWhile fun rule => !rule.opens facts with
  | [] => none
  | base :: later => some ((later.reverse.find? (·.refines facts base.label)).getD base)

theorem refine_some (facts : StackFacts) (label family : String) (rule : StackRule) :
    refine facts (some (label, family)) rule =
      some (if rule.refines facts family then rule.label else label, family) := by
  unfold refine
  cases named : rule.family with
  | none => simp [refines, named]
  | some refined =>
    by_cases same : family = refined
    · subst same
      cases applied : rule.applies facts <;> simp [refines, named, applied]
    · simp [refines, named, same, Ne.symm same]

/-- A refinement changes the label, but the family stays that of the rule that opened it. -/
theorem foldl_refine_some (facts : StackFacts) (rules : List StackRule) (label family : String) :
    rules.foldl (refine facts) (some (label, family)) =
      some (((rules.reverse.find? (·.refines facts family)).map (·.label)).getD label, family) := by
  induction rules generalizing label with
  | nil => rfl
  | cons rule rules ih =>
    rw [List.foldl_cons, refine_some, ih, List.reverse_cons, List.find?_append]
    cases later : rules.reverse.find? (·.refines facts family) with
    | some last => rfl
    | none => cases applied : rule.refines facts family <;> simp [applied]

theorem foldl_refine_none (facts : StackFacts) (rules : List StackRule) :
    rules.foldl (refine facts) none =
      match rules.dropWhile fun rule => !rule.opens facts with
      | [] => none
      | base :: later => later.foldl (refine facts) (some (base.label, base.label)) := by
  induction rules with
  | nil => rfl
  | cons rule rules ih =>
    cases opened : rule.opens facts with
    | true =>
      have first : refine facts none rule = some (rule.label, rule.label) := by
        rw [opens, Bool.and_eq_true, Option.isNone_iff_eq_none] at opened
        simp [refine, opened]
      rw [List.foldl_cons, first, List.dropWhile_cons_of_neg (by simp [opened])]
    | false =>
      have passed : refine facts none rule = none := by
        cases named : rule.family <;> simp_all [refine, opens]
      rw [List.foldl_cons, passed, ih, List.dropWhile_cons_of_pos (by simp [opened])]

/-- The family that rules leave is the label of the first plain rule that applies. -/
theorem family_foldl_refine (facts : StackFacts) (rules : List StackRule) :
    (rules.foldl (refine facts) none).map (·.2) = (rules.find? (·.opens facts)).map (·.label) := by
  rw [foldl_refine_none, List.find?_eq_head?_dropWhile_not]
  split
  next none => rw [none]; rfl
  next base later found => rw [found, foldl_refine_some]; rfl

/-- One pass gives what two passes give. A refinement that no plain rule in front of it opens the way for, be it that none
applies or that the first one to apply has another label than the refinement asks for, has no effect; the labels of
refinements open no way. -/
theorem classify_eq_chosen (facts : StackFacts) :
    (∀ rules, classify rules facts = (chosen? rules facts).map (·.label)) ∧
      ∀ front rule back, rule.family.isSome →
        (∀ base ∈ front.find? (·.opens facts), rule.family ≠ some base.label) →
        classify (front ++ rule :: back) facts = classify (front ++ back) facts := by
  constructor
  · intro rules
    rw [classify, foldl_refine_none, chosen?]
    split
    next => rfl
    next base later _ =>
      rw [foldl_refine_some]
      cases later.reverse.find? (·.refines facts base.label) <;> rfl
  · intro front rule back refinement apart
    have idle : refine facts (front.foldl (refine facts) none) rule = front.foldl (refine facts) none := by
      have family := family_foldl_refine facts front
      cases found : front.foldl (refine facts) none with
      | none => cases named : rule.family <;> simp_all [refine]
      | some state =>
        obtain ⟨label, name⟩ := state
        rw [found] at family
        obtain ⟨base, first, rfl⟩ := Option.map_eq_some_iff.mp family.symm
        have other : rule.refines facts base.label = false := by simp [refines, apart base first]
        simp [refine_some, other]
    rw [classify, classify, List.foldl_append, List.foldl_append, List.foldl_cons, idle]

-- A refinement of a refinement has no effect.
example :
    let rules : List StackRule := [{ label := "React", always := true },
      { label := "Next.js", family := some "React", always := true },
      { label := "Blitz", family := some "Next.js", always := true }]
    classify rules ⟨[], [], {}⟩ = some "Next.js" := by
  decide

end StackRule

namespace Signals

theorem labels_detect_none {category : StackCategory} (other : category ≠ .gameEngine) (markers : Markers) :
    (detect none markers).labels category = none := by
  by_cases unity : markers.has .unityProject = true
  · simp [detect, unity, ofEngine, other]
  · by_cases godot : markers.has .godotProject = true <;> simp [detect, unity, godot, ofEngine, other]

theorem labels_detect_some (held : Manifest) (markers : Markers) {category : StackCategory}
    (plain : ∀ rule ∈ StackRule.ofCategory category, rule.family = none) :
    (detect (some held) markers).labels category =
      ((StackRule.ofCategory category).find? (·.applies ⟨held.allDependencies, held.scripts, markers⟩)).map (·.label) :=
  StackRule.classify_plain plain _

/-- A project of a game engine loses the label of its engine to a manifest without one, so that category is left out. -/
theorem isSome_detect_mono {first second : Option Manifest} {before after : Markers}
    (manifests : ∀ small ∈ first, ∃ large ∈ second, small.Within large ∧ large.Distinct)
    (markers : ∀ marker, before.has marker = true → after.has marker = true) {category : StackCategory}
    (other : category ≠ .gameEngine) (labelled : ((detect first before).labels category).isSome = true) :
    ((detect second after).labels category).isSome = true := by
  cases first with
  | none =>
    rw [labels_detect_none other] at labelled
    cases labelled
  | some small =>
    obtain ⟨large, held, within, distinct⟩ := manifests small rfl
    rw [Option.mem_def] at held
    subst held
    refine StackRule.isSome_classify_mono ⟨within.dependencies, ?_, markers⟩ labelled
    intro name command found
    exact Fields.get?_of_mem distinct (within.scripts _ (Fields.mem_of_get? found))

end Signals

end Surveyor
