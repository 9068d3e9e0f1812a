import Surveyor.Proofs.Stack
import Surveyor.Roadmap

/-! How the roadmap of a web project follows its stack. A roadmap knows a dependency by parts of its name, the stack knows
it by its whole name; a label asks for its phase in vain where the roadmap knows none of the dependencies behind it. -/

namespace Surveyor

namespace StackRule

/-- Whether a roadmap that looks for these parts of names and these markers sees all that the rule asks for. -/
def SeenBy (rule : StackRule) (parts : List String) (markers : List Marker) : Prop :=
  rule.always = false ∧ rule.fragments = [] ∧ rule.scripts = [] ∧ (∀ marker ∈ rule.markers, marker ∈ markers) ∧
    ∀ name ∈ rule.dependencies, ∃ part ∈ parts, Text.contains name part = true

instance (rule : StackRule) (parts : List String) (markers : List Marker) : Decidable (rule.SeenBy parts markers) :=
  inferInstanceAs (Decidable (_ ∧ _))

theorem SeenBy.shown {rule : StackRule} {parts : List String} {markers : List Marker} (seen : rule.SeenBy parts markers)
    {facts : StackFacts} (applied : rule.applies facts = true) :
    (∃ marker ∈ markers, facts.markers.has marker = true) ∨ Roadmap.uses facts.dependencies parts = true := by
  obtain ⟨sometimes, whole, unscripted, inMarkers, inNames⟩ := seen
  simp only [applies, sometimes, whole, unscripted, List.any_nil, Bool.false_or, Bool.or_false, Bool.or_eq_true,
    List.any_eq_true, List.contains_iff_mem] at applied
  rcases applied with ⟨name, listed, held⟩ | ⟨marker, listed, held⟩
  · obtain ⟨part, known, inside⟩ := inNames name listed
    exact Or.inr (List.any_eq_true.mpr ⟨name, held, List.any_eq_true.mpr ⟨part, known, inside⟩⟩)
  · exact Or.inl ⟨marker, inMarkers marker listed, held⟩

end StackRule

namespace Roadmap

open StackRule

/-- The rules of these categories refine nothing, and each has a name for its label. -/
theorem plain_ofCategory {category : StackCategory}
    (chosen : category ∈ [.backend, .orm, .authentication, .stateManagement]) :
    ∀ rule ∈ ofCategory category, rule.family = none ∧ rule.label ≠ "" := by
  revert category
  decide

theorem seen_orm : ∀ rule ∈ ofCategory .orm, rule.label ∉ ["Knex", "Supabase"] → rule.SeenBy databaseParts [.prisma] := by
  decide

theorem seen_authentication :
    ∀ rule ∈ ofCategory .authentication, rule.label ∉ ["NextAuth.js"] → rule.SeenBy loginParts [] := by
  decide

theorem seen_stateManagement :
    ∀ rule ∈ ofCategory .stateManagement, rule.label ∉ ["XState"] → rule.SeenBy stateParts [] := by
  decide

private theorem mem_titles_ite {shown : Bool} {phase : Phase} {title : String} :
    title ∈ (if shown then [phase] else []).map (·.title) ↔ title = phase.title ∧ shown = true := by
  cases shown <;> simp

/-- Which of the phases that depend on the stack a web project has. The other phases have other titles. -/
theorem mem_titles {signals : Signals} {markers : Markers} {manifest : Option Manifest}
    (other : markers.has .editorExtension = false) :
    let titles := (propose .web signals markers manifest).map (·.title)
    let dependencies := (manifest.map (·.allDependencies)).getD []
    ("Backend API" ∈ titles ↔ ((label? signals .backend).isSome || uses dependencies backendParts) = true) ∧
    ("Base de données" ∈ titles ↔ (markers.has .prisma || uses dependencies databaseParts) = true) ∧
    ("Authentification" ∈ titles ↔ uses dependencies loginParts = true) ∧
    ("Gestion d'état" ∈ titles ↔ uses dependencies stateParts = true) := by
  intro titles dependencies
  have whole : titles = (groundwork signals markers).map (·.title) ++
      (stackPhases signals markers dependencies).map (·.title) ++ (delivery signals markers dependencies).map (·.title) := by
    simp only [titles, propose, other, Bool.false_eq_true, if_false, List.map_append]
    rfl
  simp only [whole, List.mem_append, stackPhases, List.map_append, mem_titles_ite, groundwork, delivery, List.map_cons,
    List.map_nil]
  simp

variable {category : StackCategory} {manifest : Option Manifest} {markers : Markers} {label : String}

theorem labels_detect_chosen (held : Manifest) (markers : Markers)
    (chosen : category ∈ [.backend, .orm, .authentication, .stateManagement]) :
    (Signals.detect (some held) markers).labels category =
      ((ofCategory category).find? (·.applies ⟨held.allDependencies, held.scripts, markers⟩)).map (·.label) :=
  Signals.labels_detect_some held markers fun rule member => (plain_ofCategory chosen rule member).1

theorem exists_rule_of_label (chosen : category ∈ [.backend, .orm, .authentication, .stateManagement])
    (labelled : (Signals.detect manifest markers).labels category = some label) :
    ∃ held, manifest = some held ∧
      ∃ rule ∈ ofCategory category, rule.applies ⟨held.allDependencies, held.scripts, markers⟩ = true ∧
        rule.label = label := by
  cases manifest with
  | none =>
    have other : category ≠ .gameEngine := by
      rintro rfl
      exact absurd chosen (by decide)
    rw [Signals.labels_detect_none other] at labelled
    cases labelled
  | some held =>
    rw [labels_detect_chosen held markers chosen] at labelled
    obtain ⟨rule, found, named⟩ := Option.map_eq_some_iff.mp labelled
    have applied := List.find?_some found
    exact ⟨held, rfl, rule, List.mem_of_find?_eq_some found, applied, named⟩

theorem shown_of_label {parts exceptions : List String} {seen : List Marker}
    (chosen : category ∈ [.backend, .orm, .authentication, .stateManagement])
    (sees : ∀ rule ∈ ofCategory category, rule.label ∉ exceptions → rule.SeenBy parts seen)
    (labelled : (Signals.detect manifest markers).labels category = some label) (usual : label ∉ exceptions) :
    (∃ marker ∈ seen, markers.has marker = true) ∨
      uses ((manifest.map (·.allDependencies)).getD []) parts = true := by
  obtain ⟨held, rfl, rule, member, applied, rfl⟩ := exists_rule_of_label chosen labelled
  exact (sees rule member usual).shown applied

/-- Where no marker is looked for, a label brings its phase by a dependency that the roadmap knows. -/
theorem uses_iff_of_label {parts exceptions : List String}
    (chosen : category ∈ [.backend, .orm, .authentication, .stateManagement])
    (sees : ∀ rule ∈ ofCategory category, rule.label ∉ exceptions → rule.SeenBy parts [])
    (labelled : (Signals.detect manifest markers).labels category = some label) :
    uses ((manifest.map (·.allDependencies)).getD []) parts = true ↔
      label ∉ exceptions ∨ uses ((manifest.map (·.allDependencies)).getD []) parts = true := by
  refine ⟨Or.inr, ?_⟩
  rintro (usual | used)
  · simpa using shown_of_label chosen sees labelled usual
  · exact used

/-- The marker alone makes the first rule apply. -/
theorem prisma_of_marker (labelled : (Signals.detect manifest markers).labels .orm = some label)
    (marked : markers.has .prisma = true) : label = "Prisma" := by
  obtain ⟨held, rfl, -⟩ := exists_rule_of_label (by decide) labelled
  rw [labels_detect_chosen held markers (by decide)] at labelled
  obtain ⟨first, rest, rules, asks, named⟩ :
      ∃ first rest, ofCategory .orm = first :: rest ∧ .prisma ∈ first.markers ∧ first.label = "Prisma" :=
    ⟨_, _, rfl, List.mem_singleton_self _, rfl⟩
  have applied : first.applies ⟨held.allDependencies, held.scripts, markers⟩ = true := by
    have shown : first.markers.any markers.has = true := List.any_eq_true.mpr ⟨.prisma, asks, marked⟩
    simp [applies, shown]
  rw [rules, List.find?_cons, applied, Option.map_some, named, Option.some.injEq] at labelled
  exact labelled.symm

/-- Whenever a category of the stack has a label, its phase is in the roadmap, save for labels whose dependencies the
roadmap does not know: with these the phase is only there if some other dependency has a part that it does know. -/
theorem phase_of_label (manifest : Option Manifest) {markers : Markers}
    (other : markers.has .editorExtension = false) :
    let signals := Signals.detect manifest markers
    let titles := (propose .web signals markers manifest).map (·.title)
    let dependencies := (manifest.map (·.allDependencies)).getD []
    (∀ label, signals.labels .backend = some label → "Backend API" ∈ titles) ∧
    (∀ label, signals.labels .orm = some label →
      ("Base de données" ∈ titles ↔ label ∉ ["Knex", "Supabase"] ∨ uses dependencies databaseParts = true)) ∧
    (∀ label, signals.labels .authentication = some label →
      ("Authentification" ∈ titles ↔ label ∉ ["NextAuth.js"] ∨ uses dependencies loginParts = true)) ∧
    (∀ label, signals.labels .stateManagement = some label →
      ("Gestion d'état" ∈ titles ↔ label ∉ ["XState"] ∨ uses dependencies stateParts = true)) := by
  intro signals titles dependencies
  obtain ⟨backend, database, login, state⟩ := @mem_titles signals markers manifest other
  refine ⟨?_, ?_, ?_, ?_⟩
  · intro label labelled
    obtain ⟨held, -, rule, member, -, rfl⟩ := exists_rule_of_label (by decide) labelled
    have named : rule.label.isEmpty = false := by simpa using (plain_ofCategory (by decide) rule member).2
    apply backend.mpr
    simp [label?, labelled, named]
  · intro label labelled
    apply database.trans
    rw [Bool.or_eq_true]
    constructor
    · intro shown
      refine shown.imp_left fun marked => ?_
      rw [prisma_of_marker labelled marked]
      decide
    · rintro (usual | used)
      · refine (shown_of_label (by decide) seen_orm labelled usual).imp_left ?_
        rintro ⟨marker, listed, marked⟩
        rwa [List.mem_singleton.mp listed] at marked
      · exact Or.inr used
  · intro label labelled
    exact login.trans (uses_iff_of_label (by decide) seen_authentication labelled)
  · intro label labelled
    exact state.trans (uses_iff_of_label (by decide) seen_stateManagement labelled)

/-- A shop whose whole stack the roadmap knows. -/
def shop : Manifest := { dependencies := ["express", "mongoose"], devDependencies := ["next-auth", "redux"] }

theorem phase_of_label_shop :
    ({} : Markers).has .editorExtension = false ∧
    ∀ title ∈ ["Backend API", "Base de données", "Authentification", "Gestion d'état"],
      title ∈ (propose .web (Signals.detect (some shop) {}) {} (some shop)).map (·.title) := by
  have other : ({} : Markers).has .editorExtension = false := rfl
  obtain ⟨backend, database, login, state⟩ := phase_of_label (some shop) other
  refine ⟨other, ?_⟩
  simp only [List.forall_mem_cons, List.not_mem_nil, false_implies, implies_true, and_true]
  refine ⟨backend "Express.js" rfl, ?_, ?_, ?_⟩
  · exact (database "Mongoose" rfl).mpr (Or.inl (by decide))
  · exact (login "NextAuth.js" rfl).mpr (Or.inr (by decide))
  · exact (state "Redux" rfl).mpr (Or.inl (by decide))

/-- A state machine library is a label of its own, but no part that the roadmap looks for. -/
theorem no_phase_of_xstate :
    let manifest : Option Manifest := some { dependencies := ["xstate"] }
    let signals := Signals.detect manifest {}
    signals.labels .stateManagement = some "XState" ∧
      "Gestion d'état" ∉ (propose .web signals {} manifest).map (·.title) := by
  decide

end Roadmap

end Surveyor
