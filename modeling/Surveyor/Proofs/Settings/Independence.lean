import Mathlib.Data.List.Forall2
import Surveyor.Proofs.Settings

/-! Settings are independent of each other. Each one is what its own raw value stands for, if that is valid, and its
default otherwise, whatever stands in the rest of the document. -/

namespace Surveyor.Settings
open Yaml (Value)

/-! ## What raw values stand for -/

/-- A truth value is no number, and a text may spell one. -/
inductive StandsForReal : Value → Binary64 → Prop where
  | int (value : Int) : StandsForReal (.int value) (Binary64.ofInt value)
  | real (value : Binary64) : StandsForReal (.real value) value
  | text {spelling : String} {value : Binary64} (spelled : Numeral.real? spelling.toList = some value) :
      StandsForReal (.text spelling) value

inductive StandsForInt : Value → Int → Prop where
  | int (value : Int) : StandsForInt (.int value) value
  | text {spelling : String} {value : Int} (spelled : Numeral.integer 10 spelling.toList = .ok value) :
      StandsForInt (.text spelling) value

inductive StandsForBool : Value → Bool → Prop where
  | bool (value : Bool) : StandsForBool (.bool value) value
  | yes {word : String} (affirms : Text.lower (Text.trim word) ∈ ["true", "yes", "1"]) : StandsForBool (.text word) true
  | no {word : String} (denies : Text.lower (Text.trim word) ∈ ["false", "no", "0"]) : StandsForBool (.text word) false

inductive StandsForText : Value → String → Prop where
  | text (value : String) : StandsForText (.text value) value
  | int {value : Int} (short : ¬ IsOverlong value) : StandsForText (.int value) (toString value)
  | real (value : Binary64) : StandsForText (.real value) value.text
  | yes : StandsForText (.bool true) "True"
  | no : StandsForText (.bool false) "False"

/-- Whether a member of a list is a text, a number or a truth value. -/
def isScalar : Value → Bool
  | .text _ | .int _ | .real _ | .bool _ => true
  | _ => false

/-- A text stands for itself alone, and a list for its scalars. Bytes are a list of numbers. -/
inductive StandsForTexts : Value → List String → Prop where
  | text (value : String) : StandsForTexts (.text value) [value]
  | list {items : List Value} {texts : List String} (each : List.Forall₂ StandsForText (items.filter isScalar) texts) :
      StandsForTexts (.list items) texts
  | bytes (value : List Nat) : StandsForTexts (.bytes value) (value.map toString)

theorem secondsOf_eq_some_iff {found : Option Value} {seconds : Binary64} :
    secondsOf found = some seconds ↔ ∃ raw, found = some raw ∧ StandsForReal raw seconds := by
  constructor
  · intro stated
    unfold secondsOf at stated
    split at stated
    next value => exact ⟨_, rfl, Option.some.inj stated ▸ .int value⟩
    next value => exact ⟨_, rfl, Option.some.inj stated ▸ .real value⟩
    next spelling => exact ⟨_, rfl, .text stated⟩
    next => cases stated
  · rintro ⟨raw, rfl, stands⟩
    cases stands with
    | int value => rfl
    | real value => rfl
    | text spelled => exact spelled

theorem intOf_eq_some_iff {found : Option Value} {value : Int} :
    intOf found = some value ↔ ∃ raw, found = some raw ∧ StandsForInt raw value := by
  constructor
  · intro stated
    unfold intOf at stated
    split at stated
    next other => exact ⟨_, rfl, Option.some.inj stated ▸ .int other⟩
    next spelling =>
      split at stated
      next other spelled => exact ⟨_, rfl, .text (Option.some.inj stated ▸ spelled)⟩
      next => cases stated
    next => cases stated
  · rintro ⟨raw, rfl, stands⟩
    cases stands with
    | int => rfl
    | text spelled => simp only [intOf, spelled]

theorem boolOf_eq_some_iff {found : Option Value} {value : Bool} :
    boolOf found = some value ↔ ∃ raw, found = some raw ∧ StandsForBool raw value := by
  constructor
  · intro stated
    unfold boolOf at stated
    split at stated
    next other => exact ⟨_, rfl, Option.some.inj stated ▸ .bool other⟩
    next word =>
      dsimp only at stated
      split at stated
      next affirms => exact ⟨_, rfl, Option.some.inj stated ▸ .yes (List.contains_iff_mem.mp affirms)⟩
      next =>
        split at stated
        next denies => exact ⟨_, rfl, Option.some.inj stated ▸ .no (List.contains_iff_mem.mp denies)⟩
        next => cases stated
    next => cases stated
  · rintro ⟨raw, rfl, stands⟩
    cases stands with
    | bool => rfl
    | yes affirms => simp only [boolOf, List.contains_iff_mem, affirms, if_true]
    | @no word denies =>
      have other : Text.lower (Text.trim word) ∉ ["true", "yes", "1"] := by
        intro affirms
        revert denies affirms
        generalize Text.lower (Text.trim word) = spelling
        simp only [List.mem_cons, List.not_mem_nil, or_false]
        rintro (rfl | rfl | rfl) <;> decide
      simp only [boolOf, List.contains_iff_mem, other, denies, if_true, if_false]

/-- A member of a list that was read is no scalar and is passed over, or a scalar with the text that it stands for. -/
theorem itemText_eq_ok {item : Value} {found : Option String} (read : itemText item = .ok found) :
    isScalar item = false ∧ found = none ∨ isScalar item = true ∧ ∃ text, found = some text ∧ StandsForText item text := by
  cases item with
  | text value => exact .inr ⟨rfl, value, (Except.ok.inj read).symm, .text value⟩
  | int value =>
    have short : ¬ IsOverlong value := by
      intro long
      have refused := itemText_eq_error.mpr ⟨rfl, value, rfl, long⟩
      rw [read] at refused
      cases refused
    have shown : itemText (.int value) = .ok (some (toString value)) := by
      rw [IsOverlong] at short
      rw [itemText, digitsText, if_neg short]
      rfl
    exact .inr ⟨rfl, toString value, Except.ok.inj (read.symm.trans shown), .int short⟩
  | real value => exact .inr ⟨rfl, value.text, (Except.ok.inj read).symm, .real value⟩
  | bool value =>
    cases value with
    | true => exact .inr ⟨rfl, "True", (Except.ok.inj read).symm, .yes⟩
    | false => exact .inr ⟨rfl, "False", (Except.ok.inj read).symm, .no⟩
  | _ => exact .inl ⟨rfl, (Except.ok.inj read).symm⟩

theorem mapM_itemText_eq_ok {items : List Value} {found : List (Option String)} (read : items.mapM itemText = .ok found) :
    List.Forall₂ StandsForText (items.filter isScalar) (found.filterMap id) := by
  induction items generalizing found with
  | nil =>
    cases read
    exact .nil
  | cons item rest ih =>
    rw [List.mapM_cons] at read
    cases first : itemText item with
    | error failure => simp [first, bind, Except.bind] at read
    | ok text =>
      cases others : rest.mapM itemText with
      | error failure => simp [first, others, bind, Except.bind] at read
      | ok texts =>
        simp only [first, others, bind, Except.bind, pure, Except.pure, Except.ok.injEq] at read
        subst read
        have later := ih others
        rcases itemText_eq_ok first with ⟨passed, rfl⟩ | ⟨scalar, text, rfl, stands⟩
        · rw [List.filter_cons_of_neg (by simp [passed])]
          exact later
        · rw [List.filter_cons_of_pos scalar]
          exact .cons stands later

theorem textsOf_eq_ok {found : Option Value} {texts : List String} (read : textsOf found = .ok texts) :
    (∃ raw, found = some raw ∧ StandsForTexts raw texts) ∨
      (∀ raw content, found = some raw → ¬ StandsForTexts raw content) ∧ texts = [] := by
  unfold textsOf at read
  split at read
  next value => exact .inl ⟨_, rfl, Except.ok.inj read ▸ .text value⟩
  next items =>
    cases members : items.mapM itemText with
    | error failure => simp [members, Except.map] at read
    | ok found =>
      rw [members] at read
      exact .inl ⟨_, rfl, Except.ok.inj read ▸ .list (mapM_itemText_eq_ok members)⟩
  next value => exact .inl ⟨_, rfl, Except.ok.inj read ▸ .bytes value⟩
  next text list bytes =>
    refine .inr ⟨fun raw content same stands => ?_, (Except.ok.inj read).symm⟩
    cases stands with
    | text value => exact text value same
    | list each => exact list _ same
    | bytes value => exact bytes value same

/-! ## Rules of settings -/

/-- How one setting is read: where its raw value stands, what that may stand for, and which of it is valid. -/
structure Rule (α : Type) where
  part : String
  name : String
  default : α
  Stands : Value → α → Prop
  IsValid : α → Prop
  of : Settings → α

namespace Rule

variable {α : Type}

/-- The raw value in a document, if its section is a mapping that has one. -/
def raw (rule : Rule α) (entries : List (Value × Value)) : Option Value := entryOf entries rule.part rule.name

/-- What a raw value comes to: what it stands for, if that is valid, and the default otherwise. -/
inductive Chooses (rule : Rule α) (found : Option Value) : α → Prop where
  | given {raw : Value} {content : α} (stated : found = some raw) (stands : rule.Stands raw content)
      (valid : rule.IsValid content) : Chooses rule found content
  | default (unfit : ∀ raw content, found = some raw → rule.Stands raw content → ¬ rule.IsValid content) :
      Chooses rule found rule.default

theorem chooses_orDefault {rule : Rule α} {found : Option Value} {isValid : α → Bool} {coerced : Option α}
    (stands : ∀ content, coerced = some content ↔ ∃ raw, found = some raw ∧ rule.Stands raw content)
    (valid : ∀ content, isValid content = true ↔ rule.IsValid content) :
    rule.Chooses found (orDefault rule.default isValid coerced) := by
  rw [orDefault_eq]
  cases chosen : coerced.filter isValid with
  | some content =>
    obtain ⟨same, fits⟩ := Option.filter_eq_some_iff.mp chosen
    obtain ⟨raw, stated, stood⟩ := (stands content).mp same
    exact .given stated stood ((valid content).mp fits)
  | none =>
    refine .default fun raw content stated stood fits => ?_
    have same := (stands content).mpr ⟨raw, stated, stood⟩
    have kept := Option.filter_eq_some_iff.mpr ⟨same, (valid content).mpr fits⟩
    rw [chosen] at kept
    cases kept

theorem Chooses.valid {rule : Rule α} {found : Option Value} {content : α} (chosen : rule.Chooses found content)
    (fits : rule.IsValid rule.default) : rule.IsValid content := by
  cases chosen with
  | given _ _ valid => exact valid
  | default => exact fits

end Rule

/-- A number that is not below zero, which may be infinite. -/
def IsDuration (seconds : Binary64) : Prop := seconds = .infinite false ∨ ∃ exact ∈ seconds.toRat?, 0 ≤ exact

theorem isDuration_iff {seconds : Binary64} : Binary64.le (.finite false 0) seconds = true ↔ IsDuration seconds := by
  cases seconds with
  | nan => simp [Binary64.le, IsDuration, Binary64.toRat?]
  | infinite negative => cases negative <;> simp [Binary64.le, IsDuration, Binary64.toRat?]
  | finite negative magnitude => simp [Binary64.le, IsDuration, Binary64.toRat?]

inductive Setting where
  | timeToLive
  | listedFiles
  | excludedPaths
  | clusterDepth
  | metricsEnabled
  | measuredFiles

namespace Setting

abbrev Content : Setting → Type
  | timeToLive => Binary64
  | listedFiles | clusterDepth | measuredFiles => Int
  | excludedPaths => List String
  | metricsEnabled => Bool

def rule : (setting : Setting) → Rule setting.Content
  | timeToLive => ⟨"cache", "ttl_seconds", .finite false 30, StandsForReal, IsDuration, (·.cache.timeToLive)⟩
  | listedFiles => ⟨"scan", "max_files", (5000 : Int), StandsForInt, ((1 : Int) ≤ ·), (·.scan.maxFiles)⟩
  | excludedPaths => ⟨"scan", "exclude_paths", [], StandsForTexts, fun _ => True, (·.scan.excludePaths)⟩
  | clusterDepth => ⟨"graph", "cluster_depth", (1 : Int), StandsForInt, ((0 : Int) ≤ ·), (·.graph.clusterDepth)⟩
  | metricsEnabled => ⟨"metrics", "enabled", true, StandsForBool, fun _ => True, (·.metrics.enabled)⟩
  | measuredFiles => ⟨"metrics", "max_files", (200 : Int), StandsForInt, ((1 : Int) ≤ ·), (·.metrics.maxFiles)⟩

theorem default_valid (setting : Setting) : setting.rule.IsValid setting.rule.default := by
  cases setting with
  | timeToLive => exact isDuration_iff.mp rfl
  | listedFiles => exact show (1 : Int) ≤ 5000 by decide
  | clusterDepth => exact show (0 : Int) ≤ 1 by decide
  | measuredFiles => exact show (1 : Int) ≤ 200 by decide
  | excludedPaths | metricsEnabled => exact trivial

/-- Settings that were read hold for each setting what its raw value comes to. -/
theorem chooses (setting : Setting) {root : String} {entries : List (Value × Value)} {settings : Settings}
    (read : ofEntries root entries = .ok settings) :
    setting.rule.Chooses (setting.rule.raw entries) (setting.rule.of settings) := by
  obtain ⟨seconds, patterns, real, texts, rfl⟩ := ofEntries_eq_ok read
  have counts (least : Int) (count : Int) : decide (least - 1 < count) = true ↔ least ≤ count := by
    rw [decide_eq_true_iff, Int.sub_lt_iff, Int.lt_add_one_iff]
  cases setting with
  | timeToLive =>
    refine Rule.chooses_orDefault (fun content => ?_) fun content => isDuration_iff
    rw [← realOf_eq_ok real]
    exact secondsOf_eq_some_iff
  | listedFiles => exact Rule.chooses_orDefault (fun content => intOf_eq_some_iff) (counts 1)
  | excludedPaths =>
    rcases textsOf_eq_ok texts with ⟨raw, stated, stands⟩ | ⟨unfit, rfl⟩
    · exact .given stated stands trivial
    · exact .default fun raw content stated stands _ => unfit raw content stated stands
  | clusterDepth => exact Rule.chooses_orDefault (fun content => intOf_eq_some_iff) fun content => decide_eq_true_iff
  | metricsEnabled =>
    have kept (found : Option Bool) : found.getD true = orDefault true (fun _ => true) found := by cases found <;> rfl
    change (metricsEnabled.rule).Chooses _ ((boolOf (entryOf entries "metrics" "enabled")).getD true)
    rw [kept]
    exact Rule.chooses_orDefault (fun content => boolOf_eq_some_iff) fun content => iff_of_true rfl trivial
  | measuredFiles => exact Rule.chooses_orDefault (fun content => intOf_eq_some_iff) (counts 1)

/-- A setting depends on its own raw value alone. -/
theorem of_congr (setting : Setting) {root : String} {entries others : List (Value × Value)} {settings changed : Settings}
    (read : ofEntries root entries = .ok settings) (again : ofEntries root others = .ok changed)
    (same : setting.rule.raw others = setting.rule.raw entries) : setting.rule.of changed = setting.rule.of settings := by
  obtain ⟨seconds, patterns, real, texts, rfl⟩ := ofEntries_eq_ok read
  obtain ⟨otherSeconds, otherPatterns, otherReal, otherTexts, rfl⟩ := ofEntries_eq_ok again
  cases setting with
  | timeToLive =>
    obtain rfl := Except.ok.inj (otherReal.symm.trans ((congrArg realOf same).trans real))
    rfl
  | excludedPaths => exact Except.ok.inj (otherTexts.symm.trans ((congrArg textsOf same).trans texts))
  | listedFiles | clusterDepth | metricsEnabled | measuredFiles =>
    simp only [rule, Rule.raw] at same ⊢
    rw [same]

end Setting

/-- The file that is read for a path stands in the root and holds a document that is this mapping. -/
inductive Delivers (disk : Disk) (path : List Char) : String → List (Value × Value) → Prop where
  | mapping {location : List Char} {text : String} {entries : List (Value × Value)}
      (place : fileLocation disk path = .ok location) (held : disk.read location = .ok text)
      (filled : Text.isEmptyLine text.toList = false) (spelled : Yaml.load depth text.toList = .ok (.mapping entries)) :
      Delivers disk path (String.ofList (Path.folder location)) entries

theorem load_delivered {disk : Disk} {path : List Char} {root : String} {entries : List (Value × Value)}
    (delivered : Delivers disk path root entries) : load disk path = ofEntries root entries := by
  cases delivered with
  | @mapping location text entries place held filled spelled =>
    obtain ⟨entry, there⟩ := exists_entry_of_read held
    have stated : entriesOfText text = .ok entries := by
      simp only [entriesOfText, filled, spelled]
      cases entries <;> rfl
    simp only [load, place, there, held, bind, Except.bind]
    rw [ofText_eq, stated]
    rfl

/-- Whatever mapping a document is, the settings that are read from it are valid, and each one is what its own raw value
comes to. Another mapping with the same raw value gives the same setting, and so does one that differs only in another
section, whatever stands there. -/
theorem ofEntries_independent {root : String} {entries : List (Value × Value)} {settings : Settings}
    (read : ofEntries root entries = .ok settings) :
    (∀ setting : Setting, setting.rule.IsValid (setting.rule.of settings) ∧
      setting.rule.Chooses (setting.rule.raw entries) (setting.rule.of settings)) ∧
    (∀ others changed, ofEntries root others = .ok changed → ∀ setting : Setting,
      (setting.rule.raw others = setting.rule.raw entries → setting.rule.of changed = setting.rule.of settings) ∧
      ∀ part ≠ setting.rule.part, (∀ name ≠ part, Value.get? name others = Value.get? name entries) →
        setting.rule.of changed = setting.rule.of settings) ∧
    ∀ disk path, Delivers disk path root entries → load disk path = .ok settings := by
  refine ⟨fun setting => ?_, fun others changed again setting => ⟨setting.of_congr read again, ?_⟩, ?_⟩
  · have chosen := setting.chooses read
    exact ⟨chosen.valid setting.default_valid, chosen⟩
  · intro part outside same
    refine setting.of_congr read again ?_
    rw [Rule.raw, entryOf, same _ outside.symm]
    rfl
  · intro disk path delivered
    rw [load_delivered delivered, read]

/-- A negative time to live comes to the default, and a section that is no mapping leaves the settings of another one. -/
theorem ofEntries_independent_broken :
    let scan : Value :=
      .mapping [(.text "max_files", .bool true), (.text "exclude_paths", .list [.text "dist/", .bool true])]
    let seconds : Value := .real (.finite true 4)
    let entries : List (Value × Value) := [(.text "cache", .mapping [(.text "ttl_seconds", seconds)]), (.text "scan", scan)]
    let others : List (Value × Value) := [(.text "cache", .list [seconds]), (.text "scan", scan)]
    let settings : Settings := { root := "/w", scan := ⟨5000, ["dist/", "True"]⟩ }
    ofEntries "/w" entries = .ok settings ∧ ofEntries "/w" others = .ok settings ∧
      Setting.timeToLive.rule.Chooses (some seconds) (.finite false 30) ∧
      ∀ changed, ofEntries "/w" others = .ok changed → changed.scan.excludePaths = ["dist/", "True"] := by
  intro scan seconds entries others settings
  have read : ofEntries "/w" entries = .ok settings := rfl
  obtain ⟨each, alike, -⟩ := ofEntries_independent read
  refine ⟨read, rfl, (each .timeToLive).2, fun changed again => ?_⟩
  refine (alike others changed again .excludedPaths).2 "cache" (by decide) fun name other => ?_
  by_cases here : "scan" = name
  · subst here
    rfl
  · simp [Value.get?, others, entries, beq_false_of_ne here, beq_false_of_ne other.symm]

end Surveyor.Settings
