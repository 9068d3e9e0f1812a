import Surveyor.Settings

/-! What settings are read from a folder, by any reader of documents. The entries of the document come first, and each
setting is then coerced on its own. A document that is no mapping, or none at all, is tolerated by a survey; what is not
tolerated comes from single values that are spelled well and yet stand for nothing, or from the reader itself. -/

namespace Surveyor.Settings
open Yaml (Value)

/-- Where the settings of a folder are. -/
def location (folder : List Char) : List Char := Path.resolve (Path.locate folder fileName.toList)

/-- The entries of a document; one that counts as no value has none. -/
def entriesOfText (text : String) (reader : Yaml.Reader := Yaml.load depth) : Except Failure (List (Value × Value)) :=
  if Text.isEmptyLine text.toList then .ok []
  else
    match reader text.toList with
    | .error fault => .error (.document fault)
    | .ok value =>
      if value.isVoid then .ok []
      else
        match value with
        | .mapping entries => .ok entries
        | _ => .error .notMapping

/-- The entries of the document of a folder; one that is not there has none. -/
def entriesAt (disk : Disk) (folder : List Char) (reader : Yaml.Reader := Yaml.load depth) :
    Except Failure (List (Value × Value)) :=
  match disk.entry (location folder) with
  | .error .nameTooLong => .error (.location .nameTooLong)
  | .error _ => .ok []
  | .ok _ =>
    match disk.read (location folder) with
    | .error fault => .error (.unreadable fault)
    | .ok text => entriesOfText text reader

theorem exists_entry_of_read {disk : Disk} {location : List Char} {text : String}
    (held : disk.read location = .ok text) : ∃ entry, disk.entry location = .ok entry := by
  cases reached : disk.entry location with
  | error fault => simp [Disk.read, reached] at held
  | ok entry => exact ⟨entry, rfl⟩

theorem ofText_eq (root text : String) (reader : Yaml.Reader) :
    ofText root text reader = (entriesOfText text reader).bind (ofEntries root) := by
  unfold ofText entriesOfText
  split
  next => rfl
  next =>
    cases reader text.toList with
    | error fault => rfl
    | ok value =>
      dsimp only
      split
      next => rfl
      next => cases value <;> rfl

theorem ofEntries_nil (root : String) : ofEntries root [] = .ok { root } := rfl

theorem load_eq {disk : Disk} {folder : List Char} {children : List (String × Entry)}
    (found : disk.entry folder = .ok (.folder children)) (reader : Yaml.Reader) :
    load disk folder reader =
      (entriesAt disk folder reader).bind (ofEntries (String.ofList (Path.folder (location folder)))) := by
  have place : fileLocation disk folder = .ok (location folder) := by
    simp only [fileLocation, found]
    rfl
  simp only [load, place, entriesAt, bind, Except.bind]
  cases disk.entry (location folder) with
  | error fault =>
    cases fault with
    | nameTooLong => rfl
    | _ => exact (ofEntries_nil _).symm
  | ok entry =>
    cases disk.read (location folder) with
    | error fault => rfl
    | ok text => exact ofText_eq _ text reader

/-- What a section says about a setting. -/
def entryOf (entries : List (Value × Value)) (part name : String) : Option Value :=
  Value.get? name (entriesOf (Value.get? part entries))

/-- The number that a setting stands for; a text may spell one. -/
def secondsOf : Option Value → Option Binary64
  | some (.int value) => some (Binary64.ofInt value)
  | some (.real value) => some value
  | some (.text value) => Numeral.real? value.toList
  | _ => none

/-- The time to live that entries ask for, which is not below zero. -/
def statedSeconds? (entries : List (Value × Value)) : Option Binary64 :=
  (secondsOf (entryOf entries "cache" "ttl_seconds")).filter (Binary64.le (.finite false 0))

theorem realOf_eq_ok {found : Option Value} {seconds : Option Binary64} (real : realOf found = .ok seconds) :
    secondsOf found = seconds := by
  cases found with
  | none => exact Except.ok.inj real
  | some value =>
    cases value with
    | int value =>
      rw [realOf] at real
      by_cases large : (Binary64.ofInt value).isInfinite = true
      · rw [if_pos large] at real
        cases real
      · rw [if_neg large] at real
        exact Except.ok.inj real
    | _ => exact Except.ok.inj real

theorem statedSeconds?_number {entries : List (Value × Value)} {seconds : Binary64}
    (stated : statedSeconds? entries = some seconds) : seconds ≠ .nan := by
  rintro rfl
  obtain ⟨-, positive⟩ := Option.filter_eq_some_iff.mp stated
  cases positive

theorem orDefault_eq {α : Type} (default : α) (isValid : α → Bool) (found : Option α) :
    orDefault default isValid found = (found.filter isValid).getD default := by
  cases found with
  | none => rfl
  | some value => cases valid : isValid value <;> simp [orDefault, Option.filter, valid]

/-- The settings of entries are there if the time to live and the patterns are. All others are read without fail. -/
theorem ofEntries_eq_ok {root : String} {entries : List (Value × Value)} {settings : Settings}
    (read : ofEntries root entries = .ok settings) :
    ∃ seconds patterns, realOf (entryOf entries "cache" "ttl_seconds") = .ok seconds ∧
      textsOf (entryOf entries "scan" "exclude_paths") = .ok patterns ∧
      settings =
        { root
          cache := ⟨orDefault (.finite false 30) (Binary64.le (.finite false 0)) seconds⟩
          scan := ⟨orDefault 5000 (0 < ·) (intOf (entryOf entries "scan" "max_files")), patterns⟩
          graph := ⟨orDefault 1 (0 ≤ ·) (intOf (entryOf entries "graph" "cluster_depth"))⟩
          metrics := ⟨(boolOf (entryOf entries "metrics" "enabled")).getD true,
            orDefault 200 (0 < ·) (intOf (entryOf entries "metrics" "max_files"))⟩ } := by
  change (realOf (entryOf entries "cache" "ttl_seconds")).bind
    (fun seconds => (textsOf (entryOf entries "scan" "exclude_paths")).bind _) = .ok settings at read
  cases real : realOf (entryOf entries "cache" "ttl_seconds") with
  | error failure => simp [real, Except.bind] at read
  | ok seconds =>
    cases texts : textsOf (entryOf entries "scan" "exclude_paths") with
    | error failure => simp [real, texts, Except.bind] at read
    | ok patterns =>
      simp only [real, texts, Except.bind] at read
      exact ⟨seconds, patterns, rfl, rfl, (Except.ok.inj read).symm⟩

theorem timeToLive_ofEntries {root : String} {entries : List (Value × Value)} {settings : Settings}
    (read : ofEntries root entries = .ok settings) :
    settings.cache.timeToLive = (statedSeconds? entries).getD (.finite false 30) := by
  obtain ⟨seconds, -, real, -, rfl⟩ := ofEntries_eq_ok read
  rw [orDefault_eq, statedSeconds?, realOf_eq_ok real]

theorem timeToLive_load {disk : Disk} {folder : List Char} {reader : Yaml.Reader} {children : List (String × Entry)}
    {settings : Settings} (found : disk.entry folder = .ok (.folder children))
    (loaded : load disk folder reader = .ok settings) :
    ∃ entries, entriesAt disk folder reader = .ok entries ∧
      settings.cache.timeToLive = (statedSeconds? entries).getD (.finite false 30) := by
  rw [load_eq found] at loaded
  cases read : entriesAt disk folder reader with
  | error failure => simp [read, Except.bind] at loaded
  | ok entries =>
    rw [read, Except.bind] at loaded
    exact ⟨entries, rfl, timeToLive_ofEntries loaded⟩

/-! ## What is not tolerated -/

theorem realOf_eq_error {found : Option Value} {failure : Failure} :
    realOf found = .error failure ↔
      failure = .tooLarge ∧ ∃ value, found = some (.int value) ∧ (Binary64.ofInt value).isInfinite = true := by
  unfold realOf
  split
  next value =>
    dsimp only
    split
    next large =>
      rw [Except.error.injEq]
      constructor
      · rintro rfl
        exact ⟨rfl, value, rfl, large⟩
      · rintro ⟨rfl, -⟩
        rfl
    next small =>
      simp only [reduceCtorEq, false_iff, not_and, not_exists]
      rintro - other ⟨⟩
      exact small
  next => simp
  next => simp
  next other _ _ =>
    simp only [reduceCtorEq, false_iff, not_and, not_exists]
    rintro - value rfl
    exact (other value rfl).elim

/-- An integer with more digits than are written out. -/
def IsOverlong (value : Int) : Prop := Numeral.digitLimit < (toString value.natAbs).length

theorem itemText_eq_error {item : Value} {failure : Failure} :
    itemText item = .error failure ↔ failure = .tooLong ∧ ∃ value, item = .int value ∧ IsOverlong value := by
  cases item with
  | int value =>
    simp only [itemText, digitsText, IsOverlong]
    split
    next long =>
      rw [Except.map, Except.error.injEq]
      constructor
      · rintro rfl
        exact ⟨rfl, value, rfl, long⟩
      · rintro ⟨rfl, -⟩
        rfl
    next short =>
      simp only [Except.map, reduceCtorEq, false_iff, not_and, not_exists]
      rintro - other ⟨⟩
      exact short
  | _ => simp [itemText]

theorem mapM_itemText_eq_error {items : List Value} {failure : Failure} :
    items.mapM itemText = .error failure ↔ failure = .tooLong ∧ ∃ value, .int value ∈ items ∧ IsOverlong value := by
  induction items with
  | nil => simp [pure, Except.pure]
  | cons item rest ih =>
    rw [List.mapM_cons]
    cases first : itemText item with
    | error other =>
      obtain ⟨rfl, value, rfl, long⟩ := itemText_eq_error.mp first
      simp only [bind, Except.bind, Except.error.injEq]
      constructor
      · rintro rfl
        exact ⟨rfl, value, List.mem_cons_self, long⟩
      · rintro ⟨rfl, -⟩
        rfl
    | ok text =>
      have fits (value : Int) (same : Value.int value = item) : ¬ IsOverlong value := fun long => by
        have failed := itemText_eq_error.mpr ⟨rfl, value, same.symm, long⟩
        rw [first] at failed
        cases failed
      have later : (∃ value, .int value ∈ item :: rest ∧ IsOverlong value) ↔
          ∃ value, .int value ∈ rest ∧ IsOverlong value := by
        refine exists_congr fun value => and_congr_left fun long => ?_
        rw [List.mem_cons, or_iff_right]
        exact fun same => fits value same long
      rw [later, ← ih]
      cases rest.mapM itemText <;> simp [bind, Except.bind, pure, Except.pure]

theorem textsOf_eq_error {found : Option Value} {failure : Failure} :
    textsOf found = .error failure ↔
      failure = .tooLong ∧ ∃ items value, found = some (.list items) ∧ .int value ∈ items ∧ IsOverlong value := by
  unfold textsOf
  split
  next => simp
  next items =>
    have same : (items.mapM itemText).map (fun found => found.filterMap id) = .error failure ↔
        items.mapM itemText = .error failure := by
      cases items.mapM itemText <;> simp [Except.map]
    rw [same, mapM_itemText_eq_error]
    simp
  next => simp
  next other _ =>
    simp only [reduceCtorEq, false_iff, not_and, not_exists]
    rintro - items value rfl
    exact (other items rfl).elim

theorem ofEntries_eq_error {root : String} {entries : List (Value × Value)} {failure : Failure} :
    ofEntries root entries = .error failure ↔
      realOf (entryOf entries "cache" "ttl_seconds") = .error failure ∨
        (∃ seconds, realOf (entryOf entries "cache" "ttl_seconds") = .ok seconds) ∧
          textsOf (entryOf entries "scan" "exclude_paths") = .error failure := by
  change (realOf (entryOf entries "cache" "ttl_seconds")).bind
    (fun seconds => (textsOf (entryOf entries "scan" "exclude_paths")).bind _) = .error failure ↔ _
  cases realOf (entryOf entries "cache" "ttl_seconds") with
  | error other => simp [Except.bind]
  | ok seconds =>
    cases textsOf (entryOf entries "scan" "exclude_paths") with
    | error other => simp [Except.bind]
    | ok patterns => simp [Except.bind, pure, Except.pure]

/-- Entries of a mapping are never refused as a whole. -/
theorem ofEntries_severe {root : String} {entries : List (Value × Value)} {failure : Failure}
    (refused : ofEntries root entries = .error failure) : failure.isTolerated = false := by
  rcases ofEntries_eq_error.mp refused with real | ⟨-, texts⟩
  · obtain ⟨rfl, -⟩ := realOf_eq_error.mp real
    rfl
  · obtain ⟨rfl, -⟩ := textsOf_eq_error.mp texts
    rfl

/-- The values of a folder's settings, or its location, that leave no settings and are not tolerated either. -/
inductive Unfit (disk : Disk) (folder : List Char) (reader : Yaml.Reader) : Failure → Prop where
  | location (long : disk.entry (location folder) = .error .nameTooLong) :
      Unfit disk folder reader (.location .nameTooLong)
  /-- A scalar does not fit its tag, such as a date that is in no calendar, or the reader breaks down. -/
  | scalar {text : String} {fault : Yaml.Fault} (held : disk.read (Settings.location folder) = .ok text)
      (filled : Text.isEmptyLine text.toList = false) (spelled : reader text.toList = .error fault)
      (single : fault ≠ .malformed) : Unfit disk folder reader (.document fault)
  | seconds {entries : List (Value × Value)} {value : Int} (held : entriesAt disk folder reader = .ok entries)
      (stated : entryOf entries "cache" "ttl_seconds" = some (.int value))
      (large : (Binary64.ofInt value).isInfinite = true) : Unfit disk folder reader .tooLarge
  | pattern {entries : List (Value × Value)} {items : List Value} {value : Int} {seconds : Option Binary64}
      (held : entriesAt disk folder reader = .ok entries)
      (fits : realOf (entryOf entries "cache" "ttl_seconds") = .ok seconds)
      (listed : entryOf entries "scan" "exclude_paths" = some (.list items)) (member : .int value ∈ items)
      (long : IsOverlong value) : Unfit disk folder reader .tooLong

theorem entriesOfText_eq_error {text : String} {reader : Yaml.Reader} {failure : Failure}
    (severe : failure.isTolerated = false) :
    entriesOfText text reader = .error failure ↔
      ∃ fault, failure = .document fault ∧ Text.isEmptyLine text.toList = false ∧
        reader text.toList = .error fault ∧ fault ≠ .malformed := by
  unfold entriesOfText
  split
  next blank => simp [blank]
  next filled =>
    cases reader text.toList with
    | error fault =>
      simp only [Except.error.injEq, filled]
      constructor
      · rintro rfl
        exact ⟨fault, rfl, by simp, rfl, by simpa [Failure.isTolerated] using severe⟩
      · rintro ⟨other, rfl, -, rfl, -⟩
        rfl
    | ok value =>
      have tolerated : Failure.notMapping ≠ failure := by
        rintro rfl
        cases severe
      dsimp only
      split
      next => simp
      next => cases value <;> simp [tolerated]

/-- Only a whole document is passed over. -/
theorem entriesAt_of_tolerated {disk : Disk} {folder : List Char} {reader : Yaml.Reader}
    {children : List (String × Entry)} {failure : Failure} (found : disk.entry folder = .ok (.folder children))
    (refused : load disk folder reader = .error failure) (tolerated : failure.isTolerated = true) :
    entriesAt disk folder reader = .error failure := by
  rw [load_eq found] at refused
  cases read : entriesAt disk folder reader with
  | error other => simpa [read, Except.bind] using refused
  | ok entries =>
    rw [read, Except.bind] at refused
    simp [ofEntries_severe refused] at tolerated

/-- What is not tolerated comes from a single value, from the reader, or from where the settings would be. -/
theorem load_unfit_iff {disk : Disk} {folder : List Char} {reader : Yaml.Reader} {children : List (String × Entry)}
    {failure : Failure} (found : disk.entry folder = .ok (.folder children)) :
    load disk folder reader = .error failure ∧ failure.isTolerated = false ↔ Unfit disk folder reader failure := by
  rw [load_eq found]
  constructor
  · rintro ⟨failed, severe⟩
    cases read : entriesAt disk folder reader with
    | error other =>
      obtain rfl : other = failure := by simpa [read, Except.bind] using failed
      unfold entriesAt at read
      split at read
      next long =>
        cases read
        exact .location long
      next => cases read
      next =>
        split at read
        next =>
          cases read
          cases severe
        next text held =>
          obtain ⟨fault, rfl, filled, spelled, single⟩ := (entriesOfText_eq_error severe).mp read
          exact .scalar held filled spelled single
    | ok entries =>
      rw [read] at failed
      rcases ofEntries_eq_error.mp failed with real | ⟨⟨seconds, fits⟩, texts⟩
      · obtain ⟨rfl, value, stated, large⟩ := realOf_eq_error.mp real
        exact .seconds read stated large
      · obtain ⟨rfl, items, value, listed, member, long⟩ := textsOf_eq_error.mp texts
        exact .pattern read fits listed member long
  · intro unfit
    cases unfit with
    | location long =>
      refine ⟨?_, rfl⟩
      simp [entriesAt, long, Except.bind]
    | @scalar text fault held filled spelled single =>
      have severe : (Failure.document fault).isTolerated = false := by simpa [Failure.isTolerated] using single
      refine ⟨?_, severe⟩
      obtain ⟨entry, there⟩ := exists_entry_of_read held
      have refused := (entriesOfText_eq_error severe).mpr ⟨fault, rfl, filled, spelled, single⟩
      simp [entriesAt, there, held, refused, Except.bind]
    | @seconds entries value held stated large =>
      rw [held]
      exact ⟨ofEntries_eq_error.mpr (.inl (realOf_eq_error.mpr ⟨rfl, value, stated, large⟩)), rfl⟩
    | @pattern entries items value seconds held fits listed member long =>
      rw [held]
      have texts := textsOf_eq_error.mpr ⟨rfl, items, value, listed, member, long⟩
      exact ⟨ofEntries_eq_error.mpr (.inr ⟨⟨seconds, fits⟩, texts⟩), rfl⟩

end Surveyor.Settings
