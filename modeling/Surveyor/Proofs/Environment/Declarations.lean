import Surveyor.Proofs.Environment
import Surveyor.Proofs.Sequence

/-! What is declared in the environment files. Of all declarations, file by file and line by line, the report has the
first one of each key, and the value that it shows for a credential is masked. -/

namespace Surveyor

namespace Environment

/-- A declaration as it stands in its file. -/
structure Declaration where
  key : String
  source : String
  value : String
  deriving DecidableEq, Repr

def IsIdentifier (name : List Char) : Prop :=
  ∃ first rest, name = first :: rest ∧ (first.isAlpha = true ∨ first = '_') ∧
    ∀ c ∈ rest, c.isAlphanum = true ∨ c = '_'

/-- A word for something secret stands in the key, in either case of its letters. -/
def Credential (key : String) : Prop := ∃ word ∈ secretWords, word.toList <:+: (Text.lower key).toList

theorem isSecret_iff {key : String} : isSecret key = true ↔ Credential key := by
  simp only [isSecret, Credential, List.any_eq_true, Text.contains, Text.occursIn_iff]

instance (key : String) : Decidable (Credential key) := decidable_of_iff _ isSecret_iff

/-- The declaration as the report shows it. -/
def Declaration.masked (declaration : Declaration) : Declaration :=
  { declaration with
    value := if declaration.value ≠ "" ∧ Credential declaration.key then mask else declaration.value }

theorem shown_eq (declaration : Declaration) :
    shown declaration.key declaration.value = declaration.masked.value := by
  simp only [shown, Declaration.masked, ← isSecret_iff, Bool.and_eq_true, Bool.not_eq_true', ne_eq,
    String.isEmpty_iff, ← Bool.not_eq_true]

/-- The declaration of a line, if it is one without the blanks around it. -/
def declarationOf? (source : String) (line : List Char) : Option Declaration :=
  (declaration? (Text.trimChars line)).map fun (key, value) => ⟨String.ofList key, source, String.ofList value⟩

def declarationsIn (source : String) (lines : List (List Char)) : List Declaration :=
  lines.filterMap (declarationOf? source)

/-- The declarations of files with their texts. -/
def declarations (texts : List (String × String)) : List Declaration :=
  texts.flatMap fun (source, text) => declarationsIn source (Text.lines text.toList)

end Environment

/-- What is reported of a declaration, without the description. -/
def EnvVariable.declaration (entry : EnvVariable) : Environment.Declaration := ⟨entry.key, entry.source, entry.value⟩

namespace Environment

/-! ## Lines -/

theorem isKeyCharacter_iff {c : Char} : isKeyCharacter c = true ↔ c.isAlphanum = true ∨ c = '_' := by
  simp [isKeyCharacter]

theorem isDigit_of_isAlpha {c : Char} (letter : c.isAlpha = true) : c.isDigit = false := by
  by_contra digit
  rw [Bool.not_eq_false] at digit
  delta Char.isAlpha Char.isUpper Char.isLower at letter
  delta Char.isDigit at digit
  simp only [Bool.or_eq_true, Bool.and_eq_true, decide_eq_true_eq, UInt32.le_iff_toNat_le] at letter digit
  simp at letter digit
  omega

theorem declaration?_eq_some_iff {line key value : List Char} :
    declaration? line = some (key, value) ↔ IsIdentifier key ∧ line = key ++ '=' :: value := by
  constructor
  · intro found
    obtain ⟨rest, whole⟩ := List.takeWhile_prefix isKeyCharacter (l := line)
    have characters : ∀ c ∈ line.takeWhile isKeyCharacter, isKeyCharacter c = true :=
      fun c member => List.mem_takeWhile_imp member
    rw [declaration?] at found
    generalize line.takeWhile isKeyCharacter = name at found whole characters
    subst whole
    rw [List.drop_left] at found
    split at found
    next first others after =>
      split at found
      next => cases found
      next letter =>
        cases found
        refine ⟨⟨first, others, rfl, ?_, fun c member => ?_⟩, rfl⟩
        · simpa [isKeyCharacter, Char.isAlphanum, letter] using characters first List.mem_cons_self
        · exact isKeyCharacter_iff.mp (characters c (List.mem_cons_of_mem first member))
    next => cases found
  · rintro ⟨⟨first, rest, rfl, initial, later⟩, rfl⟩
    have characters : ∀ c ∈ first :: rest, isKeyCharacter c = true := by
      intro c member
      rw [isKeyCharacter_iff]
      rcases List.mem_cons.mp member with rfl | inside
      · exact initial.imp_left fun letter => by simp [Char.isAlphanum, letter]
      · exact later c inside
    have letter : first.isDigit = false := by
      rcases initial with letter | rfl
      · exact isDigit_of_isAlpha letter
      · rfl
    have name : (first :: rest ++ '=' :: value).takeWhile isKeyCharacter = first :: rest := by
      rw [List.takeWhile_append_of_pos characters, List.takeWhile_cons_of_neg (by decide), List.append_nil]
    rw [declaration?, name, List.drop_left]
    simp [letter]

/-- The declarations of a line are those of the grammar: blanks around it apart, an identifier and a value behind `=`. -/
theorem mem_declarationOf? {source : String} {line : List Char} {declaration : Declaration} :
    declaration ∈ declarationOf? source line ↔ declaration.source = source ∧
      IsIdentifier declaration.key.toList ∧
      Text.trimChars line = declaration.key.toList ++ '=' :: declaration.value.toList := by
  obtain ⟨key, place, value⟩ := declaration
  simp only [declarationOf?, Option.mem_def, Option.map_eq_some_iff, Prod.exists, declaration?_eq_some_iff,
    Declaration.mk.injEq]
  constructor
  · rintro ⟨name, text, ⟨identifier, same⟩, rfl, rfl, rfl⟩
    simpa using ⟨identifier, same⟩
  · rintro ⟨rfl, identifier, same⟩
    exact ⟨key.toList, value.toList, ⟨identifier, same⟩, by simp⟩

/-- What a line notes, if it is a comment. -/
def comment? (line : List Char) : Option String :=
  match Text.trimChars line with
  | '#' :: text => some (String.ofList (Text.trimChars text))
  | _ => none

theorem declarationOf?_comment {line : List Char} {text : String} (noted : comment? line = some text)
    (source : String) : declarationOf? source line = none := by
  unfold comment? at noted
  split at noted
  next rest trimmed => rw [declarationOf?, trimmed, declaration?_comment, Option.map_none]
  next => cases noted

/-- The variable that a declaration gives behind the comment that waits. -/
def Reading.entry (reading : Reading) (declaration : Declaration) : EnvVariable where
  key := declaration.key
  value := declaration.masked.value
  source := declaration.source
  description := if reading.comment = "" then none else some reading.comment

theorem Reading.declares_iff {reading : Reading} {key : String} :
    reading.declares key = true ↔ key ∈ reading.declared.map (·.key) := by
  simp [declares]

theorem readLine_comment {line : List Char} {text : String} (noted : comment? line = some text) (source : String)
    (reading : Reading) : readLine source reading line = { reading with comment := text } := by
  unfold comment? at noted
  split at noted
  next rest trimmed =>
    cases noted
    simp only [readLine, trimmed]
  next => cases noted

theorem readLine_silent {line : List Char} (silent : comment? line = none) (source : String) (reading : Reading) :
    readLine source reading line =
      match declarationOf? source line with
      | none => reading
      | some declaration =>
        if reading.declares declaration.key then reading
        else { declared := reading.declared ++ [reading.entry declaration] } := by
  have plain : ∀ text, Text.trimChars line ≠ '#' :: text := by
    intro text trimmed
    simp [comment?, trimmed] at silent
  unfold readLine declarationOf?
  generalize Text.trimChars line = trimmed at plain
  split
  next text => exact absurd rfl (plain text)
  next =>
    cases declaration? trimmed with
    | none => rfl
    | some pair => simp only [Option.map_some, Reading.entry, ← shown_eq, String.isEmpty_iff]

/-- A line is a comment, declares a key for the first time, or is passed over. -/
theorem readLine_cases (source : String) (reading : Reading) (line : List Char) :
    (∃ text, comment? line = some text ∧ readLine source reading line = { reading with comment := text }) ∨
    comment? line = none ∧
      ((∃ declaration, declarationOf? source line = some declaration ∧
          declaration.key ∉ reading.declared.map (·.key) ∧
          readLine source reading line = { declared := reading.declared ++ [reading.entry declaration] }) ∨
        (∀ declaration ∈ declarationOf? source line, declaration.key ∈ reading.declared.map (·.key)) ∧
          readLine source reading line = reading) := by
  cases noted : comment? line with
  | some text => exact .inl ⟨text, rfl, readLine_comment noted source reading⟩
  | none =>
    refine .inr ⟨rfl, ?_⟩
    rw [readLine_silent noted]
    cases declarationOf? source line with
    | none => exact .inr ⟨by simp, rfl⟩
    | some declaration =>
      by_cases known : reading.declares declaration.key = true
      · refine .inr ⟨fun other member => ?_, if_pos known⟩
        obtain rfl := Option.some.inj member
        exact Reading.declares_iff.mp known
      · exact .inl ⟨declaration, rfl, fun member => known (Reading.declares_iff.mpr member), if_neg known⟩

/-! ## Files -/

/-- A declaration more, unless its key is known. -/
def offer (known : List Declaration) (declaration : Declaration) : List Declaration :=
  if declaration.key ∈ known.map (·.key) then known else known ++ [declaration.masked]

theorem declaration_entry (reading : Reading) (declaration : Declaration) :
    (reading.entry declaration).declaration = declaration.masked := rfl

theorem map_declaration_key (entries : List EnvVariable) :
    (entries.map EnvVariable.declaration).map (·.key) = entries.map (·.key) := by
  rw [List.map_map]
  rfl

theorem readLine_offers (source : String) (reading : Reading) (line : List Char) :
    (readLine source reading line).declared.map EnvVariable.declaration =
      (declarationOf? source line).toList.foldl offer (reading.declared.map EnvVariable.declaration) := by
  rcases readLine_cases source reading line with
    ⟨text, noted, read⟩ | ⟨-, ⟨declaration, declared, fresh, read⟩ | ⟨known, read⟩⟩
  · rw [read, declarationOf?_comment noted]
    rfl
  · rw [read, declared, Option.toList_some, List.foldl_cons, List.foldl_nil, offer, map_declaration_key, if_neg fresh,
      List.map_append, List.map_singleton, declaration_entry]
  · rw [read]
    cases declared : declarationOf? source line with
    | none => rfl
    | some declaration =>
      rw [Option.toList_some, List.foldl_cons, List.foldl_nil, offer, map_declaration_key,
        if_pos (known declaration declared)]

theorem foldl_readLine_offers (source : String) (lines : List (List Char)) (reading : Reading) :
    (lines.foldl (readLine source) reading).declared.map EnvVariable.declaration =
      (declarationsIn source lines).foldl offer (reading.declared.map EnvVariable.declaration) := by
  induction lines generalizing reading with
  | nil => rfl
  | cons line lines ih =>
    rw [List.foldl_cons, ih, readLine_offers, declarationsIn, declarationsIn, List.filterMap_cons]
    cases declarationOf? source line <;> rfl

theorem ofTextsFrom_offers (texts : List (String × String)) (known : List EnvVariable) :
    (ofTextsFrom known texts).map EnvVariable.declaration =
      (declarations texts).foldl offer (known.map EnvVariable.declaration) := by
  induction texts generalizing known with
  | nil => rfl
  | cons file texts ih =>
    obtain ⟨source, text⟩ := file
    have first := foldl_readLine_offers source (Text.lines text.toList) { declared := known }
    rw [declarations, List.flatMap_cons, List.foldl_append, ← first]
    exact ih _

theorem ofTexts_offers (texts : List (String × String)) :
    (ofTexts texts).map EnvVariable.declaration = (declarations texts).foldl offer [] :=
  ofTextsFrom_offers texts []

/-- What is offered is taken as the first declarations of keys that are not known yet. -/
theorem foldl_offer (declared known : List Declaration) :
    declared.foldl offer known = known ++
      ((declared.filter fun declaration => declaration.key ∉ known.map (·.key)).eraseDupsBy
        fun later earlier => later.key == earlier.key).map Declaration.masked := by
  induction declared generalizing known with
  | nil => simp
  | cons declaration declared ih =>
    by_cases seen : declaration.key ∈ known.map (·.key)
    · rw [List.foldl_cons, ih, offer, if_pos seen, List.filter_cons_of_neg (by simpa using seen)]
    · have others : (declared.filter fun later => later.key ∉ (known ++ [declaration.masked]).map (·.key)) =
          (declared.filter fun later => later.key ∉ known.map (·.key)).filter
            fun later => (later.key == declaration.key) = false := by
        rw [List.filter_filter]
        apply List.filter_congr
        intro later _
        by_cases same : later.key = declaration.key <;> simp [Declaration.masked, same]
      rw [List.foldl_cons, ih, offer, if_neg seen, others, List.filter_cons_of_pos (by simpa using seen),
        List.eraseDupsBy_cons, List.map_cons, List.append_assoc, List.singleton_append]

theorem map_key_foldl_offer (declared known : List Declaration) :
    (declared.foldl offer known).map (·.key) = known.map (·.key) ++
      ((declared.filter fun declaration => declaration.key ∉ known.map (·.key)).map (·.key)).eraseDups := by
  rw [foldl_offer, List.map_append, List.map_map, ← Sequence.map_eraseDupsBy]
  rfl

theorem mem_keys_foldl_offer {declared known : List Declaration} {key : String} :
    key ∈ (declared.foldl offer known).map (·.key) ↔ key ∈ known.map (·.key) ∨ key ∈ declared.map (·.key) := by
  rw [map_key_foldl_offer, List.mem_append, List.mem_eraseDups]
  constructor
  · rintro (old | new)
    · exact .inl old
    · obtain ⟨declaration, member, rfl⟩ := List.mem_map.mp new
      exact .inr (List.mem_map_of_mem (List.mem_filter.mp member).1)
  · rintro (old | new)
    · exact .inl old
    · by_cases seen : key ∈ known.map (·.key)
      · exact .inl seen
      · obtain ⟨declaration, member, rfl⟩ := List.mem_map.mp new
        exact .inr (List.mem_map_of_mem (List.mem_filter.mpr ⟨member, by simpa using seen⟩))

theorem ofTexts_declarations (texts : List (String × String)) :
    (ofTexts texts).map EnvVariable.declaration =
      ((declarations texts).eraseDupsBy fun later earlier => later.key == earlier.key).map Declaration.masked := by
  rw [ofTexts_offers, foldl_offer]
  simp

theorem ofTexts_keys (texts : List (String × String)) :
    (ofTexts texts).map (·.key) = ((declarations texts).map (·.key)).eraseDups := by
  rw [← map_declaration_key, ofTexts_offers, map_key_foldl_offer]
  simp

/-- The report is that of the files that can be read; only a location that is too long stands in its way. -/
theorem load_cases (disk : Disk) (root : String) :
    (load disk root).value = .ok (ofTexts (readable disk root fileNames)) ∨
      (load disk root).value = .error .nameTooLong ∧
        ∃ name ∈ fileNames, disk.entry (Path.locate root.toList name.toList) = .error .nameTooLong := by
  simp only [load, Logged.value_bind, Logged.value_pure]
  by_cases long : ∃ name ∈ fileNames, disk.entry (Path.locate root.toList name.toList) = .error .nameTooLong
  · exact .inr ⟨by rw [textsOf_eq_error long]; rfl, long⟩
  · exact .inl (by rw [textsOf_readable fun name member far => long ⟨name, member, far⟩]; rfl)

/-- The report gives the first declaration of each key, masked where it is a credential, unless the location of a file is
too long. A file that is not there or cannot be read adds no declaration. -/
theorem load_declarations (disk : Disk) (root : String) :
    let declared := declarations (readable disk root fileNames)
    (∀ source line declaration, declaration ∈ declarationOf? source line ↔ declaration.source = source ∧
      IsIdentifier declaration.key.toList ∧
      Text.trimChars line = declaration.key.toList ++ '=' :: declaration.value.toList) ∧
    ((∃ report, (load disk root).value = .ok report ∧
        report.map EnvVariable.declaration =
          (declared.eraseDupsBy fun later earlier => later.key == earlier.key).map Declaration.masked ∧
        (report.map (·.key)).Nodup ∧
        ∀ declaration ∈ declared, declaration.key ∈ report.map (·.key)) ∨
      (load disk root).value = .error .nameTooLong ∧
        ∃ name ∈ fileNames, disk.entry (Path.locate root.toList name.toList) = .error .nameTooLong) := by
  intro declared
  refine ⟨fun source line declaration => mem_declarationOf?, (load_cases disk root).imp_left fun loaded => ?_⟩
  have keys := ofTexts_keys (readable disk root fileNames)
  refine ⟨_, loaded, ofTexts_declarations _, keys ▸ Sequence.nodup_eraseDups _, ?_⟩
  intro declaration member
  rw [keys, List.mem_eraseDups]
  exact List.mem_map_of_mem member

/-! ## Workspaces -/

section Workspace

variable {files : List (String × String)} {distinct : (files.map (·.1)).Nodup}
  {named : ∀ file ∈ files, Entry.IsName file.1}

theorem fileNames_fit : ∀ name ∈ fileNames, Path.IsInward name.toList ∧ name.utf8ByteSize ≤ Entry.nameLimit ∧
    (String.ofList (Path.locate "/w".toList name.toList)).utf8ByteSize ≤ Disk.locationLimit := by
  decide

theorem readable_workspace (plain : ∀ file ∈ files, '\r' ∉ file.2.toList) :
    readable (Disk.workspace files distinct named) "/w" fileNames =
      fileNames.filterMap fun name => files.find? (·.1 == name) := by
  apply List.filterMap_congr
  intro name member
  obtain ⟨inward, short, near⟩ := fileNames_fit name member
  cases held : files.find? (·.1 == name) with
  | none =>
    rw [Disk.read, Disk.entry_workspace_name inward short near, held]
    rfl
  | some file =>
    obtain ⟨other, text⟩ := file
    obtain rfl : other = name := by simpa using List.find?_some held
    rw [Disk.read_workspace held inward short near (plain _ (List.mem_of_find?_eq_some held))]
    rfl

theorem load_workspace (plain : ∀ file ∈ files, '\r' ∉ file.2.toList) :
    (load (Disk.workspace files distinct named) "/w").value =
      .ok (ofTexts (fileNames.filterMap fun name => files.find? (·.1 == name))) := by
  rcases load_cases (Disk.workspace files distinct named) "/w" with loaded | ⟨-, name, member, long⟩
  · rwa [readable_workspace plain] at loaded
  · obtain ⟨inward, short, near⟩ := fileNames_fit name member
    rw [Disk.entry_workspace_name inward short near] at long
    split at long <;> cases long

end Workspace

end Environment

end Surveyor
