import Mathlib.Data.List.Forall2
import Surveyor.Environment
import Surveyor.Proofs.Location

/-! What the report on the environment tells of secrets: that they have a value, and nothing about it. Two workspaces
whose files differ only in such values give the same report, also where keys are repeated or described. -/

namespace Surveyor.Environment

/-- The line gives a value to a key that looks like a credential. -/
structure Confides (line key value : List Char) : Prop where
  declared : declaration? (Text.trimChars line) = some (key, value)
  secret : isSecret (String.ofList key) = true
  filled : ∃ c ∈ value, Text.isBlank c = false

inductive Alike : List Char → List Char → Prop where
  | same (line : List Char) : Alike line line
  | secret {first second key value other : List Char} (before : Confides first key value)
      (after : Confides second key other) : Alike first second

/-- Two attempts at reading a file both failed, or gave texts that agree line by line but for secrets. -/
inductive ReadAlike : Except Fault String → Except Fault String → Prop where
  | failed (fault other : Fault) : ReadAlike (.error fault) (.error other)
  | read {first second : String}
      (lines : List.Forall₂ Alike (Text.lines first.toList) (Text.lines second.toList)) :
      ReadAlike (.ok first) (.ok second)

/-- Two folders hold the same environment files, whose texts agree but for secrets. -/
structure FilesAlike (disk other : Disk) (root place : String) : Prop where
  present : ∀ name ∈ fileNames, (disk.entry (Path.locate root.toList name.toList)).map Entry.isFile =
    (other.entry (Path.locate place.toList name.toList)).map Entry.isFile
  texts : ∀ name ∈ fileNames, ReadAlike (disk.read (Path.locate root.toList name.toList))
    (other.read (Path.locate place.toList name.toList))

/-! ## Lines -/

theorem shown_secret {key value : String} (secret : isSecret key = true) (filled : value ≠ "") :
    shown key value = mask := by
  simp [shown, secret, filled]

theorem declaration?_comment (rest : List Char) : declaration? ('#' :: rest) = none := rfl

/-- Only the key of such a line has a say in what is read. -/
theorem readLine_confides {line key value : List Char} (confides : Confides line key value) (source : String)
    (reading : Reading) :
    readLine source reading line =
      if reading.declares (String.ofList key) then reading
      else
        let description := if reading.comment.isEmpty then none else some reading.comment
        { declared := reading.declared ++ [⟨String.ofList key, mask, source, description⟩] } := by
  obtain ⟨c, inside, -⟩ := confides.filled
  have filled : String.ofList value ≠ "" := by
    intro empty
    rw [← String.toList_inj, String.toList_ofList] at empty
    rw [empty] at inside
    cases inside
  unfold readLine
  split
  next comment same =>
    have declared := confides.declared
    rw [same, declaration?_comment] at declared
    cases declared
  next =>
    simp only [confides.declared, shown_secret confides.secret filled]

theorem readLine_alike {first second : List Char} (alike : Alike first second) (source : String) (reading : Reading) :
    readLine source reading first = readLine source reading second := by
  cases alike with
  | same => rfl
  | secret before after => rw [readLine_confides before, readLine_confides after]

theorem foldl_readLine_alike {lines others : List (List Char)} (alike : List.Forall₂ Alike lines others)
    (source : String) (reading : Reading) :
    lines.foldl (readLine source) reading = others.foldl (readLine source) reading := by
  induction alike generalizing reading with
  | nil => rfl
  | cons first rest ih => rw [List.foldl_cons, List.foldl_cons, readLine_alike first, ih]

theorem readFile_alike {first second : String}
    (alike : List.Forall₂ Alike (Text.lines first.toList) (Text.lines second.toList)) (known : List EnvVariable)
    (source : String) : readFile known source first = readFile known source second := by
  rw [readFile, readFile, foldl_readLine_alike alike]

/-! ## Files -/

/-- The texts of the files that can be read, with their names. What is no file cannot be read. -/
def readable (disk : Disk) (root : String) (names : List String) : List (String × String) :=
  names.filterMap fun name =>
    (disk.read (Path.locate root.toList name.toList)).toOption.map fun text => (name, text)

theorem textsOf_readable {disk : Disk} {root : String} {names : List String}
    (short : ∀ name ∈ names, disk.entry (Path.locate root.toList name.toList) ≠ .error .nameTooLong) :
    (textsOf disk root names).value = .ok (readable disk root names) := by
  induction names with
  | nil => rfl
  | cons name rest ih =>
    have later := ih fun other member => short other (List.mem_cons_of_mem _ member)
    simp only [textsOf, readable, List.filterMap_cons]
    split
    next long => exact absurd long (short name List.mem_cons_self)
    next =>
      split
      next read => simp [later, read, readable, Except.toOption, Except.map]
      next read => simp [later, read, readable, Except.toOption]
    next other notFile =>
      have unread : ∃ fault, disk.read (Path.locate root.toList name.toList) = .error fault := by
        rw [Disk.read]
        split
        next fault _ => exact ⟨fault, rfl⟩
        next => exact ⟨.isFolder, rfl⟩
        next content found => exact absurd found (notFile content)
      obtain ⟨fault, read⟩ := unread
      simp [later, read, readable, Except.toOption]

theorem textsOf_eq_ok {disk : Disk} {root : String} {names : List String}
    (short : ∀ name ∈ names, disk.entry (Path.locate root.toList name.toList) ≠ .error .nameTooLong) :
    ∃ texts, (textsOf disk root names).value = .ok texts :=
  ⟨_, textsOf_readable short⟩

theorem textsOf_eq_error {disk : Disk} {root : String} {names : List String}
    (long : ∃ name ∈ names, disk.entry (Path.locate root.toList name.toList) = .error .nameTooLong) :
    (textsOf disk root names).value = .error .nameTooLong := by
  induction names with
  | nil => simp at long
  | cons name rest ih =>
    have later (short : disk.entry (Path.locate root.toList name.toList) ≠ .error .nameTooLong) :
        (textsOf disk root rest).value = .error .nameTooLong := by
      obtain ⟨other, member, far⟩ := long
      rcases List.mem_cons.mp member with rfl | further
      · exact absurd far short
      · exact ih ⟨other, further, far⟩
    simp only [textsOf]
    split
    next => rfl
    next content found =>
      have further := later (by simp [found])
      split <;> simp [further, Except.map]
    next short _ => exact later short

/-- The variables of texts, if some are known already. -/
def ofTextsFrom (known : List EnvVariable) (texts : List (String × String)) : List EnvVariable :=
  texts.foldl (fun known (source, text) => readFile known source text) known

theorem map_ofTextsFrom_cons (known : List EnvVariable) (name text : String)
    (outcome : Except Fault (List (String × String))) :
    (outcome.map ((name, text) :: ·)).map (ofTextsFrom known) =
      outcome.map (ofTextsFrom (readFile known name text)) := by
  cases outcome <;> rfl

/-- Files are compared one by one; what earlier ones declared is the same for both, so it is left open. -/
theorem textsOf_alike {disk other : Disk} {root place : String} {names : List String}
    (present : ∀ name ∈ names, (disk.entry (Path.locate root.toList name.toList)).map Entry.isFile =
      (other.entry (Path.locate place.toList name.toList)).map Entry.isFile)
    (texts : ∀ name ∈ names, ReadAlike (disk.read (Path.locate root.toList name.toList))
      (other.read (Path.locate place.toList name.toList)))
    (known : List EnvVariable) :
    (textsOf disk root names).value.map (ofTextsFrom known) =
      (textsOf other place names).value.map (ofTextsFrom known) := by
  induction names generalizing known with
  | nil => rfl
  | cons name rest ih =>
    have later := ih (fun later member => present later (List.mem_cons_of_mem name member))
      fun later member => texts later (List.mem_cons_of_mem name member)
    have kind := present name List.mem_cons_self
    have read := texts name List.mem_cons_self
    simp only [textsOf]
    generalize disk.read (Path.locate root.toList name.toList) = first at read ⊢
    generalize other.read (Path.locate place.toList name.toList) = second at read ⊢
    generalize disk.entry (Path.locate root.toList name.toList) = here at kind ⊢
    generalize other.entry (Path.locate place.toList name.toList) = there at kind ⊢
    cases here with
    | error fault =>
      cases there with
      | ok entry => cases kind
      | error same =>
        obtain rfl := Except.error.inj kind
        cases fault with
        | nameTooLong => rfl
        | _ => exact later known
    | ok entry =>
      cases there with
      | error fault => cases kind
      | ok counterpart =>
        cases entry with
        | folder children =>
          cases counterpart with
          | folder children => exact later known
          | file content => cases kind
        | file content =>
          cases counterpart with
          | folder children => cases kind
          | file content =>
            cases read with
            | failed fault other => exact later known
            | @read first second lines =>
              simp only [Logged.value_bind, Logged.value_pure, map_ofTextsFrom_cons, readFile_alike lines]
              exact later _

/-- No value of a secret shows in the report, whatever else the files hold. There is a report unless the root is so deep
that the files have no locations. -/
theorem load_alike {disk other : Disk} {root place : String} (alike : FilesAlike disk other root place) :
    (load disk root).value = (load other place).value ∧
      ((∀ name ∈ fileNames, disk.entry (Path.locate root.toList name.toList) ≠ .error .nameTooLong) →
        ∃ report, (load disk root).value = .ok report) := by
  simp only [load, Logged.value_bind, Logged.value_pure]
  refine ⟨textsOf_alike alike.present alike.texts [], ?_⟩
  intro short
  obtain ⟨texts, read⟩ := textsOf_eq_ok short
  exact ⟨ofTexts texts, by rw [read]; rfl⟩

theorem load_alike_guarded :
    let first := Disk.workspace [(".env", "# main\nDB_PASSWORD=hunter2\nPORT=1\n")]
    let second := Disk.workspace [(".env", "# main\n DB_PASSWORD=#no =one\nPORT=1\n")]
    FilesAlike first second "/w" "/w" ∧ (load first "/w").value = (load second "/w").value ∧
      ∃ report, (load first "/w").value = .ok report := by
  intro first second
  have present : ∀ name ∈ fileNames, (first.entry (Path.locate "/w".toList name.toList)).map Entry.isFile =
      (second.entry (Path.locate "/w".toList name.toList)).map Entry.isFile := by
    decide +kernel
  have absent : ∀ name ∈ fileNames.tail, first.read (Path.locate "/w".toList name.toList) = .error .missing ∧
      second.read (Path.locate "/w".toList name.toList) = .error .missing := by
    decide +kernel
  have before : Text.lines "# main\nDB_PASSWORD=hunter2\nPORT=1\n".toList =
      ["# main".toList, "DB_PASSWORD=hunter2".toList, "PORT=1".toList] := by
    decide
  have after : Text.lines "# main\n DB_PASSWORD=#no =one\nPORT=1\n".toList =
      ["# main".toList, " DB_PASSWORD=#no =one".toList, "PORT=1".toList] := by
    decide
  have one : Confides "DB_PASSWORD=hunter2".toList "DB_PASSWORD".toList "hunter2".toList :=
    ⟨by decide, by decide, 'h', List.mem_cons_self, rfl⟩
  have two : Confides " DB_PASSWORD=#no =one".toList "DB_PASSWORD".toList "#no =one".toList :=
    ⟨by decide, by decide, '#', List.mem_cons_self, rfl⟩
  have texts : ∀ name ∈ fileNames, ReadAlike (first.read (Path.locate "/w".toList name.toList))
      (second.read (Path.locate "/w".toList name.toList)) := by
    intro name member
    rcases List.mem_cons.mp member with rfl | other
    · rw [Disk.read_workspace rfl (by decide) (by decide) (by decide) (by decide),
        Disk.read_workspace rfl (by decide) (by decide) (by decide) (by decide)]
      apply ReadAlike.read
      rw [before, after]
      exact .cons (.same _) (.cons (.secret one two) (.cons (.same _) .nil))
    · rw [(absent name other).1, (absent name other).2]
      exact .failed _ _
  have short : ∀ name ∈ fileNames, first.entry (Path.locate "/w".toList name.toList) ≠ .error .nameTooLong := by
    intro name member long
    have kinds : ∀ name ∈ fileNames, (first.entry (Path.locate "/w".toList name.toList)).map Entry.isFile ≠
        .error .nameTooLong := by
      decide +kernel
    exact kinds name member (by rw [long]; rfl)
  obtain ⟨same, returns⟩ := load_alike ⟨present, texts⟩
  exact ⟨⟨present, texts⟩, same, returns short⟩

end Surveyor.Environment
