import Surveyor.Proofs.Environment.Declarations

/-! Which comment describes a variable. A comment waits for the next key that is declared for the first time, over lines of
neither kind and over keys that are known. So the comment right above a declaration describes it, but where the line
right above is passed over, a comment further up does. -/

namespace Surveyor.Environment

/-- What is read before a line: the files in front of its own, and the lines above it. -/
structure Place where
  earlier : List (String × String)
  source : String
  above : List (List Char)

namespace Place

/-- The line stands at this place of the files. -/
def Holds (place : Place) (line : List Char) (texts : List (String × String)) : Prop :=
  ∃ text below later, texts = place.earlier ++ (place.source, text) :: later ∧
    Text.lines text.toList = place.above ++ line :: below

/-- What is declared before the line. -/
def declared (place : Place) : List Declaration :=
  declarations place.earlier ++ declarationsIn place.source place.above

/-- The key is declared before the line. -/
def knows (place : Place) (key : String) : Prop := key ∈ place.declared.map (·.key)

/-- A comment above has this text, and all lines between are passed over: none is a comment, and what keys they declare
are known already where the comment stands. -/
def Awaits (place : Place) (text : String) : Prop :=
  ∃ upper comment lower, place.above = upper ++ comment :: lower ∧ comment? comment = some text ∧
    ∀ line ∈ lower, comment? line = none ∧
      ∀ declaration ∈ declarationOf? place.source line, knows { place with above := upper } declaration.key

/-- The description from the line right above, if that is a comment that says something. -/
def directlyAbove (place : Place) : Option String := (place.above.getLast?.bind comment?).filter (· ≠ "")

/-- The line declares the variable for the first time, and the comment that waits describes it. -/
structure Gives (place : Place) (line : List Char) (entry : EnvVariable) : Prop where
  declaration : ∃ declaration ∈ declarationOf? place.source line, entry.declaration = declaration.masked
  first : ¬ place.knows entry.key
  description : ∀ text, entry.description = some text ↔ text ≠ "" ∧ place.Awaits text

/-- What is known when a line is read. -/
def reading (place : Place) : Reading :=
  place.above.foldl (readLine place.source) { declared := ofTexts place.earlier }

/-- The place below one more line. -/
def next (place : Place) (line : List Char) : Place := { place with above := place.above ++ [line] }

theorem reading_next (place : Place) (line : List Char) :
    (place.next line).reading = readLine place.source place.reading line := by
  rw [reading, next, List.foldl_append]
  rfl

theorem knows_iff {place : Place} {key : String} : place.knows key ↔ key ∈ place.reading.declared.map (·.key) := by
  have declared : place.reading.declared.map EnvVariable.declaration = place.declared.foldl offer [] := by
    rw [reading, foldl_readLine_offers, ofTexts_offers, Place.declared, List.foldl_append]
  rw [← map_declaration_key, declared, mem_keys_foldl_offer, knows]
  simp only [List.map_nil, List.not_mem_nil, false_or]

/-- Between a place and a comment that it awaits nothing is declared that was not known above the comment. -/
theorem knows_of_passed {place : Place} {upper lower : List (List Char)} {comment : List Char} {text key : String}
    (split : place.above = upper ++ comment :: lower) (noted : comment? comment = some text)
    (passed : ∀ line ∈ lower, ∀ declaration ∈ declarationOf? place.source line,
      knows { place with above := upper } declaration.key) :
    place.knows key ↔ knows { place with above := upper } key := by
  have whole : declarationsIn place.source place.above =
      declarationsIn place.source upper ++ declarationsIn place.source lower := by
    rw [split, declarationsIn, List.filterMap_append, List.filterMap_cons, declarationOf?_comment noted]
    rfl
  simp only [knows, declared, whole, List.map_append, List.mem_append] at passed ⊢
  refine ⟨?_, ?_⟩
  · rintro (early | high | low)
    · exact .inl early
    · exact .inr high
    · obtain ⟨declaration, member, rfl⟩ := List.mem_map.mp low
      obtain ⟨line, inside, declares⟩ := List.mem_filterMap.mp member
      exact passed line inside declaration declares
  · rintro (early | high)
    · exact .inl early
    · exact .inr (.inl high)

theorem awaits_next {place : Place} {line : List Char} {text : String} :
    (place.next line).Awaits text ↔ comment? line = some text ∨
      comment? line = none ∧ (∀ declaration ∈ declarationOf? place.source line, place.knows declaration.key) ∧
        place.Awaits text := by
  constructor
  · rintro ⟨upper, comment, lower, split, noted, passed⟩
    rcases List.eq_nil_or_concat' lower with rfl | ⟨between, last, rfl⟩
    · obtain ⟨-, same⟩ := List.append_inj' split rfl
      obtain rfl := List.singleton_inj.mp same
      exact .inl noted
    · rw [← List.cons_append, ← List.append_assoc] at split
      obtain ⟨above, same⟩ := List.append_inj' split rfl
      obtain rfl := List.singleton_inj.mp same
      obtain ⟨silent, known⟩ := passed line (by simp)
      have passed : ∀ other ∈ between, comment? other = none ∧ ∀ declaration ∈ declarationOf? place.source other,
          knows { place with above := upper } declaration.key :=
        fun other member => passed other (List.mem_append_left _ member)
      refine .inr ⟨silent, fun declaration declares => ?_, upper, comment, between, above, noted, passed⟩
      exact (knows_of_passed above noted fun other member => (passed other member).2).mpr (known declaration declares)
  · rintro (noted | ⟨silent, known, upper, comment, lower, split, noted, passed⟩)
    · exact ⟨place.above, line, [], rfl, noted, by simp⟩
    · refine ⟨upper, comment, lower ++ [line], by simp [next, split], noted, fun other member => ?_⟩
      rcases List.mem_append.mp member with earlier | last
      · exact passed other earlier
      · obtain rfl := List.mem_singleton.mp last
        refine ⟨silent, fun declaration declares => ?_⟩
        exact (knows_of_passed split noted fun other member => (passed other member).2).mp (known declaration declares)

/-- The comment that waits in the loop is the one that the place awaits. -/
theorem comment_reading {text : String} (filled : text ≠ "") (place : Place) :
    place.reading.comment = text ↔ place.Awaits text := by
  obtain ⟨earlier, source, above⟩ := place
  -- Both sides change only with the last line above, so the induction takes lines off the end.
  induction above using List.reverseRecOn with
  | nil => simp [reading, Awaits, filled.symm]
  | append_singleton above line ih =>
    have step := reading_next ⟨earlier, source, above⟩ line
    have awaited := @awaits_next ⟨earlier, source, above⟩ line text
    simp only [next] at step awaited
    rw [step, awaited]
    rcases readLine_cases source (reading ⟨earlier, source, above⟩) line with
      ⟨other, noted, read⟩ | ⟨silent, ⟨declaration, declares, fresh, read⟩ | ⟨known, read⟩⟩
    · simp [read, noted]
    · have unknown : ¬ knows ⟨earlier, source, above⟩ declaration.key := fun known => fresh (knows_iff.mp known)
      simp [read, silent, declares, unknown, filled.symm]
    · have passed : ∀ declaration ∈ declarationOf? source line, knows ⟨earlier, source, above⟩ declaration.key :=
        fun declaration declares => knows_iff.mpr (known declaration declares)
      simp only [read, silent, ih, reduceCtorEq, false_or, true_and]
      exact (and_iff_right passed).symm

theorem description_entry (place : Place) (declaration : Declaration) (text : String) :
    (place.reading.entry declaration).description = some text ↔ text ≠ "" ∧ place.Awaits text := by
  dsimp only [Reading.entry]
  constructor
  · intro described
    split at described
    next => cases described
    next filled =>
      obtain rfl := Option.some.inj described
      exact ⟨filled, (comment_reading filled place).mp rfl⟩
  · rintro ⟨filled, awaited⟩
    rw [(comment_reading filled place).mpr awaited, if_neg filled]

theorem gives_iff {place : Place} {line : List Char} {entry : EnvVariable} :
    place.Gives line entry ↔ ∃ declaration ∈ declarationOf? place.source line,
      declaration.key ∉ place.reading.declared.map (·.key) ∧ entry = place.reading.entry declaration := by
  constructor
  · rintro ⟨⟨declaration, declares, same⟩, first, description⟩
    have described : entry.description = (place.reading.entry declaration).description :=
      Option.ext fun text => (description text).trans (description_entry place declaration text).symm
    obtain ⟨key, value, source, text⟩ := entry
    obtain ⟨rfl, rfl, rfl⟩ := Declaration.mk.inj same
    refine ⟨declaration, declares, fun known => first (knows_iff.mpr known), ?_⟩
    dsimp only at described
    rw [described]
    rfl
  · rintro ⟨declaration, declares, fresh, rfl⟩
    exact ⟨⟨declaration, declares, rfl⟩, fun known => fresh (knows_iff.mp known), description_entry place declaration⟩

/-- Only what stands right above describes the variable, unless that is no comment and one further up is awaited. -/
theorem Gives.description_iff {place : Place} {line : List Char} {entry : EnvVariable} (gives : place.Gives line entry) :
    entry.description = place.directlyAbove ↔
      ∀ last ∈ place.above.getLast?, comment? last = none → ∀ text, place.Awaits text → text = "" := by
  obtain ⟨earlier, source, above⟩ := place
  have described := gives.description
  rcases List.eq_nil_or_concat' above with rfl | ⟨above, last, rfl⟩
  · have nothing : entry.description = none := by
      refine Option.eq_none_iff_forall_ne_some.mpr fun text said => ?_
      obtain ⟨-, upper, comment, lower, split, -⟩ := (described text).mp said
      simp at split
    simp [nothing, directlyAbove]
  · have awaited (text : String) := @awaits_next ⟨earlier, source, above⟩ last text
    simp only [next] at awaited
    have right : directlyAbove ⟨earlier, source, above ++ [last]⟩ = (comment? last).filter (· ≠ "") := by
      simp [directlyAbove]
    cases noted : comment? last with
    | some words =>
      refine iff_of_true (Option.ext fun text => ?_) (by simp [noted])
      rw [described, awaited, right, noted, Option.filter_eq_some_iff]
      simp [and_comm]
    | none =>
      rw [right, noted, Option.filter_none, Option.eq_none_iff_forall_ne_some]
      simp only [List.getLast?_concat, Option.mem_some, forall_eq', noted, forall_const, ne_eq, described, not_and,
        not_imp_not]

end Place

/-! ## The report -/

theorem mem_readLine (source : String) (entry : EnvVariable) (reading : Reading) (line : List Char) :
    entry ∈ (readLine source reading line).declared ↔ entry ∈ reading.declared ∨
      ∃ declaration ∈ declarationOf? source line,
        declaration.key ∉ reading.declared.map (·.key) ∧ entry = reading.entry declaration := by
  rcases readLine_cases source reading line with
    ⟨text, noted, read⟩ | ⟨-, ⟨declaration, declares, fresh, read⟩ | ⟨known, read⟩⟩
  · simp [read, declarationOf?_comment noted]
  · rw [read, List.mem_append, List.mem_singleton]
    refine or_congr_right ⟨fun same => ⟨declaration, declares, fresh, same⟩, ?_⟩
    rintro ⟨other, found, -, same⟩
    obtain rfl := Option.some.inj (declares.symm.trans found)
    exact same
  · rw [read]
    refine (or_iff_left ?_).symm
    rintro ⟨declaration, declares, fresh, -⟩
    exact fresh (known declaration declares)

theorem mem_readFile (entry : EnvVariable) (known : List EnvVariable) (file : String × String) :
    entry ∈ readFile known file.1 file.2 ↔ entry ∈ known ∨
      ∃ above line below, Text.lines file.2.toList = above ++ line :: below ∧
        ∃ declaration ∈ declarationOf? file.1 line,
          declaration.key ∉ (above.foldl (readLine file.1) { declared := known }).declared.map (·.key) ∧
            entry = (above.foldl (readLine file.1) { declared := known }).entry declaration :=
  Sequence.foldl_iff (fun reading : Reading => entry ∈ reading.declared) (mem_readLine file.1 entry)
    (Text.lines file.2.toList) { declared := known }

/-- Every variable of the report stands for a line that declares it. -/
theorem mem_ofTexts {texts : List (String × String)} {entry : EnvVariable} :
    entry ∈ ofTexts texts ↔ ∃ (place : Place) (line : List Char), place.Holds line texts ∧ place.Gives line entry := by
  rw [ofTexts, Sequence.foldl_iff (entry ∈ ·) (mem_readFile entry)]
  simp only [List.not_mem_nil, false_or]
  constructor
  · rintro ⟨earlier, ⟨source, text⟩, later, files, above, line, below, split, given⟩
    exact ⟨⟨earlier, source, above⟩, line, ⟨text, below, later, files, split⟩, Place.gives_iff.mpr given⟩
  · rintro ⟨⟨earlier, source, above⟩, line, ⟨text, below, later, files, split⟩, gives⟩
    exact ⟨earlier, (source, text), later, files, above, line, below, split, Place.gives_iff.mp gives⟩

/-- The description of each variable is the comment that its declaration awaits. That is what stands right above the
declaration exactly if no comment further up waits past a line that is none. -/
theorem load_descriptions (disk : Disk) (root : String) :
    (∃ report, (load disk root).value = .ok report ∧
        (∀ entry, entry ∈ report ↔ ∃ (place : Place) (line : List Char),
          place.Holds line (readable disk root fileNames) ∧ place.Gives line entry) ∧
        ∀ (place : Place) (line : List Char) (entry : EnvVariable), place.Gives line entry →
          (entry.description = place.directlyAbove ↔
            ∀ last ∈ place.above.getLast?, comment? last = none → ∀ text, place.Awaits text → text = "")) ∨
      (load disk root).value = .error .nameTooLong ∧
        ∃ name ∈ fileNames, disk.entry (Path.locate root.toList name.toList) = .error .nameTooLong := by
  refine (load_cases disk root).imp_left fun loaded => ⟨_, loaded, fun entry => mem_ofTexts, ?_⟩
  exact fun place line entry gives => gives.description_iff

/-- A comment on a key that an earlier file declares describes the next variable, which has no comment above it. -/
theorem not_directlyAbove_repeated :
    let first := "PORT=3000\n"
    let second := "# Port of the server\nPORT=8080\nSITE_NAME=Shop\n"
    let disk := Disk.workspace [(".env", first), (".env.example", second)]
    let place : Place := ⟨[(".env", first)], ".env.example", ["# Port of the server".toList, "PORT=8080".toList]⟩
    let entry : EnvVariable := ⟨"SITE_NAME", "Shop", ".env.example", some "Port of the server"⟩
    (load disk "/w").value = .ok [⟨"PORT", "3000", ".env", none⟩, entry] ∧
      place.Holds "SITE_NAME=Shop".toList (readable disk "/w" fileNames) ∧
      declarationOf? ".env.example" "SITE_NAME=Shop".toList = some entry.declaration ∧
      entry.description ≠ place.directlyAbove := by
  intro first second disk place entry
  have plain : ∀ file ∈ [(".env", first), (".env.example", second)], '\r' ∉ file.2.toList := by decide
  have texts : readable disk "/w" fileNames = [(".env", first), (".env.example", second)] :=
    (readable_workspace plain).trans (by decide)
  have lines : Text.lines second.toList =
      ["# Port of the server".toList, "PORT=8080".toList, "SITE_NAME=Shop".toList] := by
    decide
  refine ⟨(load_workspace plain).trans (by decide), ⟨second, [], [], texts, lines⟩, by decide, by decide⟩

end Surveyor.Environment
