import Surveyor.Proofs.Metrics.Endpoint

/-! Notes in source text. The blanks behind a mark are skipped, and line ends are blanks, so what is noted is the first line
with something on it, from the rest of the mark's own line on. Only where something stands behind the mark is this the
rest of its line. -/

namespace Surveyor.Metrics

open Text

/-- A mark with its colon stands in the text, and `rest` behind them. -/
def Marked (rest text : List Char) : Prop :=
  ∃ before, ∃ mark ∈ noteMarks, text = before ++ (mark.toList ++ ':' :: rest)

/-- What stands before the first line feed. -/
def firstLine (text : List Char) : List Char := text.takeWhile (· != '\n')

/-- The first line that is not blank, without the blanks around it. Without such a line it is empty. -/
def firstFilled (text : List Char) : List Char :=
  trimChars (((text.splitOn '\n').find? fun line => !isEmptyLine line).getD [])

/-! ## Lines -/

theorem splitOn_firstLine (text : List Char) : ∃ later, text.splitOn '\n' = firstLine text :: later := by
  induction text with
  | nil => exact ⟨[], rfl⟩
  | cons c text ih =>
    obtain ⟨later, split⟩ := ih
    rw [List.splitOn_cons_eq_if_modifyHead, split]
    by_cases ends : c = '\n'
    · exact ⟨firstLine text :: later, by simp [ends, firstLine]⟩
    · exact ⟨later, by simp [ends, firstLine]⟩

theorem firstFilled_line {text : List Char} (filled : isEmptyLine (firstLine text) = false) :
    firstFilled text = trimChars (firstLine text) := by
  obtain ⟨later, split⟩ := splitOn_firstLine text
  rw [firstFilled, split, List.find?_cons_of_pos (by simp [filled]), Option.getD_some]

theorem firstFilled_solid {c : Char} (solid : isBlank c = false) (rest : List Char) :
    firstFilled (c :: rest) = trimChars (firstLine (c :: rest)) := by
  have stays : c ≠ '\n' := by
    rintro rfl
    cases solid
  apply firstFilled_line
  simp [firstLine, stays, isEmptyLine, solid]

theorem trimChars_cons_blank {c : Char} {text : List Char} (blank : isBlank c = true) :
    trimChars (c :: text) = trimChars text := by
  rw [trimChars, List.dropWhile_cons_of_pos blank, trimChars]

/-- A blank in front changes nothing, be it a line end or not. -/
theorem firstFilled_cons_blank {c : Char} {text : List Char} (blank : isBlank c = true) :
    firstFilled (c :: text) = firstFilled text := by
  obtain ⟨later, split⟩ := splitOn_firstLine text
  rw [firstFilled, List.splitOn_cons_eq_if_modifyHead, firstFilled, split]
  by_cases ends : c = '\n'
  · simp [ends, isEmptyLine]
  · have same : isEmptyLine (c :: firstLine text) = isEmptyLine (firstLine text) := by simp [isEmptyLine, blank]
    simp only [ends, beq_iff_eq, ite_false, List.modifyHead_cons, List.find?_cons, same]
    cases isEmptyLine (firstLine text) with
    | true => rfl
    | false => exact trimChars_cons_blank blank

theorem firstFilled_skipBlanks (text : List Char) : firstFilled (skipBlanks text) = firstFilled text := by
  induction text with
  | nil => rfl
  | cons c text ih =>
    cases blank : isBlank c with
    | true => rw [firstFilled_cons_blank blank, ← ih, skipBlanks, List.dropWhile_cons_of_pos blank, skipBlanks]
    | false => rw [skipBlanks, List.dropWhile_cons_of_neg (by simp [blank])]

/-! ## Notes -/

theorem trimChars_readNote {text note tail : List Char} (found : readNote text = some (note, tail)) :
    ∃ rest, (∃ mark ∈ noteMarks, text = mark.toList ++ ':' :: rest) ∧ trimChars note = firstFilled rest := by
  obtain ⟨rest, start, reads⟩ := Option.bind_eq_some_iff.mp found
  obtain ⟨mark, member, marked⟩ := List.exists_of_findSome?_eq_some start
  refine ⟨rest, ⟨mark, member, by simpa using eq_append_of_after? marked⟩, ?_⟩
  rw [← firstFilled_skipBlanks]
  cases filled : skipBlanks rest with
  | nil =>
    have blank : ∀ c ∈ rest, isBlank c = true := List.dropWhile_eq_nil_iff.mp filled
    simp only [filled] at reads
    cases last : (rest.reverse.dropWhile (· == '\n')).head? with
    | none => simp [last] at reads
    | some c =>
      have inside : c ∈ rest := by
        have member := (List.dropWhile_suffix _).subset (List.mem_of_mem_head? last)
        exact List.mem_reverse.mp member
      simp only [last, Option.some.injEq, Prod.mk.injEq] at reads
      rw [← reads.1, trimChars_eq_nil_iff.mpr (by simp [blank c inside])]
      rfl
  | cons c more =>
    simp only [filled, Option.some.injEq, Prod.mk.injEq] at reads
    rw [← reads.1]
    exact (firstFilled_solid (ends_of_dropWhile_eq filled) more).symm

theorem exists_marked_of_mem_notes {text note : List Char} (member : note ∈ notes text) :
    ∃ rest, Marked rest text ∧ note = firstFilled rest := by
  obtain ⟨found, collected, rfl⟩ := List.mem_map.mp member
  obtain ⟨place, tail, ⟨before, split⟩, read⟩ := exists_read_of_mem_collect collected
  obtain ⟨rest, ⟨mark, known, rfl⟩, trimmed⟩ := trimChars_readNote read
  exact ⟨rest, ⟨before, mark, known, split.symm⟩, trimmed⟩

section Run

variable {disk : Disk} {root : String} {limit : Int} {paths : List String}

theorem measure_notes_eq : (measure disk root limit paths).value.notes =
    (((leading limit (paths.filter isMeasured)).filterMap fun path => (factsOf disk root path).value).flatMap
      (·.notes)).take noteLimit := by
  simp [measure, Logged.mapList, ofFacts, List.filterMap_map]

theorem exists_notes_of_mem_measure {note : String} (reported : note ∈ (measure disk root limit paths).value.notes) :
    ∃ path text, Measured disk root limit paths path text ∧ note.toList ∈ notes text.toList := by
  rw [measure_notes_eq] at reported
  obtain ⟨facts, present, inside⟩ := List.mem_flatMap.mp (List.mem_of_mem_take reported)
  obtain ⟨path, member, read⟩ := List.mem_filterMap.mp present
  obtain ⟨text, content, rfl⟩ := factsOf_value_eq_some_iff.mp read
  obtain ⟨written, first, rfl⟩ := List.mem_map.mp inside
  exact ⟨path, text, ⟨member, content⟩, by simpa using List.mem_of_mem_take first⟩

/-- Each note stands behind a mark of a file that is looked at. It is the first line that is not blank, from the rest of the
mark's line on, and it is empty if there is none. So where something stands on the line behind the mark, the note is
that, without the blanks around it. -/
theorem measure_notes {note : String} (reported : note ∈ (measure disk root limit paths).value.notes) :
    ∃ path text, Measured disk root limit paths path text ∧ ∃ rest, Marked rest text.toList ∧
      note.toList = firstFilled rest ∧
      (isEmptyLine (firstLine rest) = false → note ≠ "" ∧ note.toList = trimChars (firstLine rest)) := by
  obtain ⟨path, text, measured, member⟩ := exists_notes_of_mem_measure reported
  obtain ⟨rest, marked, first⟩ := exists_marked_of_mem_notes member
  refine ⟨path, text, measured, rest, marked, first, ?_⟩
  intro filled
  rw [firstFilled_line filled] at first
  refine ⟨?_, first⟩
  rintro rfl
  have blank : ∀ c ∈ firstLine rest, isBlank c = true := trimChars_eq_nil_iff.mp first.symm
  rw [isEmptyLine, List.all_eq_true.mpr blank] at filled
  cases filled

end Run

/-! Three marks, of which only the first has something behind it on its line. -/

def notedPath : String := "src/port.ts"

def notedText : String := "// HACK: drop this\n// TODO:\nconst port = 1\n// FIXME: \n"

def notedDisk : Disk := .lone ["w", "src", "port.ts"] notedText

theorem leading_noted : leading 200 ([notedPath].filter isMeasured) = [notedPath] := by decide +kernel

theorem read_noted : notedDisk.read (Path.locate "/w".toList notedPath.toList) = .ok notedText := by
  have location : Path.locate "/w".toList notedPath.toList =
      Path.absolute (["w", "src", "port.ts"].map String.toList) := by decide +kernel
  rw [location]
  exact Disk.read_lone (by decide) (by decide) (by decide +kernel) (by decide +kernel)

theorem measure_noted :
    (measure notedDisk "/w" 200 [notedPath]).value.notes = ["drop this", "const port = 1", ""] := by
  have facts : (factsOf notedDisk "/w" notedPath).value = some (FileFacts.ofText notedPath notedText) :=
    factsOf_value_eq_some_iff.mpr ⟨notedText, read_noted, rfl⟩
  have written : (FileFacts.ofText notedPath notedText).notes = ["drop this", "const port = 1", ""] := by decide +kernel
  simp only [measure_notes_eq, leading_noted, List.filterMap_cons, facts, List.filterMap_nil, List.flatMap_singleton, written]
  rfl

theorem measure_notes_hack :
    "drop this" ∈ (measure notedDisk "/w" 200 [notedPath]).value.notes ∧
      ∃ path text, Measured notedDisk "/w" 200 [notedPath] path text ∧ ∃ rest, Marked rest text.toList ∧
        "drop this".toList = firstFilled rest ∧ (isEmptyLine (firstLine rest) = false →
          "drop this" ≠ "" ∧ "drop this".toList = trimChars (firstLine rest)) := by
  have reported : "drop this" ∈ (measure notedDisk "/w" 200 [notedPath]).value.notes := by simp [measure_noted]
  exact ⟨reported, measure_notes reported⟩

/-- One note is empty, and another one stands behind no mark on its line. -/
theorem not_measure_notes_line :
    "" ∈ (measure notedDisk "/w" 200 [notedPath]).value.notes ∧
      "const port = 1" ∈ (measure notedDisk "/w" 200 [notedPath]).value.notes ∧
      ¬ ∃ path text, Measured notedDisk "/w" 200 [notedPath] path text ∧ ∃ rest, Marked rest text.toList ∧
        "const port = 1".toList = trimChars (firstLine rest) := by
  refine ⟨by simp [measure_noted], by simp [measure_noted], ?_⟩
  intro ⟨path, text, measured, rest, ⟨before, mark, known, split⟩, same⟩
  obtain ⟨rfl, rfl⟩ := (measured_single_iff leading_noted read_noted).mp measured
  have everywhere : ∀ place ∈ notedText.toList.tails, ∀ mark ∈ noteMarks, ∀ rest ∈ after? (mark.toList ++ [':']) place,
      trimChars (firstLine rest) ≠ "const port = 1".toList := by decide +kernel
  have marked : after? (mark.toList ++ [':']) (mark.toList ++ ':' :: rest) = some rest := by
    have joined : mark.toList ++ ':' :: rest = (mark.toList ++ [':']) ++ rest := by simp
    rw [joined, after?_append]
  exact everywhere _ ((List.mem_tails ..).mpr ⟨before, split.symm⟩) mark known rest marked same.symm

end Surveyor.Metrics
