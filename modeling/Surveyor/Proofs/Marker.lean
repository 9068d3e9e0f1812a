import Surveyor.FileStats
import Surveyor.Marker
import Surveyor.Proofs.Location

/-! What shows a marker: a file or a folder at one of its places, or a listed file whose name has one of its patterns. Tests
are told twice, as a marker by patterns for names and among the counts of files by a mark anywhere in a path, there with
letters of either case alike. Whatever the patterns find is counted as a test, and as code. -/

namespace Surveyor

/-! ## Markers -/

namespace Marker

/-- Whether a file has a name that shows the marker, wherever the file stands. -/
def shownBy (marker : Marker) (path : String) : Bool :=
  marker.evidence.any fun
    | .named pattern => Glob.fits (Glob.parse pattern.toList) (Path.name path.toList)
    | _ => false

/-- Whether a file or a folder on the disk shows the marker, listed or not. -/
def shownOn (marker : Marker) (disk : Disk) (root : String) : Bool :=
  marker.evidence.any fun
    | .file path => disk.isFile (Path.locate root.toList path.toList)
    | .folder path => disk.isFolder (Path.locate root.toList path.toList)
    | .named _ => false

theorem mem_all (marker : Marker) : marker ∈ all := by
  cases marker <;> decide

end Marker

theorem Markers.has_detect_iff {disk : Disk} {root : String} {listed : List String} {marker : Marker} :
    (detect disk root listed).has marker = true ↔
      (∃ path ∈ listed, marker.shownBy path = true) ∨ marker.shownOn disk root = true := by
  simp only [detect, has, List.contains_iff_mem, List.mem_filter, Marker.mem_all, true_and, Marker.shownBy, Marker.shownOn,
    List.any_eq_true]
  constructor
  · rintro ⟨evidence, member, shown⟩
    cases evidence with
    | file | folder => exact .inr ⟨_, member, shown⟩
    | named pattern =>
      obtain ⟨path, inside, fits⟩ := List.any_eq_true.mp shown
      exact .inl ⟨path, inside, _, member, fits⟩
  · rintro (⟨path, inside, evidence, member, fits⟩ | ⟨evidence, member, there⟩)
    · cases evidence with
      | file | folder => cases fits
      | named pattern => exact ⟨_, member, List.any_eq_true.mpr ⟨path, inside, fits⟩⟩
    · cases evidence with
      | file | folder => exact ⟨_, member, there⟩
      | named pattern => cases there

/-! ## Names of tests -/

/-- A stem, which may be empty, a word for tests and the ending of a script, with dots between them. -/
def NamesTest (name : List Char) : Prop :=
  ∃ stem, ∃ word ∈ ["test", "spec"], ∃ ending ∈ ["js", "ts", "jsx", "tsx"],
    name = stem ++ '.' :: word.toList ++ '.' :: ending.toList

namespace Marker

def testPatterns : List String := ["*.test.[jt]s", "*.test.[jt]sx", "*.spec.[jt]s", "*.spec.[jt]sx"]

/-- The pieces of a pattern for tests: one of two letters starts the ending, and `tail` is the rest of it. -/
def testPieces (word tail : String) : List Glob.Piece :=
  .anyText :: (('.' :: word.toList ++ ['.']).map .character ++
    .oneOf false [.single 'j', .single 't'] :: (tail.toList.map .character ++ []))

theorem accepts_testPieces {word tail : String} {name : List Char} :
    Glob.accepts (testPieces word tail) name = true ↔
      ∃ stem, ∃ letter ∈ ['j', 't'], name = stem ++ '.' :: word.toList ++ '.' :: letter :: tail.toList := by
  rw [testPieces, Glob.accepts_anyText]
  constructor
  · rintro ⟨stem, _, rfl, fits⟩
    obtain ⟨_, rfl, behind⟩ := Glob.accepts_literal.mp fits
    obtain ⟨letter, _, rfl, own, ending⟩ := (Glob.accepts_single (by simp)).mp behind
    obtain ⟨_, rfl, empty⟩ := Glob.accepts_literal.mp ending
    obtain rfl := List.isEmpty_iff.mp empty
    exact ⟨stem, letter, by simpa [Glob.Piece.accepts, Glob.Member.holds] using own, by simp⟩
  · rintro ⟨stem, letter, own, rfl⟩
    refine ⟨stem, ('.' :: word.toList ++ ['.']) ++ letter :: (tail.toList ++ []), by simp, ?_⟩
    refine Glob.accepts_literal.mpr ⟨_, rfl, (Glob.accepts_single (by simp)).mpr ⟨letter, _, rfl, ?_, ?_⟩⟩
    · simpa [Glob.Piece.accepts, Glob.Member.holds] using own
    · exact Glob.accepts_literal.mpr ⟨[], rfl, rfl⟩

theorem shownBy_tests_iff_accepts {path : String} : tests.shownBy path = true ↔
    ∃ word ∈ ["test", "spec"], ∃ tail ∈ ["s", "sx"], Glob.accepts (testPieces word tail) (Path.name path.toList) = true := by
  have patterns : tests.evidence = testPatterns.map Evidence.named := rfl
  have parsed : testPatterns.map (fun pattern => Glob.parse pattern.toList) =
      ["test", "spec"].flatMap fun word => ["s", "sx"].map (testPieces word) := by decide +kernel
  have named : tests.shownBy path = (testPatterns.map fun pattern => Glob.parse pattern.toList).any fun pieces =>
      Glob.fits pieces (Path.name path.toList) := by
    rw [shownBy, patterns, List.any_map, List.any_map]
    rfl
  simp only [named, parsed, List.any_flatMap, List.any_map, List.any_eq_true, Function.comp_apply, Glob.fits_eq_accepts]

/-- The patterns for tests in words. -/
theorem shownBy_tests_iff {path : String} : tests.shownBy path = true ↔ NamesTest (Path.name path.toList) := by
  have endings {letter : Char} {tail : String} (first : letter ∈ ['j', 't']) (last : tail ∈ ["s", "sx"]) :
      String.ofList (letter :: tail.toList) ∈ ["js", "ts", "jsx", "tsx"] := by
    simp only [List.mem_cons, List.not_mem_nil, or_false] at first last
    rcases first with rfl | rfl <;> rcases last with rfl | rfl <;> decide
  have parted {ending : String} (script : ending ∈ ["js", "ts", "jsx", "tsx"]) :
      ∃ letter ∈ ['j', 't'], ∃ tail ∈ ["s", "sx"], ending.toList = letter :: tail.toList := by
    simp only [List.mem_cons, List.not_mem_nil, or_false] at script
    rcases script with rfl | rfl | rfl | rfl
    · exact ⟨'j', by decide, "s", by decide, rfl⟩
    · exact ⟨'t', by decide, "s", by decide, rfl⟩
    · exact ⟨'j', by decide, "sx", by decide, rfl⟩
    · exact ⟨'t', by decide, "sx", by decide, rfl⟩
  simp only [shownBy_tests_iff_accepts, accepts_testPieces]
  constructor
  · rintro ⟨word, known, tail, last, stem, letter, first, same⟩
    exact ⟨stem, word, known, _, endings first last, by rw [same, String.toList_ofList]⟩
  · rintro ⟨stem, word, known, ending, script, same⟩
    obtain ⟨letter, first, tail, last, shape⟩ := parted script
    exact ⟨word, known, tail, last, stem, letter, first, by rw [same, shape]⟩

end Marker

/-! ## Tests among the files -/

/-- A path with a mark of tests in it is a test, whatever else is in it. -/
theorem FileKind.ofPath_of_mark {path mark : String} (known : mark ∈ testMarks) (found : mark.toList <:+: path.toList) :
    ofPath path = .test := by
  have small : ∀ mark ∈ testMarks, (mark.toList.all fun c => c ≠ '\\' ∧ Text.lowerCharacter c = [c]) = true := by
    decide +kernel
  have plain : ∀ c ∈ mark.toList, c ≠ '\\' ∧ Text.lowerCharacter c = [c] := by
    simpa only [List.all_eq_true, decide_eq_true_eq] using small mark known
  have kept : (mark.toList.map fun c => if c = '\\' then '/' else c) = mark.toList :=
    (List.map_congr_left fun c member => if_neg (plain c member).1).trans (List.map_id _)
  have slashed := found.map fun c => if c = '\\' then '/' else c
  rw [kept] at slashed
  have lowered := Text.infix_lowerChars (fun c member => (plain c member).2) slashed
  unfold ofPath
  generalize (path.toList.map fun c => if c = '\\' then '/' else c) = unified at lowered ⊢
  have marked : testMarks.any (Text.contains ("/" ++ Text.lower (String.ofList unified))) = true := by
    refine List.any_eq_true.mpr ⟨mark, known, Text.occursIn_iff.mpr ?_⟩
    simp only [String.toList_append, Text.lower, String.toList_ofList]
    exact lowered.trans (List.suffix_append ..).isInfix
  rw [if_pos marked]

namespace FileStats

theorem counts_of_namesTest {path : String} (named : NamesTest (Path.name path.toList)) :
    FileKind.ofPath path = .test ∧ isCode path = true ∧ isTest path = true := by
  obtain ⟨stem, word, known, ending, script, same⟩ := named
  have marks : ∀ word ∈ ["test", "spec"], "." ++ word ++ "." ∈ FileKind.testMarks := by decide
  have endings : ∀ ending ∈ ["js", "ts", "jsx", "tsx"], ending.toList ≠ [] ∧ '.' ∉ ending.toList ∧
      String.ofList (Text.lowerChars ('.' :: ending.toList)) ∈ codeExtensions := by decide +kernel
  obtain ⟨filled, undotted, source⟩ := endings ending script
  have test : FileKind.ofPath path = .test := by
    refine FileKind.ofPath_of_mark (marks word known) (List.IsInfix.trans ?_ (Path.name_infix _))
    exact ⟨stem, ending.toList, by simp [same]⟩
  have code : isCode path = true := by
    rw [isCode, List.contains_iff_mem, extension, Path.suffix_of_name same (by simp) filled undotted]
    exact source
  refine ⟨test, code, ?_⟩
  rw [isTest, code, test]
  rfl

/-- Tests are among the markers exactly if a file with a name of a test is listed. Whatever file has such a name is a test
and code, so no fewer files are counted as tests than have one, and where the marker is present there is at least one. -/
theorem ofFiles_tests (disk : Disk) (root : String) (listed : List String) :
    ((Markers.detect disk root listed).has .tests = true → 1 ≤ (ofFiles listed).test) ∧
      ((Markers.detect disk root listed).has .tests = true ↔ ∃ path ∈ listed, NamesTest (Path.name path.toList)) ∧
      (listed.countP Marker.tests.shownBy : Int) ≤ (ofFiles listed).test ∧
      ∀ path, (Marker.tests.shownBy path = true ↔ NamesTest (Path.name path.toList)) ∧
        (Marker.tests.shownBy path = true → FileKind.ofPath path = .test ∧ isCode path = true ∧ isTest path = true) := by
  have shown : (Markers.detect disk root listed).has .tests = true ↔ ∃ path ∈ listed, Marker.tests.shownBy path = true := by
    rw [Markers.has_detect_iff, or_iff_left (by simp [Marker.shownOn, Marker.evidence])]
  have counts (path : String) (named : Marker.tests.shownBy path = true) :=
    counts_of_namesTest (Marker.shownBy_tests_iff.mp named)
  have counted : listed.countP Marker.tests.shownBy ≤ listed.countP isTest :=
    List.countP_mono_left fun path _ named => (counts path named).2.2
  refine ⟨?_, ?_, Int.ofNat_le.mpr counted, fun path => ⟨Marker.shownBy_tests_iff, counts path⟩⟩
  · intro has
    have present : 0 < listed.countP Marker.tests.shownBy := List.countP_pos_iff.mpr (shown.mp has)
    exact Int.ofNat_le.mpr (present.trans_le counted)
  · simp only [shown, Marker.shownBy_tests_iff]

/-- Letters of both cases, several dots and one more at the start, and a backslash that is no slash in a name. -/
theorem ofFiles_tests_dotted :
    let listed := ["docs/Tests.md", "src/.MenÜ\\İtem.v2.spec.tsx"]
    (Markers.detect (Disk.workspace []) "/w" listed).has .tests = true ∧
      Marker.tests.shownBy "src/.MenÜ\\İtem.v2.spec.tsx" = true ∧ 1 ≤ (ofFiles listed).test := by
  intro listed
  have has : (Markers.detect (Disk.workspace []) "/w" listed).has .tests = true := by decide +kernel
  exact ⟨has, by decide +kernel, (ofFiles_tests (Disk.workspace []) "/w" listed).1 has⟩

end FileStats

end Surveyor
