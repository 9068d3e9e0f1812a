import Mathlib.Data.List.Basic
import Surveyor.Imports.Resolution
import Surveyor.Proofs.Path

/-! Resolving a specifier as a search. What a specifier may mean is settled by the aliases and the importing file; the
known files only decide which of these meanings is the first one that exists. -/

namespace Surveyor.Imports

/-- The paths that a candidate is tried as: itself, with an extension, and as a folder with an index file. -/
def probes (candidate : List Char) : List String :=
  let bare := bareCandidate candidate
  if bare = [] then indexExtensions.map ("index" ++ ·)
  else
    String.ofList bare :: extensions.map (String.ofList bare ++ ·) ++
      indexExtensions.map fun extension => String.ofList (bare ++ ['/']) ++ "index" ++ extension

theorem probe_eq_find? (known : String → Bool) (candidate : List Char) :
    probe known candidate = (probes candidate).find? known := by
  unfold probe probes
  by_cases root : bareCandidate candidate = []
  · simp [root]
  · simp only [root, if_false, Option.orElse_eq_or, Option.bind_some, Option.filter_some, List.cons_append,
      List.find?_cons, List.find?_append]
    cases known (String.ofList (bareCandidate candidate)) <;> rfl

/-- The candidates for a specifier in a source file: its aliases, then the path that it is. -/
def candidates (aliases : AliasTable) (source specifier : String) : List (List Char) :=
  let path := pathPart specifier.toList
  let name := String.ofList path
  if path = [] then []
  else if !(path.head? = some '.' || path.head? = some '/' || aliases.covers name) then []
  else
    ((aliases.expand name).map fun target => Path.normalise target.toList) ++
      if path.head? = some '.' then [Path.normalise (Path.join (Path.parent source.toList) path)]
      else if path.head? = some '/' then [Path.normalise (path.dropWhile (· == '/'))]
      else []

/-- A specifier means the first known one among all probes of its candidates. -/
theorem resolve_eq_find? (known : String → Bool) (aliases : AliasTable) (source specifier : String) :
    resolve known aliases source specifier = ((candidates aliases source specifier).flatMap probes).find? known := by
  unfold resolve candidates
  simp only [probe_eq_find?]
  split
  · rfl
  split
  · rfl
  rw [List.flatMap_append, List.find?_append, List.flatMap_map, List.find?_flatMap, Option.orElse_eq_or]
  congr 1
  split
  · simp
  split <;> simp

theorem resolve_known {known : String → Bool} {aliases : AliasTable} {source specifier target : String}
    (resolved : resolve known aliases source specifier = some target) : known target = true := by
  rw [resolve_eq_find?] at resolved
  exact List.find?_some resolved

/-! ## The choices in their order -/

theorem pathPart_eq (specifier : List Char) : pathPart specifier = specifier.takeWhile fun c => c ≠ '?' ∧ c ≠ '#' := by
  rw [pathPart, List.takeWhile_takeWhile]
  congr 1
  funext c
  rw [Bool.eq_iff_iff]
  simp [and_comm]

/-- What a specifier may mean: its aliases, rule by rule and target by target, then the path that it is. -/
def meanings (aliases : AliasTable) (source : String) (path : List Char) : List (List Char) :=
  let name := String.ofList path
  (aliases.rules.filter (·.covers name)).flatMap (fun rule =>
      rule.targets.map fun target => target.toList ++ if rule.wildcard then path.drop rule.stem.length else []) ++
    (if path.head? = some '.' then [Path.join (Path.parent source.toList) path] else []) ++
    if path.head? = some '/' then [path.dropWhile (· == '/')] else []

/-- The files that a path is tried as. The root, which is also named by slashes alone, is no file itself. -/
def tries (path : List Char) : List String :=
  let normal := Path.normalise path
  if normal.all (· == '/') then indexExtensions.map ("index" ++ ·)
  else
    let whole := String.ofList normal
    whole :: extensions.map (whole ++ ·) ++ indexExtensions.map (whole ++ "/index" ++ ·)

/-- Nothing is cut off a normal form, unless it is the root. -/
theorem bareCandidate_normalise (path : List Char) :
    bareCandidate (Path.normalise path) =
      if (Path.normalise path).all (· == '/') then [] else Path.normalise path := by
  obtain ⟨ends, moves, below⟩ := Path.normalise_clean path
  change Path.normalise path ≠ ['.'] at moves
  have inside : ¬ (['.', '/'].isPrefixOf (Path.normalise path)) = true := by rwa [List.isPrefixOf_iff_prefix]
  simp only [bareCandidate, if_neg inside]
  change (if (Path.normalise path).rdropWhile (· == '/') = ['.'] then []
    else (Path.normalise path).rdropWhile (· == '/')) = _
  by_cases slashes : (Path.normalise path).all (· == '/') = true
  · have nothing : (Path.normalise path).rdropWhile (· == '/') = [] := by
      rw [List.rdropWhile_eq_nil_iff]
      simpa using slashes
    simp [nothing, slashes]
  · obtain ⟨last, found, other⟩ := ends.resolve_left slashes
    have all : (Path.normalise path).rdropWhile (· == '/') = Path.normalise path := by
      rw [List.rdropWhile_eq_self_iff]
      intro present
      rw [List.getLast?_eq_some_getLast present] at found
      simpa [Option.some.inj found] using other
    rw [all, if_neg moves, if_neg slashes]

theorem probes_normalise (path : List Char) : probes (Path.normalise path) = tries path := by
  unfold probes tries
  simp only [bareCandidate_normalise]
  by_cases slashes : (Path.normalise path).all (· == '/') = true
  · simp [slashes]
  · have present : Path.normalise path ≠ [] := fun empty => slashes (by simp [empty])
    have folder : String.ofList (Path.normalise path ++ ['/']) ++ "index" =
        String.ofList (Path.normalise path) ++ "/index" := by
      rw [String.ofList_append, String.append_assoc]
      rfl
    simp only [if_neg slashes, if_neg present, folder]

theorem candidates_eq (aliases : AliasTable) (source specifier : String) :
    candidates aliases source specifier =
      let path := pathPart specifier.toList
      if path = [] ∨ (path.head? ≠ some '.' ∧ path.head? ≠ some '/' ∧
        ∀ rule ∈ aliases.rules, rule.covers (String.ofList path) = false) then []
      else (meanings aliases source path).map Path.normalise := by
  unfold candidates meanings
  generalize pathPart specifier.toList = path
  by_cases empty : path = []
  · simp [empty]
  have foreign : (!(path.head? = some '.' || path.head? = some '/' || aliases.covers (String.ofList path))) = true ↔
      path.head? ≠ some '.' ∧ path.head? ≠ some '/' ∧
        ∀ rule ∈ aliases.rules, rule.covers (String.ofList path) = false := by
    simp [AliasTable.covers, and_assoc]
  have aliased : ((aliases.expand (String.ofList path)).map fun target => Path.normalise target.toList) =
      ((aliases.rules.filter (·.covers (String.ofList path))).flatMap fun rule =>
        rule.targets.map fun target => target.toList ++ if rule.wildcard then path.drop rule.stem.length else []).map
          Path.normalise := by
    simp [AliasTable.expand, AliasRule.expand, List.map_flatMap, Function.comp_def]
  simp only [empty, if_false, false_or, foreign, aliased, List.map_append]
  split
  · rfl
  · rw [List.append_assoc]
    congr 1
    by_cases dotted : path.head? = some '.'
    · simp [dotted]
    · by_cases rooted : path.head? = some '/' <;> simp [dotted, rooted]

/-- A specifier means the first known file among choices that are settled before any file is known. So further files
never take a meaning away, and a meaning that was known before they came had been the same before. -/
theorem resolve_prioritised (aliases : AliasTable) (source specifier : String) :
    let path := specifier.toList.takeWhile fun c => c ≠ '?' ∧ c ≠ '#'
    let isForeign := path.head? ≠ some '.' ∧ path.head? ≠ some '/' ∧
      ∀ rule ∈ aliases.rules, rule.covers (String.ofList path) = false
    let choices := if path = [] ∨ isForeign then [] else (meanings aliases source path).flatMap tries
    (∀ known, resolve known aliases source specifier = choices.find? known) ∧
    ∀ fewer more : String → Bool, (∀ file, fewer file = true → more file = true) →
      ((resolve fewer aliases source specifier).isSome → (resolve more aliases source specifier).isSome) ∧
      ∀ file, resolve more aliases source specifier = some file → fewer file = true →
        resolve fewer aliases source specifier = some file := by
  intro path isForeign choices
  have first (known : String → Bool) : resolve known aliases source specifier = choices.find? known := by
    rw [resolve_eq_find?, candidates_eq]
    simp only [pathPart_eq]
    change (List.flatMap probes (if path = [] ∨ isForeign then []
      else (meanings aliases source path).map Path.normalise)).find? known = choices.find? known
    simp only [choices]
    split
    · rfl
    · simp only [List.flatMap_map, probes_normalise]
  refine ⟨first, fun fewer more grows => ?_⟩
  simp only [first]
  constructor
  · intro found
    obtain ⟨file, member, known⟩ := List.find?_isSome.mp found
    exact List.find?_isSome.mpr ⟨file, member, grows file known⟩
  · intro file found known
    obtain ⟨-, before, after, split, unknown⟩ := List.find?_eq_some_iff_append.mp found
    refine List.find?_eq_some_iff_append.mpr ⟨known, before, after, split, fun other earlier => ?_⟩
    have absent : more other = false := by simpa using unknown other earlier
    cases holds : fewer other with
    | false => rfl
    | true => exact absurd (grows other holds) (by simp [absent])

end Surveyor.Imports
