import Surveyor.Proofs.Imports.Reach
import Surveyor.Proofs.Json.Distinct
import Surveyor.Proofs.Json.Rendering
import Surveyor.Proofs.Path.Joining

/-! Aliases as they are read from a compiler configuration. Every entry has one rule, whose targets are in normal form
before a specifier is known; what stands behind a star is then as if all of it had been normalised at once. A target
without a star is continued by the specifier as well. A known file behind an alias is found, unless a fragment cuts the
specifier before the alias. -/

namespace Surveyor

open Imports

namespace AliasTable

/-! ## Targets -/

theorem joinPaths_eq (base path : List Char) : joinPaths base path = Path.normalise (Path.join base path) := by
  have start : Path.normalise (if base = [] then ['.'] else Path.join ['.'] base) = Path.normalise base := by
    split
    next empty =>
      subst empty
      rfl
    next => exact Path.normalise_join_current base
  rw [joinPaths, List.foldl_cons, List.foldl_cons, List.foldl_nil]
  split
  next empty =>
    subst empty
    rw [start, Path.normalise_join_nil]
  next => rw [← Path.normalise_join_normalise, start, Path.normalise_join_normalise]

theorem targetPath_starless (base : List Char) {target : List Char} (plain : '*' ∉ target) :
    targetPath base target true = Path.normalise (Path.join base target) := by
  have whole : ¬ (true = true ∧ target.getLast? = some '*') := fun starred => plain (List.mem_of_mem_getLast? starred.2)
  rw [targetPath, if_neg whole, joinPaths_eq]

/-- What takes the place of a star is joined to the part before it. -/
theorem targetPath_starred {base start rest : List Char} (below : Path.lead base = []) (inside : start.head? ≠ some '/')
    (closed : start = [] ∨ start.getLast? = some '/') (relative : rest.head? ≠ some '/') :
    targetPath base (start ++ ['*']) true ++ rest = Path.join (Path.normalise (Path.join base start)) rest := by
  have starred : targetPath base (start ++ ['*']) true =
      if Path.normalise (Path.join base start) = [] then [] else Path.normalise (Path.join base start) ++ ['/'] := by
    simp [targetPath, joinPaths_eq, closed]
  have top : Path.lead (Path.normalise (Path.join base start)) = [] := by
    rw [Path.lead_normalise, Path.lead_join _ inside, below]
  rw [starred]
  generalize same : Path.normalise (Path.join base start) = joined at top ⊢
  by_cases empty : joined = []
  · subst empty
    simp [Path.join, relative]
  · obtain ⟨ends, -, -⟩ := Path.normalise_clean (Path.join base start)
    rw [same] at ends
    have last : joined.getLast? ≠ some '/' := by
      rcases ends with slashes | ⟨last, found, other⟩
      -- Only a path of slashes ends in one, and the folder is not absolute.
      · obtain ⟨c, more, rfl⟩ := List.exists_cons_of_ne_nil empty
        have slash : c = '/' := by simpa using List.all_eq_true.mp slashes c List.mem_cons_self
        exact absurd (by rw [slash]; rfl) (Path.lead_eq_nil_iff.mp top)
      · rw [found]
        simpa using other
    rw [if_neg empty, Path.join, if_neg relative, if_neg (by simp [empty, last]), List.append_assoc,
      List.singleton_append]

/-- A star may be replaced before or after a target is brought into normal form. -/
theorem normalise_targetPath {folder start rest : List Char} (below : Path.lead folder = [])
    (inside : start.head? ≠ some '/') (closed : start = [] ∨ start.getLast? = some '/')
    (relative : rest.head? ≠ some '/') :
    Path.normalise (targetPath (Path.normalise folder) (start ++ ['*']) true ++ rest) =
      Path.normalise (Path.join folder (start ++ rest)) := by
  have whole : Path.join start rest = start ++ rest := by rw [Path.join, if_neg relative, if_pos closed]
  rw [targetPath_starred (by rw [Path.lead_normalise, below]) inside closed relative, Path.normalise_join_normalise,
    Path.join_assoc, Path.normalise_join_normalise, whole]

/-! ## Rules of a configuration -/

/-- The configuration of a workspace has these compiler options, and these entries among its aliases. -/
structure Configured (disk : Disk) (root path : String) (options entries : List (String × Json)) : Prop where
  read : ∃ text fields, disk.read (Path.locate root.toList path.toList) = .ok text ∧
    Json.read (Json.stripComments text) = .ok (.object fields) ∧
    Fields.get? "compilerOptions" fields = some (.object options)
  paths : Fields.get? "paths" options = some (.object entries)

/-- The base that is set for targets; without one it is the folder of the configuration. -/
def baseUrl (options : List (String × Json)) : String := ((Fields.get? "baseUrl" options).bind Json.text?).getD "."

/-- The folder that targets are seen from. -/
def targetFolder (path : String) (options : List (String × Json)) : List Char :=
  Path.join (Path.parent path.toList) (baseUrl options).toList

theorem lead_targetFolder {path : String} {options : List (String × Json)} (relative : path.toList.head? ≠ some '/')
    (below : (baseUrl options).toList.head? ≠ some '/') : Path.lead (targetFolder path options) = [] := by
  rw [targetFolder, Path.lead_join _ below, Path.lead_eq_nil_iff]
  intro slash
  obtain ⟨more, whole⟩ := Path.parent_prefix path.toList
  apply relative
  rw [← whole, List.head?_append, slash]
  rfl

/-- The rule of a pattern with a star. -/
def starRule (folder stem : List Char) (targets : List String) : AliasRule where
  pattern := String.ofList (stem ++ ['*'])
  stem := String.ofList stem
  wildcard := true
  targets := targets.map fun target => String.ofList (targetPath (Path.normalise folder) target.toList true)

section Configured
variable {disk : Disk} {root path : String} {options entries : List (String × Json)}
  {stem : List Char} {items : List Json}

theorem Configured.load (config : Configured disk root path options entries) :
    (load disk root (some path)).value =
      ⟨entries.filterMap fun entry => ruleOf? (Path.normalise (targetFolder path options)) entry.1 entry.2, some path⟩ := by
  obtain ⟨text, fields, found, parsed, chosen⟩ := config.read
  unfold AliasTable.load
  simp only [found, parsed, Logged.value_pure, ofConfig, chosen, config.paths, joinPaths_eq, targetFolder, baseUrl]

theorem Configured.distinct (config : Configured disk root path options entries) : Fields.Distinct entries := by
  obtain ⟨text, fields, -, parsed, chosen⟩ := config.read
  cases Json.read_distinct parsed with
  | object _ each =>
    cases each _ (Fields.mem_of_get? chosen) with
    | object _ each =>
      cases each _ (Fields.mem_of_get? config.paths) with
      | object names _ => exact names

theorem ruleOf?_pattern {folder : List Char} {pattern : String} {targets : Json} {rule : AliasRule}
    (made : ruleOf? folder pattern targets = some rule) : rule.pattern = pattern := by
  unfold ruleOf? at made
  split at made
  next =>
    obtain ⟨-, same⟩ := Option.ite_none_left_eq_some.mp made
    exact congrArg AliasRule.pattern (Option.some.inj same).symm
  next => cases made

theorem ruleOf?_starred (folder : List Char) (filled : stem ≠ []) (named : items.filterMap Json.text? ≠ []) :
    ruleOf? (Path.normalise folder) (String.ofList (stem ++ ['*'])) (.array items) =
      some (starRule folder stem (items.filterMap Json.text?)) := by
  simp [ruleOf?, starRule, filled, named]

/-- An entry with a star has exactly one rule. -/
theorem Configured.starRule_mem (config : Configured disk root path options entries)
    (listed : (String.ofList (stem ++ ['*']), .array items) ∈ entries) (filled : stem ≠ [])
    (named : items.filterMap Json.text? ≠ []) :
    let rules := (AliasTable.load disk root (some path)).value.rules
    let rule := starRule (targetFolder path options) stem (items.filterMap Json.text?)
    rule ∈ rules ∧ ∀ other ∈ rules, other.pattern = rule.pattern → other = rule := by
  have made := ruleOf?_starred (targetFolder path options) filled named
  simp only [config.load]
  refine ⟨List.mem_filterMap.mpr ⟨_, listed, made⟩, fun other member same => ?_⟩
  obtain ⟨⟨pattern, targets⟩, inside, rule⟩ := List.mem_filterMap.mp member
  have key : pattern = String.ofList (stem ++ ['*']) := (ruleOf?_pattern rule).symm.trans same
  subst key
  -- The names of a mapping are distinct, so both rules are made of one entry.
  have value := Fields.get?_of_mem config.distinct inside
  rw [Fields.get?_of_mem config.distinct listed] at value
  cases value
  rw [made] at rule
  exact (Option.some.inj rule).symm

theorem covers_starRule (folder stem : List Char) (targets : List String) (specifier : String) :
    (starRule folder stem targets).covers specifier = true ↔ stem <+: specifier.toList := by
  simp [AliasRule.covers, starRule, Text.startsWith]

/-- Each target is continued by what a specifier has beyond the stem. -/
theorem expand_starRule (folder stem : List Char) {targets : List String} {target : String} {i : Nat}
    (place : targets[i]? = some target) (specifier : String) :
    ((starRule folder stem targets).expand specifier)[i]? =
      some (String.ofList (targetPath (Path.normalise folder) target.toList true ++
        specifier.toList.drop stem.length)) := by
  simp [AliasRule.expand, starRule, place]

/-- A disk with one file, `/w/tsconfig.json`, that has these compiler options. -/
def configDisk (options : List (String × Json)) : Disk :=
  Disk.workspace [("tsconfig.json", (Json.object [("compilerOptions", .object options)]).render)]
    (List.pairwise_singleton _ _) (List.forall_mem_singleton.mpr (by decide : Entry.IsName "tsconfig.json"))

theorem configured_configDisk (printable : Json.Printable (.object options))
    (paths : Fields.get? "paths" options = some (.object entries))
    (short : (Json.object [("compilerOptions", .object options)]).overlongWithin? = none)
    (plain : '\r' ∉ (Json.object [("compilerOptions", .object options)]).renderChars) :
    Configured (configDisk options) "/" "w/tsconfig.json" options entries := by
  have whole : Json.Printable (.object [("compilerOptions", .object options)]) :=
    .object (List.pairwise_singleton _ _) (List.forall_mem_singleton.mpr printable)
  generalize written : Json.object [("compilerOptions", .object options)] = value at short plain whole
  have place : Path.locate "/".toList "w/tsconfig.json".toList = Path.locate "/w".toList "tsconfig.json".toList := by decide
  have found : (configDisk options).read (Path.locate "/".toList "w/tsconfig.json".toList) = .ok value.render := by
    rw [place]
    refine Disk.read_workspace ?_ (by decide) (by decide) (by decide) ?_
    · rw [← written]
      rfl
    · rwa [Json.render, String.toList_ofList]
  refine ⟨⟨value.render, [("compilerOptions", .object options)], found, ?_, rfl⟩, paths⟩
  rw [Json.stripComments_render whole, Json.read_render whole, short, written]

/-- A base and a target that climb, and a target without a star. -/
def climbingEntries : List (String × Json) := [("@/*", .array [.int 1, .text "../../*", .text "app.ts"])]

def climbingOptions : List (String × Json) := [("baseUrl", .text "../src/./"), ("paths", .object climbingEntries)]

theorem configured_climbing :
    Configured (configDisk climbingOptions) "/" "w/tsconfig.json" climbingOptions climbingEntries := by
  have targets : Json.Printable (.array [.int 1, .text "../../*", .text "app.ts"]) := by
    refine .array fun item member => ?_
    simp only [List.mem_cons, List.not_mem_nil, or_false] at member
    rcases member with rfl | rfl | rfl <;> constructor
  have aliases : Json.Printable (.object climbingEntries) :=
    .object (List.pairwise_singleton _ _) (List.forall_mem_singleton.mpr targets)
  refine configured_configDisk (.object (by simp [Fields.Distinct, climbingOptions]) ?_) rfl rfl (by decide)
  exact List.forall_mem_cons.mpr ⟨.text _, List.forall_mem_singleton.mpr aliases⟩

/-- A star stands for the rest of a specifier, and what the two make of a target is normalised as one path, seen from the
folder of the configuration and its base. -/
theorem load_starred {start : List Char} {i : Nat} (config : Configured disk root path options entries)
    (relative : path.toList.head? ≠ some '/') (below : (baseUrl options).toList.head? ≠ some '/')
    (listed : (String.ofList (stem ++ ['*']), .array items) ∈ entries) (filled : stem ≠ [])
    (place : (items.filterMap Json.text?)[i]? = some (String.ofList (start ++ ['*'])))
    (inside : start.head? ≠ some '/') (closed : start = [] ∨ start.getLast? = some '/') :
    let table := (load disk root (some path)).value
    ∃ rule ∈ table.rules, rule.pattern = String.ofList (stem ++ ['*']) ∧
      (∀ other ∈ table.rules, other.pattern = rule.pattern → other = rule) ∧
      (∀ specifier, rule.covers specifier = true ↔ stem <+: specifier.toList) ∧
      ∀ rest, rest.head? ≠ some '/' →
        ∃ candidate, (rule.expand (String.ofList (stem ++ rest)))[i]? = some candidate ∧
          Path.normalise candidate.toList = Path.normalise (Path.join (targetFolder path options) (start ++ rest)) ∧
          ∀ source specifier, pathPart specifier.toList = stem ++ rest →
            Path.normalise candidate.toList ∈ candidates table source specifier := by
  intro table
  have named : items.filterMap Json.text? ≠ [] := List.ne_nil_of_mem (List.mem_of_getElem? place)
  obtain ⟨member, only⟩ := config.starRule_mem listed filled named
  refine ⟨_, member, rfl, only, covers_starRule _ _ _, fun rest relativeRest => ?_⟩
  have expanded := expand_starRule (targetFolder path options) stem place (String.ofList (stem ++ rest))
  refine ⟨_, expanded, ?_, fun source specifier cut => ?_⟩
  · simp only [String.toList_ofList, List.drop_left]
    exact normalise_targetPath (lead_targetFolder relative below) inside closed relativeRest
  · have covers := (covers_starRule (targetFolder path options) stem (items.filterMap Json.text?)
      (String.ofList (stem ++ rest))).mpr (by simp)
    rw [← cut] at covers expanded ⊢
    exact mem_candidates.mpr ⟨by simp [cut, filled], Or.inl ⟨_, member, covers, _, List.mem_of_getElem? expanded, rfl⟩⟩

theorem load_starred_climbing :
    let table := (load (configDisk climbingOptions) "/" (some "w/tsconfig.json")).value
    Configured (configDisk climbingOptions) "/" "w/tsconfig.json" climbingOptions climbingEntries ∧
    ("@/*", Json.array [.int 1, .text "../../*", .text "app.ts"]) ∈ climbingEntries ∧
    ∃ rule ∈ table.rules, (∀ specifier, rule.covers specifier = true ↔ ['@', '/'] <+: specifier.toList) ∧
      ∃ candidate, (rule.expand "@/x/../y")[0]? = some candidate ∧
        Path.normalise candidate.toList = ['.', '.', '/', 'y'] := by
  have listed : ("@/*", Json.array [.int 1, .text "../../*", .text "app.ts"]) ∈ climbingEntries :=
    List.mem_singleton_self _
  obtain ⟨rule, member, -, -, covers, expands⟩ :=
    @load_starred (configDisk climbingOptions) "/" "w/tsconfig.json" climbingOptions climbingEntries ['@', '/'] _
      ['.', '.', '/', '.', '.', '/'] 0 configured_climbing (by decide) (by decide) listed (by decide) rfl (by decide)
      (by decide)
  obtain ⟨candidate, expanded, normal, -⟩ := expands ['x', '/', '.', '.', '/', 'y'] (by decide)
  exact ⟨configured_climbing, listed, rule, member, covers, candidate, expanded, normal.trans (by decide)⟩

/-- A target without a star is continued by the rest of a specifier as if it had one, so that only the stem itself stands
for the path that was set. -/
theorem load_starless {target : String} {i : Nat} (config : Configured disk root path options entries)
    (listed : (String.ofList (stem ++ ['*']), .array items) ∈ entries) (filled : stem ≠ [])
    (place : (items.filterMap Json.text?)[i]? = some target) (plain : '*' ∉ target.toList) :
    let table := (load disk root (some path)).value
    let fixed := Path.normalise (Path.join (targetFolder path options) target.toList)
    ∃ rule ∈ table.rules, rule.pattern = String.ofList (stem ++ ['*']) ∧
      (∀ other ∈ table.rules, other.pattern = rule.pattern → other = rule) ∧
      (∀ specifier, rule.covers specifier = true ↔ stem <+: specifier.toList) ∧
      ∀ specifier, rule.covers specifier = true →
        (rule.expand specifier)[i]? = some (String.ofList (fixed ++ specifier.toList.drop stem.length)) ∧
        ((rule.expand specifier)[i]? = some (String.ofList fixed) ↔ specifier = String.ofList stem) := by
  intro table fixed
  have named : items.filterMap Json.text? ≠ [] := List.ne_nil_of_mem (List.mem_of_getElem? place)
  obtain ⟨member, only⟩ := config.starRule_mem listed filled named
  refine ⟨_, member, rfl, only, covers_starRule _ _ _, fun specifier covers => ?_⟩
  obtain ⟨rest, split⟩ := (covers_starRule _ _ _ _).mp covers
  have expanded := expand_starRule (targetFolder path options) stem place specifier
  rw [targetPath_starless _ plain, Path.normalise_join_normalise] at expanded
  refine ⟨expanded, ?_⟩
  rw [expanded, Option.some.injEq, String.ofList_inj, ← split, List.drop_left, List.append_right_eq_self,
    ← String.toList_inj, String.toList_ofList, ← split, List.append_right_eq_self]

theorem load_starless_climbing :
    let table := (load (configDisk climbingOptions) "/" (some "w/tsconfig.json")).value
    Configured (configDisk climbingOptions) "/" "w/tsconfig.json" climbingOptions climbingEntries ∧
    ("@/*", Json.array [.int 1, .text "../../*", .text "app.ts"]) ∈ climbingEntries ∧
    ∃ rule ∈ table.rules, rule.covers "@/x" = true ∧ (rule.expand "@/x")[1]? = some "src/app.tsx" ∧
      (rule.expand "@/")[1]? = some "src/app.ts" := by
  have listed : ("@/*", Json.array [.int 1, .text "../../*", .text "app.ts"]) ∈ climbingEntries :=
    List.mem_singleton_self _
  obtain ⟨rule, member, -, -, covers, expands⟩ :=
    @load_starless (configDisk climbingOptions) "/" "w/tsconfig.json" climbingOptions climbingEntries ['@', '/'] _
      "app.ts" 1 configured_climbing listed (by decide) rfl (by decide)
  have further : rule.covers "@/x" = true := (covers "@/x").mpr (by decide)
  have whole : rule.covers "@/" = true := (covers "@/").mpr (by decide)
  exact ⟨configured_climbing, listed, rule, member, further, (expands "@/x" further).1, (expands "@/" whole).2.mpr rfl⟩

/-- A rule whose only target is one file, but which leads to another file that exists beside it. -/
theorem not_load_starless :
    let options := [("paths", Json.object [("@app/*", .array [.text "src/app.ts"])])]
    let table := (load (configDisk options) "/" (some "w/tsconfig.json")).value
    let known := fun path => path == "w/src/app.ts" || path == "w/src/app.tsx"
    table.rules.map (·.pattern) = ["@app/*"] ∧ table.covers "@app/x" = true ∧
      table.expand "@app/x" ≠ ["w/src/app.ts"] ∧
      resolve known table "w/a.ts" "@app/x" = some "w/src/app.tsx" := by
  intro options table known
  have target : Json.Printable (.array [.text "src/app.ts"]) := .array (List.forall_mem_singleton.mpr (.text _))
  have aliases : Json.Printable (.object [("@app/*", .array [.text "src/app.ts"])]) :=
    .object (List.pairwise_singleton _ _) (List.forall_mem_singleton.mpr target)
  have config : Configured (configDisk options) "/" "w/tsconfig.json" options [("@app/*", .array [.text "src/app.ts"])] :=
    configured_configDisk (.object (List.pairwise_singleton _ _) (List.forall_mem_singleton.mpr aliases)) rfl rfl
      (by decide)
  have loaded : table = ⟨[⟨"@app/*", "@app/", true, ["w/src/app.ts"]⟩], some "w/tsconfig.json"⟩ :=
    config.load.trans (by decide)
  rw [loaded]
  decide

end Configured

end AliasTable

end Surveyor
