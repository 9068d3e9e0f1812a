import Surveyor.Proofs.Imports.Reach
import Surveyor.Proofs.Path.Joining

/-! Relative specifiers with detours. A specifier that stays in a folder for a step, or goes into a folder and out of it
again, leads to the same file as the specifier without that step, also where it climbs above the workspace. -/

namespace Surveyor.Imports

/-- A step that ends in the folder in which it starts, as it is written behind a slash. -/
inductive Detour : List Char → Prop
  | still : Detour ['.', '/']
  | around {segment : List Char} (inward : Path.IsInward segment) (plain : ∀ c ∈ segment, c ≠ '?' ∧ c ≠ '#') :
      Detour (segment ++ ['/', '.', '.', '/'])

namespace Detour

variable {detour : List Char}

theorem plain (circular : Detour detour) : ∀ c ∈ detour, c ≠ '?' ∧ c ≠ '#' := by
  cases circular with
  | still => simp
  | around _ plain => exact List.forall_mem_append.mpr ⟨plain, by simp⟩

theorem settle (circular : Detour detour) (absolute : Bool) (steps : List (List Char)) (after : List Char) :
    Path.settle absolute (steps ++ Path.parts (detour ++ after)) =
      Path.settle absolute (steps ++ Path.parts after) := by
  cases circular with
  | still =>
    have idle : Path.parts (['.', '/'] ++ after) = Path.parts ['.'] ++ Path.parts after :=
      Path.parts_append_slash ['.'] after
    rw [idle]
    rfl
  | @around segment inward =>
    have further : Path.parts (segment ++ ['/', '.', '.', '/'] ++ after) =
        segment :: Path.up :: Path.parts after := by
      have outward : Path.parts ('.' :: '.' :: '/' :: after) = Path.parts ['.', '.'] ++ Path.parts after :=
        Path.parts_append_slash ['.', '.'] after
      have alone : Path.parts segment = [segment] := by
        rw [← Path.ofSegments_singleton segment, Path.parts_ofSegments (by simpa using inward.1),
          Path.ofSegments_singleton]
      rw [List.append_assoc, List.cons_append, Path.parts_append_slash, alone]
      exact congrArg (segment :: ·) outward
    -- The segment is pushed and taken off again, whatever was kept before.
    have back (kept : List (List Char)) : Path.climb absolute (Path.climb absolute kept segment) Path.up = kept := by
      rw [Path.climb_of_isInward inward, Path.climb, if_neg (by decide), if_neg (by simp)]
      simp [inward.2]
    rw [further, Path.settle, Path.settle, List.foldl_append, List.foldl_append, List.foldl_cons, List.foldl_cons, back]

/-- Wherever a relative path is seen from, a detour in it is lost in the normal form. -/
theorem normalise_join (circular : Detour detour) (base : List Char) {before : List Char}
    (relative : ∃ c ∈ before.head?, c ≠ '/') (after : List Char) :
    Path.normalise (Path.join base (before ++ '/' :: (detour ++ after))) =
      Path.normalise (Path.join base (before ++ '/' :: after)) := by
  have inside (rest : List Char) : (before ++ '/' :: rest).head? ≠ some '/' := by
    obtain ⟨c, first, other⟩ := relative
    rw [List.head?_append, first]
    simpa using other
  simp only [Path.normalise_eq_settle, Path.lead_join _ (inside _), Path.parts_join _ (inside _),
    Path.parts_append_slash, ← List.append_assoc, circular.settle]

end Detour

theorem pathPart_append {before : List Char} (plain : ∀ c ∈ before, c ≠ '?' ∧ c ≠ '#') (after : List Char) :
    pathPart (before ++ after) = before ++ pathPart after := by
  rw [pathPart_eq, pathPart_eq, List.takeWhile_append_of_pos fun c member => by simpa using plain c member]

/-- A relative specifier without an alias means a path seen from the importing file, and nothing else. -/
theorem resolve_relative {known : String → Bool} {aliases : AliasTable} {text path : List Char}
    (cut : pathPart text = path) (dotted : path.head? = some '.')
    (unaliased : aliases.covers (String.ofList path) = false) (source : String) :
    resolve known aliases source (String.ofList text) =
      probe known (Path.normalise (Path.join (Path.parent source.toList) path)) := by
  have present : path ≠ [] := by
    rintro rfl
    cases dotted
  simp [resolve, cut, present, dotted, AliasTable.expand_uncovered unaliased]

/-- Detours do not matter for what a relative specifier means, as long as no alias stands for either spelling. Aliases
are looked up by what stands before a query and a fragment. -/
theorem resolve_detour {known : String → Bool} {aliases : AliasTable} {before after detour : List Char}
    (dotted : before.head? = some '.') (plain : ∀ c ∈ before, c ≠ '?' ∧ c ≠ '#') (circular : Detour detour)
    (direct : aliases.covers (String.ofList (pathPart (before ++ '/' :: after))) = false)
    (indirect : aliases.covers (String.ofList (pathPart (before ++ '/' :: (detour ++ after)))) = false)
    (source : String) :
    resolve known aliases source (String.ofList (before ++ '/' :: (detour ++ after))) =
      resolve known aliases source (String.ofList (before ++ '/' :: after)) := by
  have starts (rest : List Char) : (before ++ '/' :: rest).head? = some '.' := by
    rw [List.head?_append, dotted]
    rfl
  have cut (rest : List Char) : pathPart (before ++ '/' :: rest) = before ++ '/' :: pathPart rest := by
    have slash : ∀ c ∈ ['/'], c ≠ '?' ∧ c ≠ '#' := by simp
    rw [pathPart_append plain]
    exact congrArg (before ++ ·) (pathPart_append slash rest)
  have longer : pathPart (before ++ '/' :: (detour ++ after)) = before ++ '/' :: (detour ++ pathPart after) := by
    rw [cut, pathPart_append circular.plain]
  rw [resolve_relative longer (starts _) (longer ▸ indirect), resolve_relative (cut after) (starts _) (cut after ▸ direct),
    circular.normalise_join _ ⟨'.', dotted, by decide⟩]

theorem resolve_detour_query :
    let known := fun path => path == "lib/b.ts"
    let aliases : AliasTable := ⟨[⟨"@/*", "@/", true, ["src/"]⟩], none⟩
    Detour "x y/../".toList ∧ aliases.covers "../lib/b" = false ∧ aliases.covers "../x y/../lib/b" = false ∧
      resolve known aliases "src/a.ts" "../x y/../lib/b?raw" = resolve known aliases "src/a.ts" "../lib/b?raw" ∧
      resolve known aliases "src/a.ts" "../lib/b?raw" = some "lib/b.ts" := by
  intro known aliases
  have circular : Detour "x y/../".toList := @Detour.around "x y".toList (by decide) (by simp)
  have same := @resolve_detour known aliases "..".toList "lib/b?raw".toList "x y/../".toList (by decide) (by simp) circular
    (by decide) (by decide) "src/a.ts"
  exact ⟨circular, by decide, by decide, same, by decide⟩

end Surveyor.Imports
