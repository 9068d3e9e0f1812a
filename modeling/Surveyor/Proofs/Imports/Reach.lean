import Surveyor.Proofs.Imports.Resolution

/-! Which specifiers reach a known file. It is enough that one of the candidates leads to one, so an alias that does is
never in vain. Aliases are looked up without a query and without a fragment, though: of a specifier that starts with its
fragment nothing is left, even if it has an alias. -/

namespace Surveyor

/-- The rule stands for a specifier, and one of its targets for it leads to a known file. -/
def AliasRule.Leads (known : String → Bool) (rule : AliasRule) (specifier : String) : Prop :=
  rule.covers specifier = true ∧
    ∃ target ∈ rule.expand specifier, (Imports.probe known (Path.normalise target.toList)).isSome = true

theorem AliasTable.expand_uncovered {aliases : AliasTable} {specifier : String}
    (uncovered : aliases.covers specifier = false) : aliases.expand specifier = [] := by
  rw [expand, List.flatMap_eq_nil_iff]
  intro rule member
  obtain ⟨inside, covers⟩ := List.mem_filter.mp member
  exact absurd covers (List.any_eq_false.mp uncovered rule inside)

namespace Imports

variable {known : String → Bool} {aliases : AliasTable} {source specifier : String}

theorem mem_candidates {candidate : List Char} :
    let path := pathPart specifier.toList
    candidate ∈ candidates aliases source specifier ↔
      path ≠ [] ∧
        ((∃ rule ∈ aliases.rules, rule.covers (String.ofList path) = true ∧
            ∃ target ∈ rule.expand (String.ofList path), Path.normalise target.toList = candidate) ∨
          path.head? = some '.' ∧ Path.normalise (Path.join (Path.parent source.toList) path) = candidate ∨
          path.head? = some '/' ∧ Path.normalise (path.dropWhile (· == '/')) = candidate) := by
  intro path
  -- Without an alias nothing is expanded, so that the cases below may all ask for one.
  have aliased : candidate ∈ ((aliases.expand (String.ofList path)).map fun target => Path.normalise target.toList) ↔
      ∃ rule ∈ aliases.rules, rule.covers (String.ofList path) = true ∧
        ∃ target ∈ rule.expand (String.ofList path), Path.normalise target.toList = candidate := by
    simp only [AliasTable.expand, List.mem_map, List.mem_flatMap, List.mem_filter]
    constructor
    · rintro ⟨target, ⟨rule, ⟨member, covers⟩, listed⟩, same⟩
      exact ⟨rule, member, covers, target, listed, same⟩
    · rintro ⟨rule, member, covers, target, listed, same⟩
      exact ⟨target, ⟨rule, ⟨member, covers⟩, listed⟩, same⟩
  rw [← aliased]
  change candidate ∈ candidates aliases source specifier ↔ _
  unfold candidates
  simp only [show pathPart specifier.toList = path from rfl]
  by_cases empty : path = []
  · simp [empty]
  by_cases dotted : path.head? = some '.'
  · simp [empty, dotted, eq_comm]
  by_cases rooted : path.head? = some '/'
  · simp [empty, rooted, eq_comm]
  cases covered : aliases.covers (String.ofList path) with
  | true => simp [empty, dotted, rooted]
  | false => simp [empty, dotted, rooted, AliasTable.expand_uncovered covered]

theorem isSome_resolve_iff :
    (resolve known aliases source specifier).isSome = true ↔
      ∃ candidate ∈ candidates aliases source specifier, (probe known candidate).isSome = true := by
  simp only [resolve_eq_find?, probe_eq_find?, List.find?_isSome, List.mem_flatMap]
  constructor
  · rintro ⟨file, ⟨candidate, member, tried⟩, found⟩
    exact ⟨candidate, member, file, tried, found⟩
  · rintro ⟨candidate, member, file, tried, found⟩
    exact ⟨file, ⟨candidate, member, tried⟩, found⟩

/-- One of the aliases of a path leads to a known file, or the path itself, seen from the importing file or from the
root. -/
def Reachable (known : String → Bool) (aliases : AliasTable) (source : String) (path : List Char) : Prop :=
  let leads (place : List Char) := (probe known (Path.normalise place)).isSome = true
  path ≠ [] ∧
    ((∃ rule ∈ aliases.rules, rule.Leads known (String.ofList path)) ∨
      path.head? = some '.' ∧ leads (Path.join (Path.parent source.toList) path) ∨
      path.head? = some '/' ∧ leads (path.dropWhile (· == '/')))

theorem reachable_iff :
    (∃ file, resolve known aliases source specifier = some file ∧ known file = true) ↔
      Reachable known aliases source (pathPart specifier.toList) := by
  have found : (∃ file, resolve known aliases source specifier = some file ∧ known file = true) ↔
      ∃ candidate ∈ candidates aliases source specifier, (probe known candidate).isSome = true := by
    rw [← isSome_resolve_iff, Option.isSome_iff_exists]
    exact exists_congr fun file => and_iff_left_of_imp resolve_known
  simp only [found, mem_candidates]
  constructor
  · rintro ⟨candidate, ⟨filled, means⟩, led⟩
    refine ⟨filled, ?_⟩
    rcases means with ⟨rule, member, covers, target, listed, rfl⟩ | ⟨dotted, rfl⟩ | ⟨rooted, rfl⟩
    · exact Or.inl ⟨rule, member, covers, target, listed, led⟩
    · exact Or.inr (Or.inl ⟨dotted, led⟩)
    · exact Or.inr (Or.inr ⟨rooted, led⟩)
  · rintro ⟨filled, ⟨rule, member, covers, target, listed, led⟩ | ⟨dotted, led⟩ | ⟨rooted, led⟩⟩
    · exact ⟨_, ⟨filled, Or.inl ⟨rule, member, covers, target, listed, rfl⟩⟩, led⟩
    · exact ⟨_, ⟨filled, Or.inr (Or.inl ⟨dotted, rfl⟩)⟩, led⟩
    · exact ⟨_, ⟨filled, Or.inr (Or.inr ⟨rooted, rfl⟩)⟩, led⟩

theorem takeWhile_ne_of_not_mem {mark : Char} {text : List Char} (absent : mark ∉ text) :
    text.takeWhile (· ≠ mark) = text := by
  rw [List.takeWhile_eq_self_iff]
  intro c member
  have other : c ≠ mark := fun same => absent (same ▸ member)
  simpa using other

/-- An alias that leads to a known file is found, unless a fragment is cut off before the alias is looked up: then only
what stands before the fragment can reach a file. -/
theorem resolve_aliased (unqueried : '?' ∉ specifier.toList) :
    ('#' ∉ specifier.toList → specifier ≠ "" → ∀ rule ∈ aliases.rules, rule.Leads known specifier →
      ∃ file, resolve known aliases source specifier = some file ∧ known file = true) ∧
    ((∃ file, resolve known aliases source specifier = some file ∧ known file = true) ↔
      Reachable known aliases source (specifier.toList.takeWhile (· ≠ '#'))) := by
  have cut : pathPart specifier.toList = specifier.toList.takeWhile (· ≠ '#') := by
    have whole : specifier.toList.takeWhile (· != '?') = specifier.toList := by
      simpa [bne_iff_ne] using takeWhile_ne_of_not_mem unqueried
    rw [pathPart, whole]
    congr 1
    funext c
    by_cases same : c = '#' <;> simp [same]
  have reaches := @reachable_iff known aliases source specifier
  rw [cut] at reaches
  refine ⟨fun unmarked filled rule member led => reaches.mpr ?_, reaches⟩
  rw [takeWhile_ne_of_not_mem unmarked]
  refine ⟨by simpa using filled, Or.inl ⟨rule, member, ?_⟩⟩
  rwa [String.ofList_toList]

theorem resolve_aliased_second :
    let rule : AliasRule := ⟨"@/*", "@/", true, ["gen/", "src/"]⟩
    let known := fun path => path == "src/b.ts"
    '?' ∉ "@/b".toList ∧ rule.Leads known "@/b" ∧ resolve known ⟨[rule], none⟩ "a.ts" "@/b" = some "src/b.ts" := by
  intro rule known
  have unqueried : '?' ∉ "@/b".toList := by decide
  have led : rule.Leads known "@/b" := ⟨by decide, "src/b", by decide, by decide⟩
  obtain ⟨file, found, same⟩ := (@resolve_aliased known ⟨[rule], none⟩ "a.ts" "@/b" unqueried).1 (by decide) (by decide)
    rule List.mem_cons_self led
  exact ⟨unqueried, led, by rw [found, eq_of_beq same]⟩

/-- An alias whose name starts with a number sign is never looked up. -/
theorem not_resolve_fragment :
    let rule : AliasRule := ⟨"#/*", "#/", true, ["src/"]⟩
    let known := fun path => path == "src/b.ts"
    '?' ∉ "#/b".toList ∧ rule.Leads known "#/b" ∧ resolve known ⟨[rule], none⟩ "a.ts" "#/b" = none :=
  ⟨by decide, ⟨by decide, "src/b", by decide, by decide⟩, by decide⟩

end Imports

end Surveyor
