import Mathlib.Data.Set.Card
import Surveyor.Metrics.Measure
import Surveyor.Proofs.Location
import Surveyor.Proofs.Sequence
import Surveyor.Proofs.Text

/-! Endpoints of a web interface. A handler is told by what is written, its route by the folders of its file, and of the
handlers of one file only the first is an endpoint. -/

namespace Surveyor.Metrics

open Text

/-! ## Handlers -/

/-- The export of a function that is named like a method, maybe an asynchronous one. Behind the name stands `tail`. -/
def Exports (method : String) (tail text : List Char) : Prop :=
  ∃ start name, Leads "export" start text ∧ (name = start ∨ Leads "async" name start) ∧
    Leads "function" (method.toList ++ tail) name ∧ method ∈ handlerMethods ∧ ¬ Begins isWordCharacter tail

/-- A handler stands somewhere in the text. -/
def Handles (text : List Char) (method : String) : Prop :=
  ∃ rest tail, rest <:+ text ∧ Exports method tail rest

/-- A handler stands in the text, and no handler stands before it. -/
def HandlesFirst (text : List Char) (method : String) : Prop :=
  ∃ rest tail, rest <:+ text ∧ Exports method tail rest ∧
    ∀ longer other behind, longer <:+ text → rest.length < longer.length → ¬ Exports other behind longer

theorem HandlesFirst.handles {text : List Char} {method : String} (first : HandlesFirst text method) :
    Handles text method := by
  obtain ⟨rest, tail, inside, exported, -⟩ := first
  exact ⟨rest, tail, inside, exported⟩

theorem Handles.mem {text : List Char} {method : String} (handles : Handles text method) : method ∈ handlerMethods := by
  obtain ⟨rest, tail, -, start, name, -, -, -, member, -⟩ := handles
  exact member

/-- No method has a blank in it, so an endpoint tells its method and its route. -/
theorem endpoint_inj {method other route way : String} (member : method ∈ handlerMethods)
    (present : other ∈ handlerMethods) (same : method ++ " " ++ route = other ++ " " ++ way) :
    method = other ∧ route = way := by
  have solid : ∀ method ∈ handlerMethods, ' ' ∉ method.toList := by decide
  have texts := congrArg String.toList same
  simp only [String.toList_append, List.append_assoc] at texts
  have parts := eq_of_append_cons texts (solid other present) (solid method member)
  exact ⟨String.toList_inj.mp parts.1, String.toList_inj.mp parts.2.2⟩

theorem handlerMethods_apart : ∀ first ∈ handlerMethods, ∀ second ∈ handlerMethods,
    first.toList <+: second.toList → first = second := by decide

/-- What a text starts with that is read as the name of a method, and its end. -/
def readMethod (text : List Char) (method : String) : Option (String × List Char) := do
  let tail ← after? method.toList text
  if (tail.head?.map isWordCharacter).getD false then none else some (method, tail)

theorem readMethod_eq_some_iff {text tail : List Char} {method other : String} :
    readMethod text other = some (method, tail) ↔
      other = method ∧ text = method.toList ++ tail ∧ ¬ Begins isWordCharacter tail := by
  rw [readMethod, begins_iff_head?]
  constructor
  · intro found
    obtain ⟨behind, start, ends⟩ := Option.bind_eq_some_iff.mp found
    split at ends
    next => cases ends
    next stop =>
      cases ends
      exact ⟨rfl, eq_append_of_after? start, stop⟩
  · rintro ⟨rfl, rfl, stop⟩
    simp [after?_append, stop]

/-- No method starts with another one, so at most one of them is read. -/
theorem findSome?_readMethod {text tail : List Char} {method : String} :
    handlerMethods.findSome? (readMethod text) = some (method, tail) ↔
      method ∈ handlerMethods ∧ text = method.toList ++ tail ∧ ¬ Begins isWordCharacter tail := by
  constructor
  · intro found
    obtain ⟨other, member, read⟩ := List.exists_of_findSome?_eq_some found
    obtain ⟨rfl, shape, stop⟩ := readMethod_eq_some_iff.mp read
    exact ⟨member, shape, stop⟩
  · rintro ⟨member, shape, stop⟩
    have read : readMethod text method = some (method, tail) := readMethod_eq_some_iff.mpr ⟨rfl, shape, stop⟩
    cases found : handlerMethods.findSome? (readMethod text) with
    | none => simp [List.findSome?_eq_none_iff.mp found method member] at read
    | some pair =>
      obtain ⟨other, present, hit⟩ := List.exists_of_findSome?_eq_some found
      obtain ⟨rfl, same, -⟩ := readMethod_eq_some_iff.mp (show readMethod text other = some (pair.1, pair.2) from hit)
      -- Both names start the text, so one of them starts with the other.
      have equal : pair.1 = method := by
        rcases List.prefix_or_prefix_of_prefix ⟨_, same.symm⟩ ⟨_, shape.symm⟩ with before | before
        · exact handlerMethods_apart _ present _ member before
        · exact (handlerMethods_apart _ member _ present before).symm
      rw [equal, read] at hit
      exact hit.symm

theorem readHandler_eq_some_iff {text tail : List Char} {method : String} :
    readHandler text = some (method, tail) ↔ Exports method tail text := by
  have shape : readHandler text = (afterWord? "export" text).bind fun start =>
      (afterWord? "function" (skipWord "async" start)).bind fun name => handlerMethods.findSome? (readMethod name) := rfl
  rw [shape]
  constructor
  · intro found
    obtain ⟨start, exported, found⟩ := Option.bind_eq_some_iff.mp found
    obtain ⟨name, keyword, found⟩ := Option.bind_eq_some_iff.mp found
    obtain ⟨member, rfl, stop⟩ := findSome?_readMethod.mp found
    refine ⟨start, skipWord "async" start, leads_of_afterWord? exported, ?_, leads_of_afterWord? keyword, member, stop⟩
    rw [skipWord]
    cases waits : afterWord? "async" start with
    | none => exact .inl rfl
    | some later => exact .inr (leads_of_afterWord? waits)
  · rintro ⟨start, name, exported, waits, keyword, member, stop⟩
    have function : Begins isWordCharacter name := keyword.begins ⟨'f', _, rfl, rfl⟩
    -- The word is skipped just where it is written, since it is not read where `function` stands.
    have skipped : skipWord "async" start = name ∧ Begins isWordCharacter start := by
      rcases waits with rfl | waits
      · refine ⟨?_, function⟩
        obtain ⟨gap, -, -, rfl⟩ := keyword
        rfl
      · refine ⟨?_, waits.begins ⟨'a', _, rfl, rfl⟩⟩
        rw [skipWord, afterWord?_of_leads waits function, Option.getD_some]
    have letters : ∀ method ∈ handlerMethods, (method.toList.head?.map isWordCharacter).getD false = true := by decide
    rw [afterWord?_of_leads exported skipped.2, Option.bind_some, skipped.1,
      afterWord?_of_leads keyword ((begins_iff_head?.mpr (letters method member)).append tail), Option.bind_some]
    exact findSome?_readMethod.mpr ⟨member, rfl, stop⟩

theorem firstRead?_readHandler_iff {text : List Char} {method : String} :
    firstRead? readHandler text = some method ↔ HandlesFirst text method := by
  rw [firstRead?_eq_some_iff]
  refine exists_congr fun rest => exists_congr fun tail => and_congr_right fun _ => ?_
  refine and_congr readHandler_eq_some_iff (forall_congr' fun longer => ?_)
  constructor
  · intro missed other behind inside shorter exported
    rw [readHandler_eq_some_iff.mpr exported] at missed
    exact absurd (missed inside shorter) (by simp)
  · intro missed inside shorter
    cases read : readHandler longer with
    | none => rfl
    | some pair => exact absurd (readHandler_eq_some_iff.mp read) (missed pair.1 pair.2 inside shorter)

theorem exists_handlesFirst {text : List Char} {method : String} (handles : Handles text method) :
    ∃ first, HandlesFirst text first := by
  obtain ⟨rest, tail, inside, exported⟩ := handles
  cases found : firstRead? readHandler text with
  | some first => exact ⟨first, firstRead?_readHandler_iff.mp found⟩
  | none =>
    have missed := read_of_firstRead?_eq_none found inside
    rw [readHandler_eq_some_iff.mpr exported] at missed
    cases missed

/-! ## Routes -/

def routeNames : List String := ["route.ts", "route.js"]

/-- Without a last segment that is named like the file of a route. -/
def withoutRouteFile (below : List (List Char)) : List (List Char) :=
  if below.getLast? ∈ routeNames.map fun name => some name.toList then below.dropLast else below

/-- The route of a file: the path from the first folder `api` on, to the folder of the file if that is named like one of
a route, and to the file itself otherwise. -/
def IsRoute (path route : String) : Prop :=
  ∃ folders below, Path.segments path.toList = folders ++ "api".toList :: below ∧ "api".toList ∉ folders ∧ below ≠ [] ∧
    route.toList = Path.absolute ("api".toList :: withoutRouteFile below)

/-- The segments below the first folder of a name. -/
def below? (name : List Char) : List (List Char) → Option (List (List Char))
  | [] => none
  | first :: rest => if first = name ∧ rest ≠ [] then some rest else below? name rest

theorem below?_eq_some_iff {name : List Char} {segments below : List (List Char)} :
    below? name segments = some below ↔
      ∃ folders, segments = folders ++ name :: below ∧ name ∉ folders ∧ below ≠ [] := by
  fun_induction below? name segments with
  | case1 => simp
  | case2 first rest folder =>
    obtain ⟨rfl, filled⟩ := folder
    constructor
    · intro found
      cases found
      exact ⟨[], rfl, by simp, filled⟩
    · rintro ⟨folders, split, absent, -⟩
      rcases List.cons_eq_append_iff.mp split with ⟨rfl, same⟩ | ⟨more, rfl, -⟩
      · rw [(List.cons.inj same).2]
      · exact absurd List.mem_cons_self absent
  | case3 first rest other ih =>
    rw [ih]
    constructor
    · rintro ⟨folders, rfl, absent, filled⟩
      have apart : name ≠ first := fun same => other ⟨same.symm, by simp⟩
      exact ⟨first :: folders, rfl, by simp [apart, absent], filled⟩
    · rintro ⟨folders, split, absent, filled⟩
      rcases List.cons_eq_append_iff.mp split with ⟨rfl, same⟩ | ⟨more, rfl, same⟩
      · obtain ⟨rfl, rfl⟩ := List.cons.inj same
        exact absurd ⟨rfl, filled⟩ other
      · exact ⟨more, same, fun member => absent (List.mem_cons_of_mem _ member), filled⟩

/-- What follows a folder at the start of a path. -/
theorem after?_segment {name first rest : List Char} (whole : '/' ∉ name) (whole' : '/' ∉ first) :
    after? (name ++ ['/']) (first ++ '/' :: rest) = if first = name then some rest else none := by
  split
  next same =>
    have split : first ++ '/' :: rest = (name ++ ['/']) ++ rest := by simp [same]
    rw [split, after?_append]
  next other =>
    cases found : after? (name ++ ['/']) (first ++ '/' :: rest) with
    | none => rfl
    | some behind =>
      have same := eq_append_of_after? found
      rw [List.append_assoc, List.singleton_append] at same
      exact absurd (eq_of_append_cons same whole whole').1 other

/-- A folder is found in the text of a path where its segment stands before another one. -/
theorem afterFirst?_ofSegments {name : List Char} {segments : List (List Char)} (whole : '/' ∉ name)
    (clean : ∀ segment ∈ segments, '/' ∉ segment) :
    afterFirst? ('/' :: (name ++ ['/'])) (Path.absolute segments) = (below? name segments).map Path.ofSegments := by
  induction segments with
  | nil =>
    have missed : after? (name ++ ['/']) [] = none := after?_eq_none (c := '/') (by simp) (by simp)
    simp [Path.absolute, Path.ofSegments, afterFirst?, after?, missed, below?]
  | cons first rest ih =>
    obtain ⟨firstClean, restClean⟩ := List.forall_mem_cons.mp clean
    cases rest with
    | nil =>
      have missed : after? (name ++ ['/']) first = none := after?_eq_none (by simp) firstClean
      have passed : afterFirst? ('/' :: (name ++ ['/'])) (first ++ []) = _ := afterFirst?_append firstClean []
      rw [List.append_nil] at passed
      simp [Path.absolute, afterFirst?, after?, missed, passed, below?]
    | cons second more =>
      have split : Path.absolute (first :: second :: more) = '/' :: (first ++ Path.absolute (second :: more)) := by
        rw [Path.absolute, Path.ofSegments_cons_cons, Path.absolute]
      rw [split, afterFirst?, after?, if_pos rfl, Path.absolute, after?_segment whole firstClean, below?]
      by_cases folder : first = name
      · simp [folder]
      · rw [if_neg folder, if_neg fun found => folder found.1, ← ih restClean]
        exact afterFirst?_append firstClean _

theorem suffix_segment_iff {name last text : List Char} (whole : '/' ∉ name) (clean : '/' ∉ last) :
    '/' :: name <:+ text ++ '/' :: last ↔ last = name := by
  constructor
  · rintro ⟨before, same⟩
    have mirrored := congrArg List.reverse same
    simp only [List.reverse_append, List.reverse_cons, List.append_assoc, List.singleton_append] at mirrored
    have equal := eq_of_append_cons mirrored (by simpa using clean) (by simpa using whole)
    exact (List.reverse_inj.mp equal.1).symm
  · rintro rfl
    exact List.suffix_append text _

/-- A last segment is taken away if its name is one of those that end a path. -/
theorem withoutEnding_segment {names : List String} {text last : List Char} (whole : ∀ name ∈ names, '/' ∉ name.toList)
    (clean : '/' ∉ last) :
    withoutEnding (names.map ("/" ++ ·)) (text ++ '/' :: last) =
      if last ∈ names.map String.toList then text else text ++ '/' :: last := by
  have ends : ∀ name ∈ names, ("/" ++ name).toList.isSuffixOf (text ++ '/' :: last) = true ↔ last = name.toList := by
    intro name member
    have slashed : ("/" ++ name).toList = '/' :: name.toList := by rw [String.toList_append]; rfl
    rw [slashed, List.isSuffixOf_iff_suffix, suffix_segment_iff (whole name member) clean]
  unfold withoutEnding
  cases found : (names.map ("/" ++ ·)).find? fun ending => ending.toList.isSuffixOf (text ++ '/' :: last) with
  | none =>
    have absent : last ∉ names.map String.toList := by
      intro member
      obtain ⟨name, inside, rfl⟩ := List.mem_map.mp member
      exact List.find?_eq_none.mp found _ (List.mem_map_of_mem inside) ((ends name inside).mpr rfl)
    rw [if_neg absent]
  | some ending =>
    obtain ⟨name, inside, rfl⟩ := List.mem_map.mp (List.mem_of_find?_eq_some found)
    have suffix := List.find?_some found
    obtain rfl := (ends name inside).mp suffix
    have long : (text ++ '/' :: name.toList).length - ("/" ++ name).length = text.length := by
      simp only [List.length_append, List.length_cons, String.length_append, String.length_toList]
      exact Nat.sub_eq_of_eq_add (by rw [Nat.add_comm name.length 1]; rfl)
    simp only [long, List.take_left, if_pos (List.mem_map_of_mem inside)]

theorem withoutEnding_absolute {first : List Char} {below : List (List Char)} (filled : below ≠ [])
    (clean : ∀ segment ∈ below, '/' ∉ segment) :
    withoutEnding routeFiles (Path.absolute (first :: below)) = Path.absolute (first :: withoutRouteFile below) := by
  obtain ⟨init, last, rfl⟩ : ∃ init last, below = init ++ [last] :=
    ⟨below.dropLast, below.getLast filled, (List.dropLast_append_getLast filled).symm⟩
  have split : Path.absolute (first :: (init ++ [last])) = Path.absolute (first :: init) ++ '/' :: last := by
    rw [Path.absolute, Path.absolute, ← List.cons_append, Path.ofSegments_concat (by simp), List.cons_append]
  have files : routeFiles = routeNames.map ("/" ++ ·) := by decide
  have named : (init ++ [last]).getLast? ∈ routeNames.map (fun name => some name.toList) ↔
      last ∈ routeNames.map String.toList := by simp
  rw [split, files, withoutEnding_segment (by decide) (clean last (by simp)), withoutRouteFile]
  by_cases route : last ∈ routeNames.map String.toList
  · rw [if_pos route, if_pos (named.mpr route), List.dropLast_concat]
  · rw [if_neg route, if_neg (mt named.mp route), split]

theorem fileRoute?_eq_some_iff {path route : String} : fileRoute? path = some route ↔ IsRoute path route := by
  have clean : ∀ segment ∈ Path.segments path.toList, '/' ∉ segment := fun _ => Path.slash_not_mem_segment
  have whole : '/' :: path.toList = Path.absolute (Path.segments path.toList) := by
    rw [Path.absolute, Path.ofSegments_segments]
  have apart : '/' ∉ "api".toList := by decide
  have found : afterFirst? "/api/".toList ('/' :: path.toList) =
      (below? "api".toList (Path.segments path.toList)).map Path.ofSegments := by
    rw [whole]
    exact afterFirst?_ofSegments apart clean
  have routed (below : List (List Char)) (folder : below? "api".toList (Path.segments path.toList) = some below) :
      withoutEnding routeFiles ("/api/".toList ++ Path.ofSegments below) =
        Path.absolute ("api".toList :: withoutRouteFile below) := by
    obtain ⟨folders, split, -, filled⟩ := below?_eq_some_iff.mp folder
    have inner : "/api/".toList ++ Path.ofSegments below = Path.absolute ("api".toList :: below) := by
      obtain ⟨second, more, rfl⟩ := List.exists_cons_of_ne_nil filled
      rw [Path.absolute, Path.ofSegments_cons_cons]
      rfl
    rw [inner, withoutEnding_absolute filled fun segment member => clean segment (by simp [split, member])]
  rw [fileRoute?, found, Option.map_map, Option.map_eq_some_iff]
  constructor
  · rintro ⟨below, folder, rfl⟩
    obtain ⟨folders, split, absent, filled⟩ := below?_eq_some_iff.mp folder
    exact ⟨folders, below, split, absent, filled, by rw [Function.comp_apply, String.toList_ofList, routed below folder]⟩
  · rintro ⟨folders, below, split, absent, filled, same⟩
    have folder := below?_eq_some_iff.mpr ⟨folders, split, absent, filled⟩
    refine ⟨below, folder, ?_⟩
    rw [Function.comp_apply, routed below folder, ← same, String.ofList_toList]

/-- Whether a file stands somewhere below a folder `api`. -/
def InApi (path : String) : Prop := "api".toList ∈ (Path.segments path.toList).dropLast

instance (path : String) : Decidable (InApi path) := inferInstanceAs (Decidable (_ ∈ _))

theorem exists_isRoute {path : String} (inApi : InApi path) : ∃ route, IsRoute path route := by
  obtain ⟨folders, between, split, absent⟩ := List.eq_append_cons_of_mem inApi
  have filled : Path.segments path.toList ≠ [] := fun empty => by simp [empty] at split
  refine ⟨String.ofList _, folders, between ++ [(Path.segments path.toList).getLast filled], ?_, absent, by simp,
    String.toList_ofList⟩
  rw [← List.cons_append, ← List.append_assoc, ← split, List.dropLast_append_getLast]

/-! ## The endpoints of a run -/

/-- An endpoint of a file: a route that its text registers, or a handler among those that are chosen. -/
def Gives (chosen : List Char → String → Prop) (path text endpoint : String) : Prop :=
  endpoint ∈ collect readRoute text.toList ∨
    ∃ method route, chosen text.toList method ∧ IsRoute path route ∧ endpoint = method ++ " " ++ route

/-- A file among those that are looked at, with its text. -/
def Measured (disk : Disk) (root : String) (limit : Int) (paths : List String) (path text : String) : Prop :=
  path ∈ leading limit (paths.filter isMeasured) ∧ disk.read (Path.locate root.toList path.toList) = .ok text

theorem measured_single_iff {disk : Disk} {root : String} {limit : Int} {paths : List String} {file content path text : String}
    (files : leading limit (paths.filter isMeasured) = [file])
    (read : disk.read (Path.locate root.toList file.toList) = .ok content) :
    Measured disk root limit paths path text ↔ path = file ∧ text = content := by
  rw [Measured, files, List.mem_singleton]
  refine and_congr_right ?_
  intro same
  rw [same, read, Except.ok.injEq, eq_comm]

/-- The endpoints of all files that are looked at and can be read. -/
def found (chosen : List Char → String → Prop) (disk : Disk) (root : String) (limit : Int) (paths : List String) :
    Set String :=
  {endpoint | ∃ path text, Measured disk root limit paths path text ∧ Gives chosen path text endpoint}

theorem mem_endpoints_iff {path text endpoint : String} :
    endpoint ∈ endpoints path text.toList ↔ Gives HandlesFirst path text endpoint := by
  simp only [endpoints, List.mem_append, Option.mem_toList, Option.bind_eq_bind, Option.bind_eq_some_iff,
    Option.pure_def, Option.some.injEq, fileRoute?_eq_some_iff, firstRead?_readHandler_iff, Gives]
  refine or_congr_right ⟨?_, ?_⟩
  · rintro ⟨route, routed, method, first, rfl⟩
    exact ⟨method, route, first, routed, rfl⟩
  · rintro ⟨method, route, first, routed, rfl⟩
    exact ⟨route, routed, method, first, rfl⟩

theorem factsOf_value_eq_some_iff {disk : Disk} {root path : String} {facts : FileFacts} :
    (factsOf disk root path).value = some facts ↔
      ∃ text, disk.read (Path.locate root.toList path.toList) = .ok text ∧ facts = FileFacts.ofText path text := by
  simp only [factsOf]
  cases disk.read (Path.locate root.toList path.toList) with
  | ok text => simp [eq_comm]
  | error fault => simp

section Run

variable {disk : Disk} {root : String} {limit : Int} {paths : List String}

/-- All endpoints of the files that can be read, in order and with their repetitions. -/
def given (disk : Disk) (root : String) (limit : Int) (paths : List String) : List String :=
  ((leading limit (paths.filter isMeasured)).filterMap fun path => (factsOf disk root path).value).flatMap (·.endpoints)

theorem measure_endpoints_eq :
    (measure disk root limit paths).value.endpoints = (given disk root limit paths).eraseDups.take endpointLimit := by
  simp [measure, Logged.mapList, ofFacts, given, List.filterMap_map]

theorem mem_given_iff {endpoint : String} :
    endpoint ∈ given disk root limit paths ↔ endpoint ∈ found HandlesFirst disk root limit paths := by
  simp only [given, List.mem_flatMap, List.mem_filterMap, factsOf_value_eq_some_iff]
  constructor
  · rintro ⟨facts, ⟨path, member, text, read, rfl⟩, inside⟩
    exact ⟨path, text, ⟨member, read⟩, mem_endpoints_iff.mp inside⟩
  · rintro ⟨path, text, ⟨member, read⟩, gives⟩
    exact ⟨_, ⟨path, member, text, read, rfl⟩, mem_endpoints_iff.mpr gives⟩

/-- As long as they are not too many, all endpoints that are found are listed. -/
theorem mem_measure_endpoints_iff (few : (found HandlesFirst disk root limit paths).encard ≤ endpointLimit)
    {endpoint : String} :
    endpoint ∈ (measure disk root limit paths).value.endpoints ↔ endpoint ∈ found HandlesFirst disk root limit paths := by
  have same : found HandlesFirst disk root limit paths = ((given disk root limit paths).eraseDups.toFinset : Set String) := by
    ext endpoint
    simp [mem_given_iff]
  have short : (given disk root limit paths).eraseDups.length ≤ endpointLimit := by
    rw [same, Set.encard_coe_eq_coe_finsetCard, List.toFinset_card_of_nodup (Sequence.nodup_eraseDups _)] at few
    exact_mod_cast few
  rw [measure_endpoints_eq, List.take_of_length_le short, List.mem_eraseDups, mem_given_iff]

/-- Each file below a folder `api` has a route, and its first handler is always listed. Another one is listed just where
its endpoint is registered somewhere, or is the first one of a file with the same route. -/
theorem measure_endpoints (few : (found HandlesFirst disk root limit paths).encard ≤ endpointLimit) :
    ∀ path text, Measured disk root limit paths path text → InApi path → (∃ route, IsRoute path route) ∧
      ∀ route, IsRoute path route → ∀ method, Handles text.toList method →
        (∃ first, HandlesFirst text.toList first ∧
          first ++ " " ++ route ∈ (measure disk root limit paths).value.endpoints) ∧
        (method ++ " " ++ route ∈ (measure disk root limit paths).value.endpoints ↔
          ∃ other source, Measured disk root limit paths other source ∧
            (method ++ " " ++ route ∈ collect readRoute source.toList ∨
              IsRoute other route ∧ HandlesFirst source.toList method)) := by
  intro path text measured inApi
  refine ⟨exists_isRoute inApi, fun route routed method handles => ⟨?_, ?_⟩⟩
  · obtain ⟨first, handlesFirst⟩ := exists_handlesFirst handles
    refine ⟨first, handlesFirst, (mem_measure_endpoints_iff few).mpr ⟨path, text, measured, ?_⟩⟩
    exact .inr ⟨first, route, handlesFirst, routed, rfl⟩
  · rw [mem_measure_endpoints_iff few]
    refine exists_congr fun other => exists_congr fun source => and_congr_right fun _ => or_congr_right ⟨?_, ?_⟩
    · rintro ⟨first, way, handlesFirst, wayOther, same⟩
      obtain ⟨rfl, rfl⟩ := endpoint_inj handles.mem handlesFirst.handles.mem same
      exact ⟨wayOther, handlesFirst⟩
    · rintro ⟨routedOther, handlesFirst⟩
      exact ⟨method, route, handlesFirst, routedOther, rfl⟩

end Run

/-! A route with two handlers in its file. -/

def usersPath : String := "app/api/users/route.ts"

def usersText : String := "export async function GET() \x7b\x7d\nexport async function POST() \x7b\x7d\n"

def usersDisk : Disk := .lone ["w", "app", "api", "users", "route.ts"] usersText

theorem read_users : usersDisk.read (Path.locate "/w".toList usersPath.toList) = .ok usersText := by
  have location : Path.locate "/w".toList usersPath.toList =
      Path.absolute (["w", "app", "api", "users", "route.ts"].map String.toList) := by decide +kernel
  rw [location]
  exact Disk.read_lone (by decide) (by decide) (by decide +kernel) (by decide +kernel)

theorem measured_users_iff {path text : String} :
    Measured usersDisk "/w" 200 [usersPath] path text ↔ path = usersPath ∧ text = usersText :=
  measured_single_iff (by decide +kernel) read_users

theorem isRoute_users_iff {route : String} : IsRoute usersPath route ↔ route = "/api/users" := by
  have routed : fileRoute? usersPath = some "/api/users" := by decide +kernel
  rw [← fileRoute?_eq_some_iff, routed, Option.some.injEq, eq_comm]

theorem handles_users : Handles usersText.toList "POST" := by
  refine ⟨"export async function POST() \x7b\x7d\n".toList, "() \x7b\x7d\n".toList, ?_, ?_⟩
  · decide +kernel
  · exact readHandler_eq_some_iff.mp (by decide +kernel)

theorem encard_le_length {entries : List String} {names : Set String} (listed : ∀ name ∈ names, name ∈ entries) :
    names.encard ≤ entries.length := by
  have within : names ⊆ (entries.toFinset : Set String) := fun name member => by simpa using listed name member
  calc names.encard ≤ (entries.toFinset : Set String).encard := Set.encard_le_encard within
    _ = entries.toFinset.card := Set.encard_coe_eq_coe_finsetCard _
    _ ≤ entries.length := by exact_mod_cast List.toFinset_card_le entries

theorem few_users {chosen : List Char → String → Prop}
    (known : ∀ method, chosen usersText.toList method → method ∈ handlerMethods) :
    (found chosen usersDisk "/w" 200 [usersPath]).encard ≤ endpointLimit := by
  have short : ((handlerMethods.map (· ++ " " ++ "/api/users")).length : ℕ∞) ≤ endpointLimit := by
    exact_mod_cast (by decide : handlerMethods.length ≤ endpointLimit)
  refine le_trans (encard_le_length ?_) short
  rintro endpoint ⟨path, text, measured, gives⟩
  obtain ⟨rfl, rfl⟩ := measured_users_iff.mp measured
  have registered : collect readRoute usersText.toList = [] := by decide +kernel
  rcases gives with route | ⟨method, route, handler, routed, rfl⟩
  · simp [registered] at route
  · rw [isRoute_users_iff.mp routed]
    exact List.mem_map_of_mem (known method handler)

theorem measure_endpoints_users :
    (found HandlesFirst usersDisk "/w" 200 [usersPath]).encard ≤ endpointLimit ∧ (∃ route, IsRoute usersPath route) ∧
      (∃ first, HandlesFirst usersText.toList first ∧
        first ++ " " ++ "/api/users" ∈ (measure usersDisk "/w" 200 [usersPath]).value.endpoints) ∧
      ("POST" ++ " " ++ "/api/users" ∈ (measure usersDisk "/w" 200 [usersPath]).value.endpoints ↔
        ∃ other source, Measured usersDisk "/w" 200 [usersPath] other source ∧
          ("POST" ++ " " ++ "/api/users" ∈ collect readRoute source.toList ∨
            IsRoute other "/api/users" ∧ HandlesFirst source.toList "POST")) := by
  have few := few_users fun method (first : HandlesFirst _ method) => first.handles.mem
  have run := measure_endpoints few usersPath usersText (measured_users_iff.mpr ⟨rfl, rfl⟩) (by decide +kernel)
  exact ⟨few, run.1, run.2 "/api/users" (isRoute_users_iff.mpr rfl) "POST" handles_users⟩

/-- Although only a few endpoints are found when each handler makes one, the second handler of the file is not listed. -/
theorem not_measure_endpoints_second :
    (found Handles usersDisk "/w" 200 [usersPath]).encard ≤ endpointLimit ∧
      Measured usersDisk "/w" 200 [usersPath] usersPath usersText ∧ InApi usersPath ∧ IsRoute usersPath "/api/users" ∧
      Handles usersText.toList "POST" ∧
      "POST" ++ " " ++ "/api/users" ∉ (measure usersDisk "/w" 200 [usersPath]).value.endpoints := by
  refine ⟨few_users fun method handles => handles.mem, measured_users_iff.mpr ⟨rfl, rfl⟩, by decide +kernel,
    isRoute_users_iff.mpr rfl, handles_users, ?_⟩
  rw [mem_measure_endpoints_iff (few_users fun method first => first.handles.mem)]
  rintro ⟨path, text, measured, gives⟩
  obtain ⟨rfl, rfl⟩ := measured_users_iff.mp measured
  have only : endpoints usersPath usersText.toList = ["GET /api/users"] := by decide +kernel
  rw [← mem_endpoints_iff, only] at gives
  exact absurd gives (by decide)

end Surveyor.Metrics
