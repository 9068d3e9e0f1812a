import Mathlib.Data.List.Basic
import Mathlib.Logic.Function.Basic
import Surveyor.Audit
import Surveyor.Proofs.Location
import Surveyor.Proofs.Reply

/-! Failures in an audit stay with the files where they happen. Each file that can be read takes one call of the runner, and
what the file adds to the audit depends on the outcome of this call alone. Files that cannot be read take none, so that
the calls are counted apart from the files. -/

namespace Surveyor

def Runner.heard (runner : Runner) (requests : List String) : Runner :=
  { runner with prompts := runner.prompts ++ requests }

theorem Runner.heard_nil (runner : Runner) : runner.heard [] = runner := by
  simp [heard]

theorem Runner.heard_heard (runner : Runner) (earlier later : List String) :
    (runner.heard earlier).heard later = runner.heard (earlier ++ later) := by
  simp [heard]

namespace Audit

variable (disk : Disk) (graph : Graph)

/-- What can be shown of a file. It is nothing if the graph was never built or the file cannot be read. -/
def code? (path : String) : Option String :=
  graph.root.bind fun root => (disk.read (Path.locate root.toList path.toList)).toOption

def isReadable (path : String) : Bool := (code? disk graph path).isSome

def request? (path : String) : Option String :=
  (code? disk graph path).map fun code =>
    promptText path (graph.dependencies path) (String.ofList (code.toList.take codeLength))

/-- The issues that come of a call about a file. -/
def findings (path : String) (outcome : Except RunnerFault String) : List Issue :=
  (Reply.answer? (ofReply path) outcome).getD []

/-- How often the runner was asked before the turn of a file. -/
def callAt (runner : Runner) (files : List String) (position : Nat) : Nat :=
  runner.prompts.length + (files.take position).countP (isReadable disk graph)

/-- What each file adds to an audit. -/
def contributions (runner : Runner) (files : List String) : List (List Issue) :=
  files.mapIdx fun position path =>
    if isReadable disk graph path then findings path (runner.outcome (callAt disk graph runner files position)) else []

variable {disk : Disk} {graph : Graph} {runner : Runner} {path : String} {files : List String} {position : Nat}

/-! ## The audit of one file -/

theorem prompt_value : (prompt disk graph path).value = request? disk graph path := by
  unfold prompt request? code?
  cases graph.root with
  | none => rfl
  | some root =>
    cases read : disk.read (Path.locate root.toList path.toList) <;> simp [read, Except.toOption]

/-- A file that can be read takes one call, and any other takes none. Neither stops the audit. -/
theorem auditFile_value (usual : ∀ key, runner.outcome runner.prompts.length ≠ .error (.missingKey key)) :
    (auditFile disk graph runner path).value =
      (.ok (if isReadable disk graph path then findings path (runner.outcome runner.prompts.length) else []),
        runner.heard (request? disk graph path).toList) := by
  rw [auditFile, Logged.value_bind, prompt_value, request?, isReadable]
  cases code? disk graph path with
  | none => simp [Runner.heard_nil]
  | some code =>
    simp only [Option.map_some, Option.isSome_some, if_true, Option.toList_some, findings]
    obtain ⟨issues, answered, asked⟩ | ⟨failure, cause, unanswered, known, asked⟩ := Reply.ask_cases usual
      (promptText path (graph.dependencies path) (String.ofList (code.toList.take codeLength))) (ofReply path)
    · rw [asked, answered]
      rfl
    · rw [asked, unanswered]
      simp only [known]
      rfl

theorem ofReply_eq_ok_iff {reply : String} {issues : List Issue} : ofReply path reply = .ok issues ↔
    ∃ items, Reply.parse reply = .ok (.array items) ∧ items.filterMap (issue? path) = issues := by
  rw [ofReply, Reply.bind_eq_ok_iff]
  constructor
  · rintro ⟨value, parsed, made⟩
    cases value with
    | array items => exact ⟨items, parsed, Except.ok.inj made⟩
    | _ => cases made
  · rintro ⟨items, parsed, rfl⟩
    exact ⟨_, parsed, rfl⟩

theorem file_of_issue? {item : Json} {issue : Issue} (made : issue? path item = some issue) : issue.file = path := by
  cases item with
  | object fields => exact Option.some.inj made ▸ rfl
  | _ => cases made

theorem file_of_mem_findings {outcome : Except RunnerFault String} {issue : Issue}
    (member : issue ∈ findings path outcome) : issue.file = path := by
  rw [findings] at member
  cases answered : Reply.answer? (ofReply path) outcome with
  | none => simp [answered] at member
  | some issues =>
    rw [answered, Option.getD_some] at member
    obtain ⟨reply, -, read⟩ := Reply.answer?_eq_some_iff.mp answered
    obtain ⟨items, -, rfl⟩ := ofReply_eq_ok_iff.mp read
    obtain ⟨item, -, made⟩ := List.mem_filterMap.mp member
    exact file_of_issue? made

/-! ## The audit of all files -/

theorem length_heard_request : (runner.heard (request? disk graph path).toList).prompts.length =
    runner.prompts.length + if isReadable disk graph path then 1 else 0 := by
  unfold request? isReadable
  cases code? disk graph path <;> simp [Runner.heard]

theorem callAt_succ {rest : List String} :
    callAt disk graph runner (path :: rest) (position + 1) =
      callAt disk graph (runner.heard (request? disk graph path).toList) rest position := by
  rw [callAt, callAt, length_heard_request, List.take_succ_cons, List.countP_cons]
  omega

theorem contributions_cons {rest : List String} : contributions disk graph runner (path :: rest) =
    (if isReadable disk graph path then findings path (runner.outcome runner.prompts.length) else []) ::
      contributions disk graph (runner.heard (request? disk graph path).toList) rest := by
  unfold contributions
  rw [List.mapIdx_cons]
  simp only [callAt_succ]
  rfl

theorem auditFiles_value (usual : ∀ call key, runner.outcome call ≠ .error (.missingKey key)) :
    (auditFiles disk graph runner files).value =
      (.ok (contributions disk graph runner files).flatten, runner.heard (files.filterMap (request? disk graph))) := by
  induction files generalizing runner with
  | nil => simp [auditFiles, contributions, Runner.heard_nil]
  | cons path rest ih =>
    have steady : ∀ call key, (runner.heard (request? disk graph path).toList).outcome call ≠ .error (.missingKey key) :=
      usual
    have requests : (request? disk graph path).toList ++ rest.filterMap (request? disk graph) =
        (path :: rest).filterMap (request? disk graph) := by
      rw [List.filterMap_cons]
      cases request? disk graph path <;> rfl
    simp only [auditFiles, Logged.value_bind, auditFile_value (usual _), ih steady, Logged.value_pure]
    rw [contributions_cons, Runner.heard_heard, requests]
    rfl

/-! ## The outcome of one call -/

theorem callAt_lt {later : Nat} (held : files[position]? = some path) (readable : isReadable disk graph path)
    (before : position < later) : callAt disk graph runner files position < callAt disk graph runner files later := by
  have next : (files.take (position + 1)).countP (isReadable disk graph) =
      (files.take position).countP (isReadable disk graph) + 1 := by
    rw [List.take_add_one, held, List.countP_append]
    simp [readable]
  have within : (files.take (position + 1)).countP (isReadable disk graph) ≤
      (files.take later).countP (isReadable disk graph) :=
    (List.take_prefix_take_left before).sublist.countP_le
  unfold callAt
  omega

/-- Every call is made for a file. -/
theorem exists_callAt {call : Nat} (first : runner.prompts.length ≤ call)
    (made : call < runner.prompts.length + files.countP (isReadable disk graph)) :
    ∃ position path, files[position]? = some path ∧ isReadable disk graph path ∧
      callAt disk graph runner files position = call := by
  induction files generalizing runner with
  | nil => exact absurd made (Nat.not_lt.mpr first)
  | cons path rest ih =>
    rw [List.countP_cons] at made
    by_cases now : isReadable disk graph path ∧ runner.prompts.length = call
    · exact ⟨0, path, rfl, now⟩
    · have later : (runner.heard (request? disk graph path).toList).prompts.length ≤ call := by
        rw [length_heard_request]
        split
        next readable => exact lt_of_le_of_ne first fun same => now ⟨readable, same⟩
        next => exact first
      have left : call < (runner.heard (request? disk graph path).toList).prompts.length +
          rest.countP (isReadable disk graph) := by
        rw [length_heard_request]
        omega
      obtain ⟨position, other, held, readable, same⟩ := ih later left
      exact ⟨position + 1, other, held, readable, callAt_succ.trans same⟩

theorem getElem?_contributions : (contributions disk graph runner files)[position]? =
    files[position]?.map fun path =>
      if isReadable disk graph path then findings path (runner.outcome (callAt disk graph runner files position)) else [] :=
  List.getElem?_mapIdx

theorem callAt_outcome (outcome : Nat → Except RunnerFault String) :
    callAt disk graph { runner with outcome } files position = callAt disk graph runner files position := rfl

/-- The outcome of the call for a file makes up what this file adds, and nothing else. -/
theorem contributions_update (held : files[position]? = some path) (readable : isReadable disk graph path)
    (outcome : Except RunnerFault String) :
    contributions disk graph
        { runner with outcome := Function.update runner.outcome (callAt disk graph runner files position) outcome } files =
      (contributions disk graph runner files).set position (findings path outcome) := by
  refine List.ext_getElem? fun other => ?_
  rcases eq_or_ne position other with rfl | apart
  · have inside : position < (contributions disk graph runner files).length := by
      rw [contributions, List.length_mapIdx]
      exact (List.getElem?_eq_some_iff.mp held).1
    rw [List.getElem?_set_self inside, getElem?_contributions, held]
    simp [readable, callAt_outcome]
  · rw [List.getElem?_set_ne apart, getElem?_contributions, getElem?_contributions]
    cases there : files[other]? with
    | none => rfl
    | some another =>
      by_cases asked : isReadable disk graph another
      · have different : callAt disk graph runner files other ≠ callAt disk graph runner files position := by
          rcases lt_or_gt_of_ne apart with before | after
          · exact (callAt_lt held readable before).ne'
          · exact (callAt_lt there asked after).ne
        simp [asked, callAt_outcome, Function.update_of_ne different]
      · simp [asked]

/-- Whatever a runner replies or refuses: the audit ends, and joins what the first risky files add to it, one after the
other. The runner gets the requests for those that can be read, and each of its calls is for one of them: with another
outcome, only what this file adds is another. -/
theorem audit_isolated (disk : Disk) (graph : Graph) (runner : Runner) (limit : Nat)
    (usual : ∀ call key, runner.outcome call ≠ .error (.missingKey key)) :
    let files := (hotspots graph).take limit
    let parts := contributions disk graph runner files
    let prompts := runner.prompts ++ files.filterMap (request? disk graph)
    (audit disk graph runner limit).value = (.ok parts.flatten, { runner with prompts }) ∧
    (∀ (position : Nat) (part : List Issue), parts[position]? = some part →
      ∀ issue ∈ part, files[position]? = some issue.file) ∧
    ∀ call, runner.prompts.length ≤ call → call < prompts.length →
      ∃ position path, files[position]? = some path ∧ isReadable disk graph path ∧
        callAt disk graph runner files position = call ∧
        ∀ other, (∀ key, other ≠ .error (.missingKey key)) →
          let changed : Runner := { runner with outcome := Function.update runner.outcome call other }
          (audit disk graph changed limit).value =
            (.ok (parts.set position (findings path other)).flatten, { changed with prompts }) := by
  intro files parts prompts
  have front : leading (limit : Int) (hotspots graph) = files := by
    simp [leading, files]
  have asked : prompts.length = runner.prompts.length + files.countP (isReadable disk graph) := by
    have each : (request? disk graph · |>.isSome) = isReadable disk graph := by
      funext path
      simp [request?, isReadable]
    rw [List.length_append, List.length_filterMap_eq_countP, each]
  refine ⟨?_, ?_, fun call first made => ?_⟩
  · rw [audit, front, auditFiles_value usual]
    rfl
  · intro position part there issue member
    rw [getElem?_contributions] at there
    obtain ⟨path, held, rfl⟩ := Option.map_eq_some_iff.mp there
    split at member
    · rw [held, file_of_mem_findings member]
    · cases member
  · obtain ⟨position, path, held, readable, rfl⟩ := exists_callAt first (asked ▸ made)
    refine ⟨position, path, held, readable, rfl, ?_⟩
    intro other mild changed
    have steady : ∀ call key, changed.outcome call ≠ .error (.missingKey key) := by
      intro call key
      rcases eq_or_ne call (callAt disk graph runner files position) with rfl | apart
      · simpa [changed] using mild key
      · simpa [changed, apart] using usual call key
    rw [audit, front, auditFiles_value steady, contributions_update held readable]
    rfl

/-- The first file cannot be read, and the call for the second one fails. -/
theorem audit_isolated_missing :
    let graph : Graph := { root := some "/w", nodes := ["auth.ts", "login.ts", "api.ts"].map fun path =>
      ⟨path, "/w/" ++ path, .source, [], []⟩ }
    let disk := Disk.workspace [("login.ts", ""), ("api.ts", "")]
    let runner : Runner := { outcome := fun call => if call = 0 then .error .unreachable else .ok "[\x7b\x7d]" }
    (∀ call key, runner.outcome call ≠ .error (.missingKey key)) ∧
      hotspots graph = ["auth.ts", "login.ts", "api.ts"] ∧
      (audit disk graph runner 10).value.1 = .ok [⟨.low, "", "api.ts", "", "", none⟩] := by
  intro graph disk runner
  have usual : ∀ call key, runner.outcome call ≠ .error (.missingKey key) := by
    intro call key
    by_cases start : call = 0 <;> simp [runner, start]
  have files : hotspots graph = ["auth.ts", "login.ts", "api.ts"] := by decide +kernel
  have whole := (audit_isolated disk graph runner 10 usual).1
  rw [files] at whole
  refine ⟨usual, files, (congrArg Prod.fst whole).trans ?_⟩
  decide +kernel

end Audit

end Surveyor
