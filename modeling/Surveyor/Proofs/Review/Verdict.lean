import Surveyor.Proofs.Location
import Surveyor.Proofs.Number.Rounding
import Surveyor.Proofs.Progress.Score
import Surveyor.Proofs.Reply
import Surveyor.Proofs.Review.Files
import Surveyor.Proofs.Text

/-! What a review says. The runner is asked once or not at all, and whatever it does then, there is a review exactly if its
reply is JSON for an object with a number from 0 to 100 as its progress. -/

namespace Surveyor

/-- The value of a number. What is no real number has none. -/
def Json.rational? : Json → Option Rat
  | .int value => some value
  | .real value => value.toRat?
  | _ => none

namespace Review

/-! ## Scores -/

theorem clamp_roundToInt_iff {progress : Rat} (range : 0 ≤ progress ∧ progress ≤ 100) {score : Nat} :
    Score.clamp (roundToInt progress) = score ↔ NearestEven progress score := by
  have above : progress ≤ (100 : Nat) := range.2
  obtain ⟨low, high⟩ := roundToInt_bounded range.1 above
  have kept : (Score.clamp (roundToInt progress) : Int) = roundToInt progress := by
    rw [Score.clamp_eq]
    push_cast at high
    omega
  rw [← Int.ofNat_inj, kept]
  constructor
  · intro same
    exact same ▸ roundToInt_nearest progress
  · exact (roundToInt_nearest progress).unique

theorem within_iff {value : Binary64} : (Binary64.le (.ofInt 0) value && Binary64.le value (.ofInt 100)) = true ↔
    ∃ progress, value.toRat? = some progress ∧ 0 ≤ progress ∧ progress ≤ 100 := by
  have least : Binary64.ofInt 0 = .finite false 0 := by decide
  have most : Binary64.ofInt 100 = .finite false 100 := by decide +kernel
  rw [least, most, Bool.and_eq_true]
  cases value with
  | nan => simp [Binary64.le, Binary64.toRat?]
  | infinite negative => cases negative <;> simp [Binary64.le, Binary64.toRat?]
  | finite negative magnitude => simp [Binary64.le, Binary64.toRat?]

/-- The score of a number in the range is the nearest whole number. Nothing else has a score. -/
theorem scoreOf_eq_ok_iff {field : Option Json} {score : Nat} : scoreOf field = .ok score ↔
    ∃ progress, field.bind Json.rational? = some progress ∧ (0 ≤ progress ∧ progress ≤ 100) ∧
      NearestEven progress score := by
  rcases field with _ | (_ | _ | value | value | _ | _ | _)
  case some.int =>
    have whole : roundToInt (value : Rat) = value := roundToInt_intCast value
    have range : (0 ≤ (value : Rat) ∧ (value : Rat) ≤ 100) ↔ 0 ≤ value ∧ value ≤ 100 := by norm_cast
    simp only [scoreOf, Option.bind_some, Json.rational?, Option.some.injEq, exists_eq_left']
    split
    next inside =>
      have inside := range.mpr inside
      rw [Except.ok.injEq, ← whole, clamp_roundToInt_iff inside, whole, and_iff_right inside]
    next outside => exact iff_of_false (by simp) fun reached => outside (range.mp reached.1)
  case some.real =>
    simp only [scoreOf, Option.bind_some, Json.rational?]
    split
    next inside =>
      obtain ⟨progress, real, range⟩ := within_iff.mp inside
      simp only [Score.clampReal_eq real, real, Except.mapError, Except.ok.injEq, Option.some.injEq, exists_eq_left',
        and_iff_right range]
      exact clamp_roundToInt_iff range
    next outside =>
      refine iff_of_false (by simp) ?_
      rintro ⟨progress, real, range, -⟩
      exact outside (within_iff.mpr ⟨progress, real, range⟩)
  all_goals simp [scoreOf, Json.rational?]

/-! ## Replies -/

/-- What a reply has to be: JSON for an object, without fences and without blanks around it, and a number in the range as
the progress in it. -/
structure Usable (reply : String) (fields : List (String × Json)) (progress : Rat) : Prop where
  object : Json.read (String.ofList (Text.trimChars (Reply.unfenced reply.toList))) = .ok (.object fields)
  number : (Fields.get? "progress" fields).bind Json.rational? = some progress
  range : 0 ≤ progress ∧ progress ≤ 100

/-- The items of a list as texts, without blank ones. What is no list has no items. -/
def texts : Option Json → List String
  | some (.array items) => (items.map Json.display).filter fun text => Text.trim text ≠ ""
  | _ => []

structure Reflects (assessment : Assessment) (fields : List (String × Json)) (progress : Rat) : Prop where
  score : NearestEven progress assessment.score
  stage : assessment.stage = .ofScore assessment.score
  evidence : assessment.evidence = texts (Fields.get? "evidence" fields)
  missing : assessment.missing = texts (Fields.get? "missing" fields)

theorem itemTexts_eq (field : Option Json) : itemTexts field = texts field := by
  have blank (text : String) : (!Text.isEmptyLine text.toList) = decide (Text.trim text ≠ "") := by
    have same : Text.isEmptyLine text.toList = true ↔ Text.trim text = "" := by
      rw [Text.trim, String.ofList_eq_empty_iff, Text.trimChars_eq_nil_iff, Text.isEmptyLine, List.all_eq_true]
    rw [Bool.eq_iff_iff, decide_eq_true_iff, ne_eq, ← same, Bool.not_eq_true', Bool.not_eq_true]
  rcases field with _ | (_ | _ | _ | _ | _ | items | _)
  case some.array =>
    rw [itemTexts, texts]
    simp only [blank]
  all_goals rfl

theorem ofReply_parsed {reply : String} {assessment : Assessment} : ofReply reply = .ok assessment ↔
    ∃ fields score, Reply.parse reply = .ok (.object fields) ∧ scoreOf (Fields.get? "progress" fields) = .ok score ∧
      assessment = ⟨score, .ofScore score, itemTexts (Fields.get? "evidence" fields),
        itemTexts (Fields.get? "missing" fields)⟩ := by
  rw [ofReply, Reply.bind_eq_ok_iff]
  constructor
  · rintro ⟨value, parsed, made⟩
    cases value with
    | object fields =>
      obtain ⟨score, scored, made⟩ := Reply.bind_eq_ok_iff.mp made
      exact ⟨fields, score, parsed, scored, (Except.ok.inj made).symm⟩
    | _ => cases made
  · rintro ⟨fields, score, parsed, scored, rfl⟩
    exact ⟨_, parsed, Reply.bind_eq_ok_iff.mpr ⟨score, scored, rfl⟩⟩

theorem ofReply_eq_ok_iff {reply : String} {assessment : Assessment} : ofReply reply = .ok assessment ↔
    ∃ fields progress, Usable reply fields progress ∧ Reflects assessment fields progress := by
  rw [ofReply_parsed]
  constructor
  · rintro ⟨fields, score, parsed, scored, rfl⟩
    obtain ⟨progress, number, range, nearest⟩ := scoreOf_eq_ok_iff.mp scored
    exact ⟨fields, progress, ⟨Reply.parse_eq_ok_iff.mp parsed, number, range⟩, nearest, rfl, itemTexts_eq _, itemTexts_eq _⟩
  · rintro ⟨fields, progress, usable, reflects⟩
    refine ⟨fields, assessment.score, Reply.parse_eq_ok_iff.mpr usable.object, ?_, ?_⟩
    · exact scoreOf_eq_ok_iff.mpr ⟨progress, usable.number, usable.range, reflects.score⟩
    · rw [itemTexts_eq, itemTexts_eq, ← reflects.stage, ← reflects.evidence, ← reflects.missing]

/-- Of a usable reply something can always be told. -/
theorem Usable.exists_reflects {reply : String} {fields : List (String × Json)} {progress : Rat}
    (usable : Usable reply fields progress) : ∃ assessment, Reflects assessment fields progress :=
  ⟨⟨Score.clamp (roundToInt progress), .ofScore (Score.clamp (roundToInt progress)), _, _⟩,
    (clamp_roundToInt_iff usable.range).mp rfl, rfl, rfl, rfl⟩

theorem Usable.unique {reply : String} {fields others : List (String × Json)} {progress other : Rat}
    (one : Usable reply fields progress) (second : Usable reply others other) : fields = others ∧ progress = other := by
  cases one.object.symm.trans second.object
  exact ⟨rfl, Option.some.inj (one.number.symm.trans second.number)⟩

/-! ## Reviews -/

theorem review_unasked (disk : Disk) {graph : Graph} (runner : Runner) {depth : Option Int} {title description : String}
    (idle : graph.root = none ∨ filesFor graph depth title description = []) :
    (review disk graph runner depth title description).value = (.ok none, runner) := by
  rw [review]
  cases rooted : graph.root with
  | none => rfl
  | some root =>
    have empty := idle.resolve_left (by simp [rooted])
    simp only [empty, List.isEmpty_nil, if_true]
    rfl

theorem review_asked (disk : Disk) {graph : Graph} {root : String} {runner : Runner} {depth : Option Int}
    {title description : String} (rooted : graph.root = some root) (related : filesFor graph depth title description ≠ [])
    (usual : ∀ key, runner.outcome runner.prompts.length ≠ .error (.missingKey key)) :
    (review disk graph runner depth title description).value =
      (.ok (Reply.answer? ofReply (runner.outcome runner.prompts.length)), { runner with
        prompts := runner.prompts ++ [(prompt disk root title description (filesFor graph depth title description)).value] }) := by
  rw [review, rooted]
  simp only [List.isEmpty_iff, related, if_false, Logged.value_bind]
  obtain ⟨assessment, answered, asked⟩ | ⟨failure, cause, unanswered, known, asked⟩ := Reply.ask_cases usual
    (prompt disk root title description (filesFor graph depth title description)).value ofReply
  · rw [asked, answered]
    rfl
  · rw [asked, unanswered]
    simp only [known]
    rfl

/-- A runner that at worst refuses or cannot be reached is asked once if there is something to ask about, and not at all
otherwise. There is a review exactly if its reply is usable, and the review reflects what the reply says. -/
theorem review_value (disk : Disk) (graph : Graph) (runner : Runner) (depth : Option Int) (title description : String)
    (usual : ∀ key, runner.outcome runner.prompts.length ≠ .error (.missingKey key)) :
    let files := filesFor graph depth title description
    let reviewed := (review disk graph runner depth title description).value
    (graph.root = none ∨ files = [] → reviewed = (.ok none, runner)) ∧
    (∀ root, graph.root = some root → files ≠ [] → reviewed =
      (.ok (Reply.answer? ofReply (runner.outcome runner.prompts.length)),
        { runner with prompts := runner.prompts ++ [(prompt disk root title description files).value] })) ∧
    ∀ reply, ((∃ assessment, ofReply reply = .ok assessment) ↔ ∃ fields progress, Usable reply fields progress) ∧
      ∀ fields progress assessment, Usable reply fields progress → ofReply reply = .ok assessment →
        Reflects assessment fields progress := by
  refine ⟨review_unasked disk runner, fun root rooted related => review_asked disk rooted related usual, fun reply => ?_⟩
  refine ⟨⟨?_, ?_⟩, ?_⟩
  · rintro ⟨assessment, accepted⟩
    obtain ⟨fields, progress, usable, -⟩ := ofReply_eq_ok_iff.mp accepted
    exact ⟨fields, progress, usable⟩
  · rintro ⟨fields, progress, usable⟩
    obtain ⟨assessment, reflects⟩ := usable.exists_reflects
    exact ⟨assessment, ofReply_eq_ok_iff.mpr ⟨fields, progress, usable, reflects⟩⟩
  · intro fields progress assessment usable accepted
    obtain ⟨others, other, second, reflects⟩ := ofReply_eq_ok_iff.mp accepted
    obtain ⟨rfl, rfl⟩ := usable.unique second
    exact reflects

theorem review_value_half :
    let graph : Graph := { root := some "/w", nodes := [⟨"auth.ts", "/w/auth.ts", .source, [], []⟩] }
    let reply := "\x7b\"progress\": 72.5, \"evidence\": [\"login\", \" \"]\x7d"
    let runner : Runner := { outcome := fun _ => .ok reply }
    (∀ key, runner.outcome runner.prompts.length ≠ .error (.missingKey key)) ∧
      filesFor graph (some 0) "Auth" "" = ["auth.ts"] ∧
      (review (Disk.workspace []) graph runner (some 0) "Auth" "").value.1 = .ok (some ⟨72, .review, ["login"], []⟩) := by
  intro graph reply runner
  have usual : ∀ key, runner.outcome runner.prompts.length ≠ .error (.missingKey key) := by simp [runner]
  have seeds : graph.pathsWithAny (Keyword.ofText ("Auth" ++ " " ++ "")) = ["auth.ts"] := by decide +kernel
  have around : graph.cluster "auth.ts" (some 0) = ["auth.ts"] := by
    simp [Graph.cluster, Graph.clusterFrom]
  have files : filesFor graph (some 0) "Auth" "" = ["auth.ts"] := by
    rw [filesFor_eq, seeds, List.flatMap_singleton, around]
    decide +kernel
  have read : ofReply reply = .ok ⟨72, .review, ["login"], []⟩ := by decide +kernel
  have whole := (review_value (Disk.workspace []) graph runner (some 0) "Auth" "" usual).2.1 "/w" rfl (by simp [files])
  refine ⟨usual, files, ?_⟩
  rw [whole]
  simp [runner, Reply.answer?, read, Except.toOption]

/-- A blank that no JSON holds does no harm around the object. -/
theorem ofReply_around_blank :
    let reply := "\xa0\x7b\"progress\": 50\x7d"
    ofReply reply = .ok ⟨50, .doing, [], []⟩ ∧
      ∀ fields, Json.read (String.ofList (Reply.unfenced reply.toList)) ≠ .ok (.object fields) := by
  intro reply
  have refused : (Json.read (String.ofList (Reply.unfenced reply.toList))).toOption.isNone = true := by decide +kernel
  refine ⟨by decide +kernel, fun fields same => ?_⟩
  rw [same] at refused
  cases refused

end Review

end Surveyor
