import Surveyor.Audit
import Surveyor.Proofs.Reply

/-! What an audit reads out of a reply that holds written issues. -/

namespace Surveyor

/-- The fields that an issue may be written with. A missing line is left out or null. -/
structure Issue.WrittenAs (issue : Issue) (fields : List (String × Json)) : Prop where
  names : Fields.Distinct fields
  known : ∀ field ∈ fields, field.1 ∈ ["severity", "type", "line", "description", "recommendation"]
  severity : Fields.get? "severity" fields = some (.text issue.severity.name)
  kind : Fields.get? "type" fields = some (.text issue.kind)
  description : Fields.get? "description" fields = some (.text issue.description)
  recommendation : Fields.get? "recommendation" fields = some (.text issue.recommendation)
  line : Fields.get? "line" fields = issue.line.map .int ∨ issue.line = none ∧ Fields.get? "line" fields = some .null

def Issue.Encodes (issue : Issue) (item : Json) : Prop := ∃ fields, item = .object fields ∧ issue.WrittenAs fields

def Issue.texts (issue : Issue) : List String := [issue.kind, issue.description, issue.recommendation]

def Issue.unfenced (issue : Issue) : Issue :=
  let clear (text : String) := String.ofList (Reply.unfenced text.toList)
  { issue with
    kind := clear issue.kind, description := clear issue.description, recommendation := clear issue.recommendation }

/-- The number of digits of a line that has too many of them. -/
def Issue.overlongLine? (issue : Issue) : Option Nat :=
  issue.line.bind fun line => (Json.Token.scalar (.int line)).overlong?

namespace Audit

theorem ofName_name (severity : Severity) : Severity.ofName severity.name = severity := by
  cases severity <;> decide

theorem issue?_written {issue : Issue} {fields : List (String × Json)} (file : String) (written : issue.WrittenAs fields) :
    issue? file (.object fields) = some { issue with file } := by
  have line : lineOf (Fields.get? "line" fields) = issue.line := by
    rcases written.line with same | ⟨none, same⟩
    · rw [same]
      cases issue.line <;> rfl
    · rw [same, none]
      rfl
  simp only [issue?, fieldText, written.severity, written.kind, written.description, written.recommendation, line,
    Option.map_some, Option.getD_some, Json.display, ofName_name]

theorem filterMap_encoded {issues : List Issue} {items : List Json} (file : String)
    (encoded : List.Forall₂ Issue.Encodes issues items) :
    items.filterMap (issue? file) = issues.map ({ · with file }) := by
  induction encoded with
  | nil => rfl
  | cons first _ ih =>
    obtain ⟨fields, rfl, written⟩ := first
    rw [List.filterMap_cons_some (issue?_written file written), ih, List.map_cons]

theorem field_written {issue : Issue} {fields : List (String × Json)} (written : issue.WrittenAs fields)
    {name : String} {value : Json} (member : (name, value) ∈ fields) :
    name ≠ "line" ∧ (∃ text, value = .text text) ∨ name = "line" ∧ (value = .null ∨ ∃ line, value = .int line) := by
  have found := Fields.get?_of_mem written.names member
  have known := written.known _ member
  simp only [List.mem_cons, List.not_mem_nil, or_false] at known
  rcases known with rfl | rfl | rfl | rfl | rfl
  · exact Or.inl ⟨by decide, _, Option.some.inj (found.symm.trans written.severity)⟩
  · exact Or.inl ⟨by decide, _, Option.some.inj (found.symm.trans written.kind)⟩
  · refine Or.inr ⟨rfl, ?_⟩
    rcases written.line with same | ⟨-, same⟩
    · obtain ⟨line, -, rfl⟩ := Option.map_eq_some_iff.mp (same.symm.trans found)
      exact Or.inr ⟨line, rfl⟩
    · exact Or.inl (Option.some.inj (found.symm.trans same))
  · exact Or.inl ⟨by decide, _, Option.some.inj (found.symm.trans written.description)⟩
  · exact Or.inl ⟨by decide, _, Option.some.inj (found.symm.trans written.recommendation)⟩

theorem printable_written {issue : Issue} {fields : List (String × Json)} (written : issue.WrittenAs fields) :
    Json.Printable (.object fields) := by
  refine .object written.names fun field member => ?_
  obtain ⟨name, value⟩ := field
  rcases field_written written member with ⟨-, text, rfl⟩ | ⟨-, rfl | ⟨line, rfl⟩⟩
  · exact .text text
  · exact .null
  · exact .int line

theorem overlongField?_written {issue : Issue} {fields : List (String × Json)} (written : issue.WrittenAs fields) :
    Json.overlongField? fields = issue.overlongLine? := by
  have others : ∀ field ∈ fields, field.1 ≠ "line" → field.2.overlongWithin? = none := by
    rintro ⟨name, value⟩ member other
    rcases field_written written member with ⟨-, text, rfl⟩ | ⟨same, -⟩
    · rfl
    · exact absurd same other
  rw [Json.overlongField?_only written.names others, Issue.overlongLine?]
  rcases written.line with same | ⟨none, same⟩
  · rw [same]
    cases issue.line <;> rfl
  · rw [same, none]
    rfl

theorem clear_name : ∀ name ∈ ["severity", "type", "line", "description", "recommendation"],
    String.ofList (Reply.unfenced name.toList) = name := by decide

theorem clear_severity (severity : Severity) : String.ofList (Reply.unfenced severity.name.toList) = severity.name := by
  cases severity <;> decide

theorem unfencedFields_written {fields : List (String × Json)}
    (known : ∀ field ∈ fields, field.1 ∈ ["severity", "type", "line", "description", "recommendation"]) :
    Reply.unfencedFields fields = fields.map fun field => (field.1, Reply.unfencedValue field.2) := by
  induction fields with
  | nil => rfl
  | cons field fields ih =>
    obtain ⟨name, value⟩ := field
    obtain ⟨first, others⟩ := List.forall_mem_cons.mp known
    rw [Reply.unfencedFields, ih others, List.map_cons, clear_name name first]

theorem unfenced_written {issue : Issue} {fields : List (String × Json)} (written : issue.WrittenAs fields) :
    issue.unfenced.WrittenAs (Reply.unfencedFields fields) := by
  rw [unfencedFields_written written.known]
  constructor
  case names => simpa [Fields.Distinct, Function.comp_def] using written.names
  case known =>
    intro field member
    obtain ⟨before, inside, rfl⟩ := List.mem_map.mp member
    exact written.known before inside
  case severity =>
    rw [Fields.get?_map, written.severity, Option.map_some, Reply.unfencedValue, clear_severity]
    rfl
  case kind =>
    rw [Fields.get?_map, written.kind]
    rfl
  case description =>
    rw [Fields.get?_map, written.description]
    rfl
  case recommendation =>
    rw [Fields.get?_map, written.recommendation]
    rfl
  case line =>
    rw [Fields.get?_map]
    rcases written.line with same | ⟨none, same⟩
    · refine Or.inl (same.symm ▸ ?_)
      change _ = Option.map Json.int issue.line
      cases issue.line <;> rfl
    · exact Or.inr ⟨none, by rw [same]; rfl⟩

theorem unfenced_encoded {issues : List Issue} {items : List Json} (encoded : List.Forall₂ Issue.Encodes issues items) :
    List.Forall₂ Issue.Encodes (issues.map Issue.unfenced) (Reply.unfencedItems items) := by
  induction encoded with
  | nil => exact .nil
  | cons first _ ih =>
    obtain ⟨fields, rfl, written⟩ := first
    exact .cons ⟨_, rfl, unfenced_written written⟩ ih

theorem printable_encoded {issues : List Issue} {items : List Json} (encoded : List.Forall₂ Issue.Encodes issues items) :
    Json.Printable (.array items) := by
  refine .array ?_
  induction encoded with
  | nil => simp
  | cons first _ ih =>
    obtain ⟨fields, rfl, written⟩ := first
    exact List.forall_mem_cons.mpr ⟨printable_written written, ih⟩

theorem overlongItem?_encoded {issues : List Issue} {items : List Json}
    (encoded : List.Forall₂ Issue.Encodes issues items) :
    Json.overlongItem? items = issues.findSome? Issue.overlongLine? := by
  induction encoded with
  | nil => rfl
  | @cons issue item issues items first _ ih =>
    obtain ⟨fields, rfl, written⟩ := first
    rw [Json.overlongItem?, Json.overlongWithin?, overlongField?_written written, ih, List.findSome?_cons]
    cases issue.overlongLine? <;> rfl

/-- What is read of a rendered list: the issues without the fences in their texts, or nothing when a line is too long. -/
theorem ofReply_rendered (file : String) {issues : List Issue} {items : List Json} {reply : List Char}
    (encoded : List.Forall₂ Issue.Encodes issues items) (holds : Reply.Holds (Json.array items).renderChars reply) :
    ofReply file (String.ofList reply) = match issues.findSome? Issue.overlongLine? with
      | some digits => .error (.unusable (Numeral.overLimit digits))
      | none => .ok (issues.map fun issue => { issue.unfenced with file }) := by
  have cleared := unfenced_encoded encoded
  have lines : (issues.map Issue.unfenced).findSome? Issue.overlongLine? = issues.findSome? Issue.overlongLine? := by
    rw [List.findSome?_map]
    rfl
  rw [ofReply, holds.parse_array (printable_encoded encoded) (printable_encoded cleared), overlongItem?_encoded cleared,
    lines]
  cases issues.findSome? Issue.overlongLine? with
  | some digits => rfl
  | none =>
    have items := filterMap_encoded file cleared
    rw [List.map_map] at items
    exact congrArg Except.ok items

theorem clear_iff {text : String} : String.ofList (Reply.unfenced text.toList) = text ↔ ¬ Reply.fence <:+: text.toList := by
  rw [← Reply.unfenced_eq_self_iff, ← String.toList_inj, String.toList_ofList]

theorem unfenced_iff {issue : Issue} {file : String} :
    ({ issue.unfenced with file } : Issue) = { issue with file } ↔
      ∀ text ∈ issue.texts, ¬ Reply.fence <:+: text.toList := by
  simp [Issue.unfenced, Issue.texts, clear_iff]

/-- The same issues come back exactly if no fence stands in a text and no line is too long. -/
theorem ofReply_rendered_iff (file : String) {issues : List Issue} {items : List Json} {reply : List Char}
    (encoded : List.Forall₂ Issue.Encodes issues items) (holds : Reply.Holds (Json.array items).renderChars reply) :
    ofReply file (String.ofList reply) = .ok (issues.map ({ · with file })) ↔
      ∀ issue ∈ issues, issue.overlongLine? = none ∧ ∀ text ∈ issue.texts, ¬ Reply.fence <:+: text.toList := by
  rw [ofReply_rendered file encoded holds]
  cases long : issues.findSome? Issue.overlongLine? with
  | some digits =>
    obtain ⟨issue, member, found⟩ := List.exists_of_findSome?_eq_some long
    refine iff_of_false (fun same => by cases same) fun each => ?_
    cases (each issue member).1.symm.trans found
  | none =>
    have short := List.findSome?_eq_none_iff.mp long
    rw [Except.ok.injEq, List.map_inj_left]
    constructor
    · exact fun same issue member => ⟨short issue member, unfenced_iff.mp (same issue member)⟩
    · exact fun each issue member => unfenced_iff.mpr (each issue member).2

/-- A reply in whose JSON no fence stands means what it says. -/
theorem ofReply_plain (file : String) {issues : List Issue} {items : List Json} {text reply : List Char}
    (encoded : List.Forall₂ Issue.Encodes issues items) (read : Json.read (String.ofList text) = .ok (.array items))
    (bracketed : Reply.Bracketed text) (plain : ¬ Reply.fence <:+: text) (holds : Reply.Holds text reply) :
    ofReply file (String.ofList reply) = .ok (issues.map ({ · with file })) := by
  rw [ofReply, holds.parse_eq bracketed, Reply.unfenced_eq_self_iff.mpr plain, read]
  exact congrArg Except.ok (filterMap_encoded file encoded)

/-- What is read of a reply with written issues. Any JSON for them in which no fence stands gives them back. Rendered
without blanks they lose the fences in their texts, so that they come back exactly if there are none; a line that is too
long makes the reply unusable. -/
theorem ofReply_encoded (file : String) {issues : List Issue} {items : List Json}
    (encoded : List.Forall₂ Issue.Encodes issues items) :
    (∀ text reply, Reply.Bracketed text → Json.read (String.ofList text) = .ok (.array items) →
      ¬ Reply.fence <:+: text → Reply.Holds text reply →
        ofReply file (String.ofList reply) = .ok (issues.map ({ · with file }))) ∧
    ∀ reply, Reply.Holds (Json.array items).renderChars reply →
      (ofReply file (String.ofList reply) = match issues.findSome? Issue.overlongLine? with
        | some digits => .error (.unusable (Numeral.overLimit digits))
        | none => .ok (issues.map fun issue => { issue.unfenced with file })) ∧
      (ofReply file (String.ofList reply) = .ok (issues.map ({ · with file })) ↔
        ∀ issue ∈ issues, issue.overlongLine? = none ∧ ∀ text ∈ issue.texts, ¬ Reply.fence <:+: text.toList) := by
  constructor
  · intro text reply bracketed read plain holds
    exact ofReply_plain file encoded read bracketed plain holds
  · intro reply holds
    exact ⟨ofReply_rendered file encoded holds, ofReply_rendered_iff file encoded holds⟩

/-- An issue of some kind, and how it is written. -/
def sample (kind : String) : Issue := ⟨.low, kind, "", "d", "r", some 3⟩

def sampleItem (kind : String) : Json :=
  .object [("severity", .text "low"), ("type", .text kind), ("description", .text "d"), ("recommendation", .text "r"),
    ("line", .int 3)]

theorem sample_encodes (kind : String) : (sample kind).Encodes (sampleItem kind) := by
  refine ⟨_, rfl, ?_⟩
  constructor
  case names => simp [Fields.Distinct]
  case known => simp
  case line => exact Or.inl rfl
  all_goals rfl

theorem ofReply_encoded_block :
    (sample "XSS").Encodes (sampleItem "XSS") ∧
      ofReply "src/a.ts" (String.ofList (Reply.fence ++ ("json".toList ++ (['\n'] ++
        ((Json.array [sampleItem "XSS"]).renderChars ++ (['\n'] ++ Reply.fence)))))) =
          .ok [{ sample "XSS" with file := "src/a.ts" }] := by
  have blank : ∀ c ∈ ['\n'], Text.isBlank c = true := List.forall_mem_singleton.mpr rfl
  have each : ∀ issue ∈ [sample "XSS"], issue.overlongLine? = none ∧
      ∀ text ∈ issue.texts, ¬ Reply.fence <:+: text.toList := by decide
  have whole := (ofReply_encoded "src/a.ts" (.cons (sample_encodes "XSS") .nil)).2 _ (.block (.inr rfl) blank blank)
  exact ⟨sample_encodes "XSS", whole.2.mpr each⟩

/-- An issue whose kind holds a fence does not come back. -/
theorem not_ofReply_fence :
    (sample "Unsafe \x60\x60\x60 fence").Encodes (sampleItem "Unsafe \x60\x60\x60 fence") ∧
      ofReply "src/a.ts" (Json.array [sampleItem "Unsafe \x60\x60\x60 fence"]).render =
        .ok [{ sample "Unsafe  fence" with file := "src/a.ts" }] ∧
      ofReply "src/a.ts" (Json.array [sampleItem "Unsafe \x60\x60\x60 fence"]).render ≠
        .ok [{ sample "Unsafe \x60\x60\x60 fence" with file := "src/a.ts" }] := by
  have encoded := sample_encodes "Unsafe \x60\x60\x60 fence"
  have read := ofReply_rendered "src/a.ts" (.cons encoded .nil) .bare
  refine ⟨encoded, read, fun same => ?_⟩
  have each := (ofReply_rendered_iff "src/a.ts" (.cons encoded .nil) .bare).mp same
  have held : Reply.fence <:+: "Unsafe \x60\x60\x60 fence".toList := ⟨"Unsafe ".toList, " fence".toList, by decide⟩
  exact (each _ List.mem_cons_self).2 _ List.mem_cons_self held

end Audit

end Surveyor
