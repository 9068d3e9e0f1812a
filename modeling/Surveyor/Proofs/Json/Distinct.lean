import Surveyor.Json.Reader
import Surveyor.Proofs.Fields
import Surveyor.Proofs.Json.Spelling

/-! The objects of a value that was read are mappings. The reader puts fields together with `Fields.set` only, and what
it keeps of open collections is made of values that it has read. -/

namespace Surveyor.Json

/-- No object in the value has two fields of one name. -/
inductive Distinct : Json → Prop
  | null : Distinct .null
  | bool (value : Bool) : Distinct (.bool value)
  | int (value : Int) : Distinct (.int value)
  | real (value : Binary64) : Distinct (.real value)
  | text (value : String) : Distinct (.text value)
  | array {items : List Json} (each : ∀ item ∈ items, Distinct item) : Distinct (.array items)
  | object {fields : List (String × Json)} (names : Fields.Distinct fields)
      (each : ∀ field ∈ fields, Distinct field.2) : Distinct (.object fields)

structure DistinctFields (fields : List (String × Json)) : Prop where
  names : Fields.Distinct fields
  each : ∀ field ∈ fields, Distinct field.2

theorem DistinctFields.nil : DistinctFields [] := ⟨List.nodup_nil, fun _ member => by cases member⟩

theorem DistinctFields.object {fields : List (String × Json)} (distinct : DistinctFields fields) :
    Distinct (.object fields) :=
  .object distinct.names distinct.each

theorem DistinctFields.set {fields : List (String × Json)} {value : Json} (distinct : DistinctFields fields)
    (name : String) (read : Distinct value) : DistinctFields (Fields.set fields name value) := by
  refine ⟨distinct.names.set name value, fun field member => ?_⟩
  rcases Fields.mem_set member with rfl | known
  · exact read
  · exact distinct.each field known

def Frame.Distinct : Frame → Prop
  | .array items => ∀ item ∈ items, item.Distinct
  | .object fields _ => DistinctFields fields

def Mode.Distinct : Mode → Prop
  | .value | .item | .field => True
  | .name fields | .colon fields _ => DistinctFields fields
  | .closed read => read.Distinct

def Token.Distinct : Token → Prop
  | .scalar value => value.Distinct
  | _ => True

structure DistinctState (state : Mode × List Frame) : Prop where
  mode : state.1.Distinct
  stack : ∀ frame ∈ state.2, frame.Distinct

theorem startValue_distinct {stack : List Frame} {token : Token} {next : Mode × List Frame}
    (pending : ∀ frame ∈ stack, frame.Distinct) (known : token.Distinct) (moved : startValue stack token = some next) :
    DistinctState next := by
  cases token with
  | scalar value =>
    cases moved
    exact ⟨known, pending⟩
  | text value =>
    cases moved
    exact ⟨Distinct.text value, pending⟩
  | beginArray =>
    cases moved
    have empty : (Frame.array []).Distinct := fun _ member => by cases member
    exact ⟨trivial, List.forall_mem_cons.mpr ⟨empty, pending⟩⟩
  | beginObject =>
    cases moved
    exact ⟨trivial, pending⟩
  | _ => cases moved

theorem step_distinct {state next : Mode × List Frame} {token : Token} (distinct : DistinctState state)
    (known : token.Distinct) (moved : step state token = some next) : DistinctState next := by
  obtain ⟨mode, stack⟩ := distinct
  unfold step at moved
  split at moved
  case h_1 | h_3 => exact startValue_distinct stack known moved
  case h_12 => cases moved
  all_goals cases moved
  case h_2 => exact ⟨Distinct.array fun _ member => (by cases member), (List.forall_mem_cons.mp stack).2⟩
  case h_4 => exact ⟨DistinctFields.nil, stack⟩
  case h_5 => exact ⟨DistinctFields.nil.object, stack⟩
  case h_6 => exact ⟨mode, stack⟩
  case h_7 => exact ⟨trivial, List.forall_mem_cons.mpr ⟨mode, stack⟩⟩
  case h_8 =>
    obtain ⟨items, others⟩ := List.forall_mem_cons.mp stack
    have more : (Frame.array (_ :: _)).Distinct := List.forall_mem_cons.mpr ⟨mode, items⟩
    exact ⟨trivial, List.forall_mem_cons.mpr ⟨more, others⟩⟩
  case h_9 =>
    obtain ⟨items, others⟩ := List.forall_mem_cons.mp stack
    have more : (Frame.array (_ :: _)).Distinct := List.forall_mem_cons.mpr ⟨mode, items⟩
    exact ⟨Distinct.array fun item member => more item (List.mem_reverse.mp member), others⟩
  -- A field that is read again takes the place of the one before it.
  case h_10 =>
    obtain ⟨fields, others⟩ := List.forall_mem_cons.mp stack
    exact ⟨DistinctFields.set fields _ mode, others⟩
  case h_11 =>
    obtain ⟨fields, others⟩ := List.forall_mem_cons.mp stack
    exact ⟨(DistinctFields.set fields _ mode).object, others⟩

theorem foldlM_distinct {tokens : List Token} {state last : Mode × List Frame} (distinct : DistinctState state)
    (known : ∀ token ∈ tokens, token.Distinct) (read : tokens.foldlM step state = some last) : DistinctState last := by
  induction tokens generalizing state with
  | nil =>
    cases read
    exact distinct
  | cons token tokens ih =>
    rw [List.foldlM_cons] at read
    obtain ⟨next, moved, rest⟩ := Option.bind_eq_some_iff.mp read
    obtain ⟨first, later⟩ := List.forall_mem_cons.mp known
    exact ih (step_distinct distinct first moved) later rest

/-! ## Tokens hold no objects -/

theorem number?_distinct {negative : Bool} {text tail : List Char} {value : Json}
    (read : number? negative text = some (value, tail)) : value.Distinct := by
  simp only [number?] at read
  split at read
  · cases read
  · split at read
    · cases read
      exact Distinct.int _
    · obtain ⟨number, -, same⟩ := Option.map_eq_some_iff.mp read
      cases same
      exact Distinct.real number

theorem literal?_distinct {text tail : List Char} {value : Json} (read : literal? text = some (value, tail)) :
    value.Distinct := by
  obtain ⟨⟨word, found⟩, member, same⟩ := List.exists_of_findSome?_eq_some read
  obtain ⟨rest, -, same⟩ := Option.map_eq_some_iff.mp same
  cases same
  simp only [literals, List.mem_cons, Prod.mk.injEq, List.not_mem_nil, or_false] at member
  rcases member with ⟨-, rfl⟩ | ⟨-, rfl⟩ | ⟨-, rfl⟩ | ⟨-, rfl⟩ | ⟨-, rfl⟩ | ⟨-, rfl⟩ <;> constructor

theorem Token.next?_distinct {text tail : List Char} {token : Token} (read : Token.next? text = some (token, tail)) :
    token.Distinct := by
  cases text with
  | nil => cases read
  | cons c rest =>
    cases known : Token.ofMark? c with
    | some mark =>
      rw [Token.next?_mark known] at read
      cases read
      cases token with
      | scalar value => exact absurd known (by unfold Token.ofMark?; split <;> simp)
      | _ => trivial
    | none =>
      by_cases quote : c = '"'
      · subst quote
        obtain ⟨body, -, same⟩ := Option.map_eq_some_iff.mp read
        cases same
        trivial
      · rw [Token.next?_other known quote] at read
        obtain ⟨⟨value, after⟩, found, same⟩ := Option.map_eq_some_iff.mp read
        cases same
        rcases Option.or_eq_some_iff.mp found with word | ⟨-, number⟩
        · exact literal?_distinct word
        · split at number
          · exact number?_distinct number
          · exact number?_distinct number

theorem tokens?_distinct {text : List Char} {tokens : List Token} (cut : tokens? text = some tokens) :
    ∀ token ∈ tokens, token.Distinct := by
  fun_induction tokens? text generalizing tokens with
  | case1 =>
    cases cut
    exact fun _ member => by cases member
  | case2 => cases cut
  | case3 text c rest trimmed token tail read ih =>
    obtain ⟨others, later, rfl⟩ := Option.map_eq_some_iff.mp cut
    exact List.forall_mem_cons.mpr ⟨Token.next?_distinct read, ih later⟩

theorem parse?_distinct {text : String} {value : Json} (read : parse? text = some value) : value.Distinct := by
  obtain ⟨tokens, cut, read⟩ := Option.bind_eq_some_iff.mp read
  rw [ofTokens?] at read
  split at read
  next closed last =>
    cases read
    have start : DistinctState (.value, []) := ⟨trivial, fun _ member => by cases member⟩
    exact (foldlM_distinct start (tokens?_distinct cut) last).mode
  next => cases read

/-- The objects of a value that was read are mappings. -/
theorem read_distinct {text : String} {value : Json} (accepted : read text = .ok value) : value.Distinct := by
  unfold read at accepted
  split at accepted
  · cases accepted
  · split at accepted
    next found parsed =>
      cases accepted
      exact parse?_distinct parsed
    next => cases accepted

end Surveyor.Json
