import Mathlib.Data.List.Basic
import Surveyor.Fields

/-! Named values whose names differ are a mapping: a field is found under its name, and setting one keeps the names
apart. -/

namespace Surveyor.Fields

variable {α : Type} {name : String} {value : α} {fields : List (String × α)}

def Distinct (fields : List (String × α)) : Prop := (fields.map (·.1)).Nodup

theorem get?_cons (name other : String) (value : α) (fields : List (String × α)) :
    get? name ((other, value) :: fields) = if other = name then some value else get? name fields := by
  by_cases same : other = name <;> simp [get?, same]

theorem get?_map {β : Type} (name : String) (change : α → β) (fields : List (String × α)) :
    get? name (fields.map fun field => (field.1, change field.2)) = (get? name fields).map change := by
  induction fields with
  | nil => rfl
  | cons field fields ih =>
    rw [List.map_cons, get?_cons, get?_cons, ih]
    split <;> rfl

theorem mem_of_get? (found : get? name fields = some value) : (name, value) ∈ fields := by
  obtain ⟨field, held, rfl⟩ := Option.map_eq_some_iff.mp found
  have named : field.1 = name := by simpa using List.find?_some held
  rw [← named]
  exact List.mem_of_find?_eq_some held

theorem get?_of_mem (distinct : Distinct fields) (member : (name, value) ∈ fields) : get? name fields = some value := by
  induction fields with
  | nil => cases member
  | cons field fields ih =>
    rw [Distinct, List.map_cons, List.nodup_cons] at distinct
    rcases List.mem_cons.mp member with rfl | inside
    · simp [get?]
    · have other : (field.1 == name) = false := by
        rw [beq_eq_false_iff_ne]
        intro same
        exact distinct.1 (same ▸ List.mem_map_of_mem inside)
      simpa [get?, List.find?_cons, other] using ih distinct.2 inside

theorem mem_set {field : String × α} (member : field ∈ set fields name value) :
    field = (name, value) ∨ field ∈ fields := by
  induction fields with
  | nil => exact Or.inl (List.mem_singleton.mp member)
  | cons first fields ih =>
    rw [set] at member
    split at member
    · exact (List.mem_cons.mp member).imp_right (List.mem_cons_of_mem first)
    · rcases List.mem_cons.mp member with rfl | inside
      · exact Or.inr List.mem_cons_self
      · exact (ih inside).imp_right (List.mem_cons_of_mem first)

/-- A new name comes last. -/
theorem set_new (absent : name ∉ fields.map (·.1)) : set fields name value = fields ++ [(name, value)] := by
  induction fields with
  | nil => rfl
  | cons first fields ih =>
    rw [List.map_cons, List.mem_cons, not_or] at absent
    rw [set, if_neg (by simpa using Ne.symm absent.1), ih absent.2, List.cons_append]

theorem Distinct.set (distinct : Distinct fields) (name : String) (value : α) :
    Distinct (Fields.set fields name value) := by
  induction fields with
  | nil => exact List.pairwise_singleton _ name
  | cons first fields ih =>
    rw [Distinct, List.map_cons, List.nodup_cons] at distinct
    rw [Fields.set]
    split
    next same =>
      rw [Distinct, List.map_cons, List.nodup_cons, ← eq_of_beq same]
      exact distinct
    next other =>
      rw [Distinct, List.map_cons, List.nodup_cons]
      refine ⟨fun member => ?_, ih distinct.2⟩
      obtain ⟨field, inside, named⟩ := List.mem_map.mp member
      rcases mem_set inside with rfl | known
      · exact other (beq_iff_eq.mpr named.symm)
      · exact distinct.1 (named ▸ List.mem_map_of_mem known)

theorem Distinct.filterMap {β : Type} (distinct : Distinct fields) (keep : α → Option β) :
    Distinct (fields.filterMap fun field => (keep field.2).map fun kept => (field.1, kept)) := by
  induction fields with
  | nil => exact List.nodup_nil
  | cons first fields ih =>
    rw [Distinct, List.map_cons, List.nodup_cons] at distinct
    cases kept : keep first.2 with
    | none => simpa only [List.filterMap_cons, kept, Option.map_none] using ih distinct.2
    | some value =>
      simp only [List.filterMap_cons, kept, Option.map_some, Distinct, List.map_cons, List.nodup_cons]
      refine ⟨fun member => ?_, ih distinct.2⟩
      obtain ⟨other, inside, named⟩ := List.mem_map.mp member
      obtain ⟨field, known, same⟩ := List.mem_filterMap.mp inside
      obtain ⟨_, _, rfl⟩ := Option.map_eq_some_iff.mp same
      exact distinct.1 (named ▸ List.mem_map_of_mem known)

end Surveyor.Fields
