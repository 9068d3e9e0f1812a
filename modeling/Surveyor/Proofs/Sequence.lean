import Mathlib.Data.List.Basic
import Mathlib.Data.List.Induction
import Surveyor.Graph.Basic

/-! First occurrences in a list. A list that grows by one entry at a time, each entry only once, holds the first
occurrences of the entries that were offered to it. -/

namespace Surveyor.Sequence

variable {α β γ : Type} [DecidableEq α]

theorem eraseDups_concat (entries : List α) (entry : α) :
    (entries ++ [entry]).eraseDups = if entry ∈ entries then entries.eraseDups else entries.eraseDups ++ [entry] := by
  by_cases member : entry ∈ entries <;> simp [List.eraseDups_append, List.removeAll, member, List.eraseDups_cons]

theorem nodup_eraseDups (entries : List α) : entries.eraseDups.Nodup := by
  induction entries using List.reverseRecOn with
  | nil => simp
  | append_singleton entries entry ih =>
    rw [eraseDups_concat]
    split
    next => exact ih
    next fresh =>
      refine List.nodup_append.mpr ⟨ih, by simp, ?_⟩
      intro earlier member last single same
      rw [List.mem_singleton] at single
      subst single same
      exact fresh (List.mem_eraseDups.mp member)

theorem eraseDups_filter (keeps : α → Bool) (entries : List α) :
    (entries.filter keeps).eraseDups = entries.eraseDups.filter keeps := by
  induction entries using List.reverseRecOn with
  | nil => rfl
  | append_singleton entries entry ih =>
    rw [List.filter_append, eraseDups_concat]
    by_cases kept : keeps entry = true
    · rw [List.filter_cons_of_pos kept, List.filter_nil, eraseDups_concat, ih]
      simp only [List.mem_filter, kept, and_true]
      split <;> simp [kept]
    · rw [List.filter_cons_of_neg kept, List.filter_nil, List.append_nil, ih]
      split <;> simp [kept]

/-- First occurrences stand in the order of the places where they are found. -/
theorem eraseDups_pairwise (entries : List α) :
    entries.eraseDups.Pairwise fun first second => entries.idxOf first < entries.idxOf second := by
  induction entries using List.reverseRecOn with
  | nil => simp
  | append_singleton entries entry ih =>
    have earlier : entries.eraseDups.Pairwise fun first second =>
        (entries ++ [entry]).idxOf first < (entries ++ [entry]).idxOf second := by
      refine ih.imp_of_mem fun {first second} one other before => ?_
      rwa [List.idxOf_append_of_mem (List.mem_eraseDups.mp one), List.idxOf_append_of_mem (List.mem_eraseDups.mp other)]
    rw [eraseDups_concat]
    split
    next => exact earlier
    next fresh =>
      refine List.pairwise_append.mpr ⟨earlier, List.pairwise_singleton _ _, fun first one last single => ?_⟩
      obtain rfl := List.mem_singleton.mp single
      have known := List.mem_eraseDups.mp one
      rw [List.idxOf_append_of_mem known, List.idxOf_append_of_notMem fresh]
      exact Nat.lt_add_right _ (List.idxOf_lt_length_of_mem known)

private theorem eraseDups_map_const (offers : List γ) (entry : α) :
    (offers.map fun _ => entry).eraseDups = if offers = [] then [] else [entry] := by
  induction offers using List.reverseRecOn with
  | nil => rfl
  | append_singleton offers offer ih =>
    rw [List.map_append, List.map_singleton, eraseDups_concat, ih]
    cases offers <;> simp

/-- A name that is offered once for each offer of its entry stands once for each entry with an offer. -/
theorem eraseDups_flatMap_const {entries : List β} {name : β → α} (offers : β → List γ)
    (distinct : (entries.map name).Nodup) :
    (entries.flatMap fun entry => (offers entry).map fun _ => name entry).eraseDups =
      (entries.filter fun entry => !(offers entry).isEmpty).map name := by
  induction entries using List.reverseRecOn with
  | nil => rfl
  | append_singleton entries entry ih =>
    rw [List.map_append, List.map_singleton] at distinct
    obtain ⟨earlier, -, apart⟩ := List.nodup_append.mp distinct
    have fresh : name entry ∉ entries.flatMap fun entry => (offers entry).map fun _ => name entry := by
      intro member
      obtain ⟨other, inside, offered⟩ := List.mem_flatMap.mp member
      obtain ⟨_, -, same⟩ := List.mem_map.mp offered
      exact apart (name other) (List.mem_map_of_mem inside) (name entry) (by simp) same
    have untouched : ((offers entry).map fun _ => name entry).removeAll
        (entries.flatMap fun entry => (offers entry).map fun _ => name entry) =
        (offers entry).map fun _ => name entry := by
      apply List.filter_eq_self.mpr
      intro offered member
      obtain ⟨_, -, rfl⟩ := List.mem_map.mp member
      simpa using fresh
    rw [List.flatMap_append, List.flatMap_singleton, List.eraseDups_append, ih earlier, untouched,
      eraseDups_map_const, List.filter_append, List.map_append]
    by_cases empty : offers entry = [] <;> simp [empty]

/-- Behind entries that are known, offers may be left out whose entries are known. -/
theorem eraseDups_append_filter {known : List α} {offers : List β} {entry : β → α} {wide narrow : β → Bool}
    (within : ∀ offer, narrow offer = true → wide offer = true)
    (others : ∀ offer ∈ offers, wide offer = true → narrow offer = false → entry offer ∈ known) :
    (known ++ (offers.filter wide).map entry).eraseDups = (known ++ (offers.filter narrow).map entry).eraseDups := by
  have fresh : ((offers.filter wide).map entry).removeAll known = ((offers.filter narrow).map entry).removeAll known := by
    simp only [List.removeAll, List.filter_map, List.filter_filter]
    congr 1
    apply List.filter_congr
    intro offer member
    cases small : narrow offer with
    | true => simp [within offer small]
    | false =>
      cases large : wide offer with
      | false => rfl
      | true => simp [others offer member large small]
  rw [List.eraseDups_append, fresh, ← List.eraseDups_append]

/-- The keys of the first entries of each key are the first occurrences of the keys. -/
theorem map_eraseDupsBy (key : β → α) (entries : List β) :
    (entries.eraseDupsBy fun later earlier => key later == key earlier).map key = (entries.map key).eraseDups := by
  match entries with
  | [] => rfl
  | entry :: entries =>
    have others : (entries.filter fun later => decide ((key later == key entry) = false)) =
        entries.filter ((fun later => !later == key entry) ∘ key) := by
      apply List.filter_congr
      intro later _
      by_cases same : key later = key entry <;> simp [same]
    rw [List.eraseDupsBy_cons, List.map_cons, List.map_cons, List.eraseDups_cons, map_eraseDupsBy key, List.filter_map,
      others]
termination_by entries.length
decreasing_by exact Nat.lt_succ_of_le (List.length_filter_le ..)

theorem flatMap_filter (keeps : β → Bool) (entries : List β) (f : β → List γ) :
    (entries.filter keeps).flatMap f = entries.flatMap fun entry => if keeps entry then f entry else [] := by
  induction entries with
  | nil => rfl
  | cons entry entries ih =>
    by_cases kept : keeps entry
    · simp [kept, ih]
    · simp [kept, ih]

/-- What holds at the end of a loop was brought about by some entry, or held at its start, and every later entry has kept
it. -/
theorem foldl_kept_iff {State : Type} (holds : State → Prop) {step : State → β → State} {gains : State → β → Prop}
    {keeps : β → Prop} (turns : ∀ state entry, holds (step state entry) ↔ holds state ∧ keeps entry ∨ gains state entry)
    (entries : List β) (state : State) :
    holds (entries.foldl step state) ↔ holds state ∧ (∀ entry ∈ entries, keeps entry) ∨
      ∃ before entry after, entries = before ++ entry :: after ∧ (∀ later ∈ after, keeps later) ∧
        gains (before.foldl step state) entry := by
  induction entries generalizing state with
  | nil => simp
  | cons entry entries ih =>
    rw [List.foldl_cons, ih, turns, or_and_right, or_assoc, List.forall_mem_cons, and_assoc]
    refine or_congr_right ⟨?_, ?_⟩
    · rintro (⟨first, kept⟩ | ⟨before, later, after, rfl, kept, gained⟩)
      · exact ⟨[], entry, entries, rfl, kept, first⟩
      · exact ⟨entry :: before, later, after, rfl, kept, gained⟩
    · rintro ⟨before, later, after, split, kept, gained⟩
      rcases List.cons_eq_append_iff.mp split with ⟨rfl, same⟩ | ⟨rest, rfl, same⟩
      · obtain ⟨rfl, rfl⟩ := List.cons.inj same
        exact .inl ⟨gained, kept⟩
      · exact .inr ⟨rest, later, after, same, kept, gained⟩

/-- What holds at the end of a loop that keeps it held at its start, or was brought about by some entry. -/
theorem foldl_iff {State : Type} (holds : State → Prop) {step : State → β → State} {gains : State → β → Prop}
    (grows : ∀ state entry, holds (step state entry) ↔ holds state ∨ gains state entry) (entries : List β)
    (state : State) :
    holds (entries.foldl step state) ↔ holds state ∨
      ∃ before entry after, entries = before ++ entry :: after ∧ gains (before.foldl step state) entry := by
  have turns : ∀ state entry, holds (step state entry) ↔ holds state ∧ True ∨ gains state entry := by
    simpa only [and_true] using grows
  simpa using foldl_kept_iff holds turns entries state

theorem prefix_addOnce (entries : List String) (entry : String) : entries <+: addOnce entries entry := by
  rw [addOnce]
  split
  next => exact List.prefix_rfl
  next => exact List.prefix_append ..

theorem length_addOnce_le (entries : List String) (entry : String) :
    (addOnce entries entry).length ≤ entries.length + 1 := by
  rw [addOnce]
  split
  next => exact Nat.le_succ _
  next => simp

theorem prefix_foldl_addOnce (found entries : List String) : found <+: entries.foldl addOnce found := by
  induction entries generalizing found with
  | nil => exact List.prefix_rfl
  | cons entry entries ih => exact (prefix_addOnce found entry).trans (ih _)

/-- A loop in a loop is one loop over all that the inner ones run over. -/
theorem foldlM_flatMap {m : Type → Type} [Monad m] [LawfulMonad m] {State : Type} (step : State → γ → m State)
    (inner : β → List γ) (entries : List β) (state : State) :
    entries.foldlM (fun state entry => (inner entry).foldlM step state) state =
      (entries.flatMap inner).foldlM step state := by
  induction entries generalizing state with
  | nil => rfl
  | cons entry entries ih => simp only [List.foldlM_cons, List.flatMap_cons, List.foldlM_append, ih]

theorem foldl_addOnce (entries : List String) : entries.foldl addOnce [] = entries.eraseDups := by
  induction entries using List.reverseRecOn with
  | nil => rfl
  | append_singleton entries entry ih =>
    rw [List.foldl_append, List.foldl_cons, List.foldl_nil, ih, eraseDups_concat, addOnce]
    simp only [List.mem_eraseDups]

end Surveyor.Sequence
