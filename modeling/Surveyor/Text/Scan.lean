import Surveyor.Text.Blank
import Surveyor.Text.Search
import Surveyor.Text.WordCharacter

/-!
Finding all places of a text where something can be read. A reader looks at the start of a text and returns what it
read and what is left; after a success the search goes on behind what was read, else one character further on.
-/
namespace Surveyor.Text

abbrev Reader (α : Type) := List Char → Option (α × List Char)

/-- Passes over the first `skip` characters. -/
private def collectFrom {α : Type} (read : Reader α) : Nat → List Char → List α
  | _, [] => []
  | skip + 1, _ :: rest => collectFrom read skip rest
  | 0, c :: rest =>
    match read (c :: rest) with
    | some (found, tail) => found :: collectFrom read (rest.length - tail.length) rest
    | none => collectFrom read 0 rest

def collect {α : Type} (read : Reader α) (text : List Char) : List α := collectFrom read 0 text

private theorem collectFrom_skip {α : Type} (read : Reader α) (skip : Nat) (text : List Char) :
    collectFrom read skip text = collectFrom read 0 (text.drop skip) := by
  induction skip generalizing text with
  | zero => rfl
  | succ skip ih =>
    cases text with
    | nil => rfl
    | cons c rest => exact ih rest

theorem collect_missed {α : Type} {read : Reader α} {c : Char} {rest : List Char} (missed : read (c :: rest) = none) :
    collect read (c :: rest) = collect read rest := by
  simp only [collect, collectFrom, missed]

theorem collect_found {α : Type} {read : Reader α} {found : α} {part tail : List Char} (filled : part ≠ [])
    (hit : read (part ++ tail) = some (found, tail)) : collect read (part ++ tail) = found :: collect read tail := by
  cases part with
  | nil => exact absurd rfl filled
  | cons c part =>
    rw [List.cons_append] at hit ⊢
    simp only [collect, collectFrom, hit]
    rw [collectFrom_skip, List.length_append, Nat.add_sub_cancel, List.drop_left]

/-- A part of the text in which nothing starts is passed over. -/
theorem collect_silent {α : Type} {read : Reader α} {part rest : List Char}
    (silent : ∀ tail, tail <:+ part → tail ≠ [] → read (tail ++ rest) = none) :
    collect read (part ++ rest) = collect read rest := by
  induction part with
  | nil => rfl
  | cons c part ih =>
    have missed : read (c :: (part ++ rest)) = none := silent (c :: part) List.suffix_rfl (by simp)
    rw [List.cons_append, collect_missed missed]
    exact ih fun tail suffix filled => silent tail (suffix.trans (List.suffix_cons c part)) filled

private theorem exists_read_of_mem_collectFrom {α : Type} {read : Reader α} {skip : Nat} {text : List Char} {found : α}
    (member : found ∈ collectFrom read skip text) : ∃ rest tail, rest <:+ text ∧ read rest = some (found, tail) := by
  induction text generalizing skip with
  | nil => simp [collectFrom] at member
  | cons c text ih =>
    have later {skip : Nat} (member : found ∈ collectFrom read skip text) :
        ∃ rest tail, rest <:+ c :: text ∧ read rest = some (found, tail) := by
      obtain ⟨rest, tail, inside, hit⟩ := ih member
      exact ⟨rest, tail, inside.trans (List.suffix_cons c text), hit⟩
    cases skip with
    | succ skip => exact later member
    | zero =>
      cases here : read (c :: text) with
      | none =>
        simp only [collectFrom, here] at member
        exact later member
      | some pair =>
        simp only [collectFrom, here] at member
        rcases List.mem_cons.mp member with rfl | member
        · exact ⟨c :: text, pair.2, List.suffix_rfl, here⟩
        · exact later member

/-- All that is found is read somewhere in the text. -/
theorem exists_read_of_mem_collect {α : Type} {read : Reader α} {text : List Char} {found : α}
    (member : found ∈ collect read text) : ∃ rest tail, rest <:+ text ∧ read rest = some (found, tail) :=
  exists_read_of_mem_collectFrom member

def firstRead? {α : Type} (read : Reader α) : List Char → Option α
  | [] => (read []).map (·.1)
  | c :: rest =>
    match read (c :: rest) with
    | some (found, _) => some found
    | none => firstRead? read rest

def skipBlanks (text : List Char) : List Char := text.dropWhile isBlank

/-- What follows the blanks at the start of a text that has some. -/
def afterBlanks? (text : List Char) : Option (List Char) :=
  match text with
  | c :: rest => if isBlank c then some (skipBlanks rest) else none
  | [] => none

/-- What follows a word and the blanks after it. -/
def afterWord? (word : String) (text : List Char) : Option (List Char) := (after? word.toList text).bind afterBlanks?

/-- What follows a word and the blanks after it, or the whole text when they do not stand at its start. -/
def skipWord (word : String) (text : List Char) : List Char := (afterWord? word text).getD text

/-- What follows the longest run of word characters, which may not be missing. -/
def afterName? (text : List Char) : Option (List Char) :=
  match text with
  | c :: rest => if isWordCharacter c then some (rest.dropWhile isWordCharacter) else none
  | [] => none

/-- Reads a text of at least one character up to the next quote; any two quotes make a pair. -/
def quoted (isQuote : Char → Bool) : Reader (List Char)
  | [] => none
  | c :: rest =>
    if isQuote c then
      let body := rest.takeWhile fun d => !isQuote d
      match rest.drop body.length with
      | _ :: tail => if body.isEmpty then none else some (body, tail)
      | [] => none
    else none

end Surveyor.Text
