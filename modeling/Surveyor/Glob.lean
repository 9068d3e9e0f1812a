/-!
Shell patterns: a star stands for any text, a question mark for any character, and brackets for one character out of a
class. A bracket that is never closed stands for itself. Slashes are characters like all others. `accepts` says what a
pattern stands for, and `fits` decides it in one walk over the text for each piece.
-/
namespace Surveyor.Glob

inductive Member where
  | single (c : Char)
  | range (low high : Char)
  deriving DecidableEq, Repr

inductive Piece where
  | anyText
  | anyCharacter
  | character (c : Char)
  | oneOf (negated : Bool) (members : List Member)
  deriving DecidableEq, Repr

def Member.holds (c : Char) : Member → Bool
  | single d => c == d
  | range low high => low ≤ c && c ≤ high

/-- Whether a piece that stands for one character stands for this one. -/
def Piece.accepts (c : Char) : Piece → Bool
  | anyText => false
  | anyCharacter => true
  | character d => c == d
  | oneOf negated members => members.any (Member.holds c) != negated

private def startingWith (c : Char) (text : List Char) : List Char :=
  if text.head? = some c then [c] else []

/-- What stands between an opening bracket and the bracket that closes it, and what follows. A bracket right at the
start, or right after the mark of a negated class, is a member. -/
def bracket? (text : List Char) : Option (List Char × List Char) :=
  let mark := startingWith '!' text
  let afterMark := text.drop mark.length
  let lead := startingWith ']' afterMark
  let afterLead := afterMark.drop lead.length
  match afterLead.dropWhile (· != ']') with
  | [] => none
  | _ :: rest => some (mark ++ lead ++ afterLead.takeWhile (· != ']'), rest)

theorem bracket?_length {text inside rest : List Char} (found : bracket? text = some (inside, rest)) :
    rest.length < text.length := by
  simp only [bracket?] at found
  split at found
  · simp at found
  · rename_i same
    simp only [Option.some.injEq, Prod.mk.injEq] at found
    have bound := congrArg List.length same
    have short := (List.dropWhile_sublist (p := (· != ']'))
      (l := List.drop (startingWith ']' (List.drop (startingWith '!' text).length text)).length
        (List.drop (startingWith '!' text).length text))).length_le
    simp only [List.length_drop, List.length_cons] at bound short
    rw [← found.2]
    omega

/-- Cuts a class at the hyphens that make ranges. Each chunk reaches past its first `reach` characters. -/
private def chunks (reach : Nat) (text : List Char) : List (List Char) :=
  match _cut : (text.drop reach).dropWhile (· != '-') with
  | [] => [text]
  | _ :: rest => (text.take reach ++ (text.drop reach).takeWhile (· != '-')) :: chunks 2 rest
termination_by text.length
decreasing_by
  have bound := congrArg List.length _cut
  have short := (List.dropWhile_sublist (p := (· != '-')) (l := text.drop reach)).length_le
  simp only [List.length_drop, List.length_cons] at bound short
  omega

/-- A hyphen at the very end of a class is a member. -/
private def closeChunks : List (List Char) → List (List Char)
  | [chunk, []] => [chunk ++ ['-']]
  | chunk :: rest => chunk :: closeChunks rest
  | [] => []

/-- Takes away the ranges that hold nothing, together with their ends. -/
private def dropEmptyRanges : List (List Char) → List (List Char)
  | [] => []
  | chunk :: rest =>
    match dropEmptyRanges rest with
    | [] => [chunk]
    | next :: more =>
      match chunk.getLast?, next.head? with
      | some low, some high =>
        if high < low then (chunk.dropLast ++ next.drop 1) :: more else chunk :: next :: more
      | _, _ => chunk :: next :: more

/-- The chunks again as one list, in which `none` is a hyphen between two chunks. -/
private def marks : List (List Char) → List (Option Char)
  | [] => []
  | [chunk] => chunk.map some
  | chunk :: rest => chunk.map some ++ none :: marks rest

private def members : List (Option Char) → List Member
  | [] => []
  | [low, none] => [.single (low.getD '-'), .single '-']
  | low :: none :: high :: rest => .range (low.getD '-') (high.getD '-') :: members rest
  | low :: rest => .single (low.getD '-') :: members rest

def ofClass (inside : List Char) : Piece :=
  let reach := if inside.head? = some '!' then 2 else 1
  match marks (dropEmptyRanges (closeChunks (chunks reach inside))) with
  | [some '!'] => .anyCharacter
  | some '!' :: rest => .oneOf true (members rest)
  | all => .oneOf false (members all)

/-- The pieces of a pattern. Stars in a row are one star. -/
def parse : List Char → List Piece
  | [] => []
  | '*' :: rest =>
    match parse rest with
    | .anyText :: more => .anyText :: more
    | more => .anyText :: more
  | '?' :: rest => .anyCharacter :: parse rest
  | '[' :: rest =>
    match _found : bracket? rest with
    | some (inside, tail) => ofClass inside :: parse tail
    | none => .character '[' :: parse rest
  | c :: rest => .character c :: parse rest
termination_by text => text.length
decreasing_by
  all_goals simp only [List.length_cons]
  all_goals first
    | omega
    | exact Nat.lt_succ_of_lt (bracket?_length _found)

/-- What is left of a text after each of its leading parts, the whole text first. -/
def endings : List Char → List (List Char)
  | [] => [[]]
  | c :: rest => (c :: rest) :: endings rest

/-- Whether pieces stand for the whole text. -/
def accepts : List Piece → List Char → Bool
  | [], text => text.isEmpty
  | .anyText :: rest, text => (endings text).any (accepts rest)
  | _ :: _, [] => false
  | piece :: rest, c :: text => piece.accepts c && accepts rest text

theorem mem_endings {ending text : List Char} : ending ∈ endings text ↔ ending <:+ text := by
  induction text with
  | nil => simp [endings]
  | cons c rest ih => rw [endings, List.mem_cons, ih, List.suffix_cons_iff]

theorem accepts_anyText {pieces : List Piece} {text : List Char} :
    accepts (.anyText :: pieces) text = true ↔ ∃ lead rest, text = lead ++ rest ∧ accepts pieces rest = true := by
  rw [accepts, List.any_eq_true]
  constructor
  · rintro ⟨rest, member, fits⟩
    obtain ⟨lead, same⟩ := mem_endings.mp member
    exact ⟨lead, rest, same.symm, fits⟩
  · rintro ⟨lead, rest, rfl, fits⟩
    exact ⟨rest, mem_endings.mpr (List.suffix_append ..), fits⟩

theorem accepts_single {piece : Piece} {pieces : List Piece} {text : List Char} (single : piece ≠ .anyText) :
    accepts (piece :: pieces) text = true ↔
      ∃ c rest, text = c :: rest ∧ piece.accepts c = true ∧ accepts pieces rest = true := by
  cases text with
  | nil => simp [accepts]
  | cons c rest =>
    have step : accepts (piece :: pieces) (c :: rest) = (piece.accepts c && accepts pieces rest) := by
      rw [accepts]
      simpa using single
    rw [step, Bool.and_eq_true]
    constructor
    · rintro ⟨own, fits⟩
      exact ⟨c, rest, rfl, own, fits⟩
    · rintro ⟨d, tail, same, own, fits⟩
      cases same
      exact ⟨own, fits⟩

theorem accepts_literal {literal : List Char} {pieces : List Piece} {text : List Char} :
    accepts (literal.map .character ++ pieces) text = true ↔
      ∃ rest, text = literal ++ rest ∧ accepts pieces rest = true := by
  induction literal generalizing text with
  | nil => simp
  | cons c literal ih =>
    rw [List.map_cons, List.cons_append, accepts_single (by simp)]
    constructor
    · rintro ⟨d, rest, rfl, own, fits⟩
      obtain ⟨tail, rfl, ends⟩ := ih.mp fits
      obtain rfl : d = c := beq_iff_eq.mp own
      exact ⟨tail, rfl, ends⟩
    · rintro ⟨tail, rfl, fits⟩
      exact ⟨c, literal ++ tail, rfl, by simp [Piece.accepts], ih.mpr ⟨tail, rfl, fits⟩⟩

/-- For each truth whether it or a later one holds. -/
private def orLater : List Bool → List Bool
  | [] => []
  | here :: rest =>
    let later := orLater rest
    (here || later.headD false) :: later

/-- For each ending of a text, the whole text first, whether pieces stand for it. Each piece takes one walk over the
text, however many stars come before it. -/
def verdicts : List Piece → List Char → List Bool
  | [], text => (endings text).map List.isEmpty
  | .anyText :: rest, text => orLater (verdicts rest text)
  | piece :: rest, text =>
    List.zipWith (fun c later => piece.accepts c && later) text (verdicts rest text).tail ++ [false]

/-- Whether pieces stand for the whole text, found without trying out what each star stands for. -/
def fits (pieces : List Piece) (text : List Char) : Bool := (verdicts pieces text).headD false

private theorem endings_eq_cons (text : List Char) : endings text = text :: (endings text).tail := by
  cases text <;> rfl

private theorem orLater_map_endings (holds : List Char → Bool) (text : List Char) :
    orLater ((endings text).map holds) = (endings text).map fun ending => (endings ending).any holds := by
  induction text with
  | nil => simp [endings, orLater]
  | cons c rest ih =>
    have head : (((endings rest).map fun ending => (endings ending).any holds).headD false) =
        (endings rest).any holds := by
      cases rest <;> rfl
    simp only [endings, List.map_cons, orLater, ih, head, List.any_cons]

private theorem zipWith_map_endings (holds : List Char → Bool) (piece : Char → Bool) (whole : List Char → Bool)
    (whole_nil : whole [] = false) (whole_cons : ∀ c rest, whole (c :: rest) = (piece c && holds rest))
    (text : List Char) :
    List.zipWith (fun c later => piece c && later) text ((endings text).map holds).tail ++ [false] =
      (endings text).map whole := by
  induction text with
  | nil => simp [endings, whole_nil]
  | cons c rest ih =>
    rw [← List.map_tail] at ih
    have next : (endings rest).map holds = holds rest :: (endings rest).tail.map holds := by
      conv => lhs; rw [endings_eq_cons rest]
      rfl
    simp only [endings, List.map_cons, List.tail_cons, next, List.zipWith_cons_cons, List.cons_append, ih, whole_cons]

theorem verdicts_eq_map (pieces : List Piece) (text : List Char) :
    verdicts pieces text = (endings text).map (accepts pieces) := by
  induction pieces with
  | nil => rfl
  | cons piece rest ih =>
    cases piece with
    | anyText =>
      rw [verdicts, ih, orLater_map_endings]
      exact List.map_congr_left fun ending _ => by simp [accepts]
    | anyCharacter =>
      rw [verdicts, ih]
      · exact zipWith_map_endings _ _ _ (by simp [accepts]) (fun _ _ => by simp [accepts]) text
      · simp
    | character d =>
      rw [verdicts, ih]
      · exact zipWith_map_endings _ _ _ (by simp [accepts]) (fun _ _ => by simp [accepts]) text
      · simp
    | oneOf negated members =>
      rw [verdicts, ih]
      · exact zipWith_map_endings _ _ _ (by simp [accepts]) (fun _ _ => by simp [accepts]) text
      · simp

theorem fits_eq_accepts (pieces : List Piece) (text : List Char) : fits pieces text = accepts pieces text := by
  rw [fits, verdicts_eq_map, endings_eq_cons]
  rfl

def matchesText (pattern text : String) : Bool := fits (parse pattern.toList) text.toList

end Surveyor.Glob
