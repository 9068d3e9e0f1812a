import Surveyor.Text.Blank

/-!
JSON with comments and trailing commas. Texts are passed over whole, so that what looks like a comment inside one stays.
-/
namespace Surveyor.Json

/-- A text up to and with its closing quote, and what follows. -/
def textToken? : List Char → Option (List Char × List Char)
  | [] => none
  | '"' :: rest => some (['"'], rest)
  | ['\\'] => none
  | '\\' :: c :: rest => (textToken? rest).map fun (body, tail) => ('\\' :: c :: body, tail)
  | c :: rest => (textToken? rest).map fun (body, tail) => (c :: body, tail)

theorem textToken?_length {text body tail : List Char} (found : textToken? text = some (body, tail)) :
    tail.length < text.length := by
  fun_induction textToken? text generalizing body tail with
  | case1 => cases found
  | case2 rest =>
    cases found
    exact Nat.lt_succ_self _
  | case3 => cases found
  | case4 c rest ih =>
    obtain ⟨⟨inner, last⟩, read, same⟩ := Option.map_eq_some_iff.mp found
    cases same
    exact Nat.lt_add_right 2 (ih read)
  | case5 c rest _ _ _ ih =>
    obtain ⟨⟨inner, last⟩, read, same⟩ := Option.map_eq_some_iff.mp found
    cases same
    exact Nat.lt_add_right 1 (ih read)

def afterComment? : List Char → Option (List Char)
  | '*' :: '/' :: rest => some rest
  | _ :: rest => afterComment? rest
  | [] => none

theorem afterComment?_length {text tail : List Char} (found : afterComment? text = some tail) :
    tail.length < text.length := by
  fun_induction afterComment? text with
  | case1 rest =>
    cases found
    simp only [List.length_cons]
    omega
  | case2 c rest _ ih => exact Nat.lt_add_right 1 (ih found)
  | case3 => cases found

def closesHere (text : List Char) : Bool :=
  match text.dropWhile Text.isBlank with
  | c :: _ => c == '\x7d' || c == ']'
  | [] => false

/-- The text without line comments, block comments and commas before the end of a collection. -/
def strip (text : List Char) : List Char :=
  match text with
  | [] => []
  | '"' :: rest =>
    match _found : textToken? rest with
    | some (body, tail) => '"' :: body ++ strip tail
    | none => '"' :: strip rest
  | '/' :: '/' :: rest => strip (rest.dropWhile (· != '\n'))
  | '/' :: '*' :: rest =>
    match _found : afterComment? rest with
    | some tail => strip tail
    | none => '/' :: strip ('*' :: rest)
  | ',' :: rest => if closesHere rest then strip rest else ',' :: strip rest
  | c :: rest => c :: strip rest
termination_by text.length
decreasing_by
  all_goals simp only [List.length_cons]
  · have := textToken?_length _found; omega
  · omega
  · have := (List.dropWhile_sublist (p := (· != '\n')) (l := rest)).length_le; omega
  · have := afterComment?_length _found; omega
  all_goals omega

def stripComments (text : String) : String := String.ofList (strip text.toList)

end Surveyor.Json
