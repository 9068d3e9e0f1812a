/-!
Looking for one text inside another. All functions compare character by character.
-/
namespace Surveyor.Text

/-- What follows `lead` in a text that starts with it. -/
def after? : (lead text : List Char) → Option (List Char)
  | [], text => some text
  | _ :: _, [] => none
  | a :: lead, c :: text => if a = c then after? lead text else none

/-- The small form of a letter, as letters of either case count the same; the long s is an s. -/
def smallForm (c : Char) : Char := if c == 'ſ' then 's' else c.toLower

/-- What follows a word of small letters in a text that starts with it in either case. -/
def afterEitherCase? : (word text : List Char) → Option (List Char)
  | [], text => some text
  | _ :: _, [] => none
  | a :: word, c :: text => if a = smallForm c then afterEitherCase? word text else none

def startsWith (text lead : String) : Bool := lead.toList.isPrefixOf text.toList

def endsWith (text tail : String) : Bool := tail.toList.isSuffixOf text.toList

/-- Whether `part` stands somewhere in the text. -/
def occursIn (part : List Char) : List Char → Bool
  | [] => part.isEmpty
  | c :: rest => part.isPrefixOf (c :: rest) || occursIn part rest

theorem occursIn_iff {part text : List Char} : occursIn part text = true ↔ part <:+: text := by
  induction text with
  | nil => simp [occursIn]
  | cons c rest ih => simp [occursIn, List.infix_cons_iff, ih]

def contains (text part : String) : Bool := occursIn part.toList text.toList

/-- What follows the first place where `part` stands. -/
def afterFirst? (part : List Char) : List Char → Option (List Char)
  | [] => after? part []
  | c :: rest =>
    match after? part (c :: rest) with
    | some found => some found
    | none => afterFirst? part rest

end Surveyor.Text
