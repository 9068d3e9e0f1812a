import Surveyor.Text.Scan

/-!
Import specifiers read out of source text. Reading is purely textual: specifiers that are built when a program runs are
missed, and text that looks like an import counts wherever it stands.
-/
namespace Surveyor.Imports

open Text

def isQuote (c : Char) : Bool := c == '\'' || c == '"'

def isClauseCharacter (c : Char) : Bool :=
  isWordCharacter c || c == '*' || isBlank c || c == '\x7b' || c == '\x7d' || c == ','

def isClause (run : List Char) : Bool :=
  let trimmed := dropTrailing isBlank run
  let clause := trimmed.take (trimmed.length - 4)
  trimmed.length < run.length && trimmed.drop (trimmed.length - 4) == "from".toList && 2 ≤ clause.length &&
    (clause.head?.map isBlank).getD false && (clause.getLast?.map isBlank).getD false

def blanksOnly (run : List Char) : Bool := !run.isEmpty && run.all isBlank

/-- A specifier after the run of clause characters that follows a keyword. -/
def afterClause (accepts : List Char → Bool) (text : List Char) : Option (List Char × List Char) :=
  if accepts (text.takeWhile isClauseCharacter) then quoted isQuote (text.dropWhile isClauseCharacter) else none

/-- Reads `(`, with blanks around it, and a specifier. -/
def call (text : List Char) : Option (List Char × List Char) := do
  quoted isQuote (skipBlanks (← after? ['('] (skipBlanks text)))

/-- An import with or without a clause, an export with a clause, or a call of `require`. -/
def readStatic : Reader (List Char) := fun text =>
  match after? "import".toList text, after? "export".toList text, after? "require".toList text with
  | some rest, _, _ => afterClause (fun run => blanksOnly run || isClause run) rest
  | _, some rest, _ => afterClause isClause rest
  | _, _, some rest => call rest
  | _, _, _ => none

def readDynamic : Reader (List Char) := fun text => do
  let (specifier, rest) ← call (← after? "import".toList text)
  return (specifier, ← after? [')'] (skipBlanks rest))

def readStylesheet : Reader (List Char) := fun text => do
  let start ← afterBlanks? (← after? "@import".toList text)
  quoted isQuote (((after? "url(".toList start).map skipBlanks).getD start)

/-- The specifiers of a text: static ones, then dynamic ones, then those of stylesheets, each once and without the
blanks around it. -/
def specifiers (text : String) : List String :=
  let found := [readStatic, readDynamic, readStylesheet].flatMap fun read => collect read text.toList
  (((found.map trimChars).filter (· != [])).map String.ofList).eraseDups

end Surveyor.Imports
