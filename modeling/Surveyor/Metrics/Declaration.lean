import Surveyor.Text.Scan

/-!
Declarations read out of source text. Reading is purely textual: a declaration in a comment or in a literal counts like
any other.
-/
namespace Surveyor.Metrics

open Text

/-- What follows the first of the words that stands here with blanks after it. -/
def afterAnyWord? (words : List String) (text : List Char) : Option (List Char) :=
  words.findSome? fun word => afterWord? word text

/-- Keeps only where a reading ends. -/
private def ending (end? : List Char → Option (List Char)) : Reader Unit := fun text =>
  (end? text).map fun tail => ((), tail)

def readClass : Reader Unit := ending fun text => do
  afterName? (← afterWord? "class" (skipWord "abstract" (skipWord "export" text)))

private def afterFunction? (text : List Char) : Option (List Char) := do
  afterName? (← afterWord? "function" (skipWord "async" (skipWord "export" text)))

/-- What follows a parameter list, whatever it holds before its first closing parenthesis. -/
private def afterParameters? (text : List Char) : Option (List Char) := do
  after? [')'] ((← after? ['('] text).dropWhile (· != ')'))

private def afterConstant? (text : List Char) : Option (List Char) := do
  let bound ← afterName? (← afterWord? "const" text)
  let value := skipBlanks (← after? ['='] (skipBlanks bound))
  let body := skipBlanks (← afterParameters? (skipWord "async" value))
  (after? "=>".toList body).or (after? ['\x7b'] body)

/-- A function under its own keyword, or a constant that is given a parameter list and a body. -/
def readFunction : Reader Unit := ending fun text => (afterFunction? text).or (afterConstant? text)

def readInterface : Reader Unit := ending fun text => do
  afterName? (← afterAnyWord? ["interface", "type"] (skipWord "export" text))

/-- A function whose name is `use` and a capital letter with more behind it. -/
def readHook : Reader Unit := ending fun text => do
  match ← after? "use".toList (← afterAnyWord? ["function", "const"] text) with
  | c :: rest => if c.isUpper then some (rest.dropWhile isWordCharacter) else none
  | [] => none

/-- Whether a text starts with the return of markup. -/
def returnsMarkup (text : List Char) : Bool :=
  match after? "return".toList text with
  | some rest =>
    let value := skipBlanks rest
    (skipBlanks ((after? ['('] value).getD value)).head? == some '<'
  | none => false

private def holdsWithin (test : List Char → Bool) : Nat → List Char → Bool
  | 0, text => test text
  | _, [] => test []
  | reach + 1, c :: rest => test (c :: rest) || holdsWithin test reach rest

/-- How far behind its name an exported function may return markup. -/
def markupReach : Nat := 2000

/-- The export of a function with a capital letter in front that soon returns markup. -/
def readComponent : Reader Unit := ending fun text => do
  match ← afterAnyWord? ["function", "const"] (skipWord "default" (← afterWord? "export" text)) with
  | c :: rest =>
    let name := rest.takeWhile isWordCharacter
    if c.isUpper && holdsWithin returnsMarkup (name.length + markupReach) rest then some rest else none
  | [] => none

def componentNames : List String := ["React.FC", "React.Component", "useState", "useEffect"]

def isComponentText (text : List Char) : Bool :=
  (firstRead? readComponent text).isSome || componentNames.any fun name => occursIn name.toList text

def noteMarks : List String := ["TODO", "FIXME", "HACK", "XXX"]

/-- The text of a note, after blanks that may reach into later lines. Where nothing but blanks is left the last blank
that ends no line is the text. -/
def readNote : Reader (List Char) := fun text => do
  let rest ← noteMarks.findSome? fun mark => after? (mark.toList ++ [':']) text
  match skipBlanks rest with
  | [] =>
    match (rest.reverse.dropWhile (· == '\n')).head? with
    | some c => some ([c], [])
    | none => none
  | note => some (note.takeWhile (· != '\n'), note.dropWhile (· != '\n'))

/-- The notes of a text without the blanks around them. -/
def notes (text : List Char) : List (List Char) := (collect readNote text).map trimChars

end Surveyor.Metrics
