import Surveyor.Text.Blank

/-!
Keywords of a title or a description.
-/
namespace Surveyor.Keyword

/-- Common words that tell nothing. -/
def commonWords : List String := ["with", "from", "that", "this", "pour", "avec", "dans", "des", "les"]

/-- The letters and digits of a word that are plain, in lower case. -/
def plain (word : List Char) : String := String.ofList ((word.filter Char.isAlphanum).map Char.toLower)

def isTelling (word : String) : Bool := 3 < word.length && !commonWords.contains word

def ofText (text : String) : List String :=
  (((Text.words text.toList).map plain).filter isTelling).eraseDups

end Surveyor.Keyword
