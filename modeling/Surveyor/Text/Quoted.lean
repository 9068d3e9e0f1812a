import Surveyor.Text.Printable

/-!
Quoted texts. The quote is the apostrophe unless the text holds an apostrophe and no double quote; what is not
printable is escaped by its code point.
-/
namespace Surveyor.Text

private def hexDigits (width : Nat) (n : Nat) : List Char :=
  let digits := Nat.toDigits 16 n
  List.replicate (width - digits.length) '0' ++ digits

private def escapeByNumber (c : Char) : List Char :=
  if c.toNat < 0x100 then '\\' :: 'x' :: hexDigits 2 c.toNat
  else if c.toNat < 0x10000 then '\\' :: 'u' :: hexDigits 4 c.toNat
  else '\\' :: 'U' :: hexDigits 8 c.toNat

private def escapeCharacter (quote c : Char) : List Char :=
  if c == quote || c == '\\' then ['\\', c]
  else if c == '\t' then ['\\', 't']
  else if c == '\n' then ['\\', 'n']
  else if c == '\r' then ['\\', 'r']
  else if isPrintable c then [c]
  else escapeByNumber c

/-- Escapes what is not ASCII. -/
def escapeForeign (text : List Char) : List Char := text.flatMap fun c => if c.val < 128 then [c] else escapeByNumber c

/-- The quote that a quoted form of the text uses. -/
def quoteFor (text : List Char) : Char :=
  if text.contains '\'' && !text.contains '"' then '"' else '\''

def quoteChars (text : List Char) : List Char :=
  let mark := quoteFor text
  mark :: text.flatMap (escapeCharacter mark) ++ [mark]

/-- The quoted form of a text, as it stands in messages. -/
def quote (text : String) : String := String.ofList (quoteChars text.toList)

end Surveyor.Text
