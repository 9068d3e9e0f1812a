import Surveyor.Yaml.Cursor
import Surveyor.Number.Numeral

/-!
The written form of tags: a handle and a suffix, in which bytes may be escaped.
-/
namespace Surveyor.Yaml.TagText

private def isUriMark (c : Char) : Bool :=
  ['-', ';', '/', '?', ':', '@', '&', '=', '+', '$', ',', '_', '.', '!', '~', '*', '\'', '(', ')', '[', ']'].contains c

private def isUriCharacter (c : Char) : Bool := (c.val < 128 && c.isAlphanum) || isUriMark c

/-- The bytes of escapes in a row. -/
private def escapedBytes : List Char → Except Fault (List UInt8)
  | '%' :: a :: b :: rest =>
    match Numeral.digitIn? 16 a, Numeral.digitIn? 16 b with
    | some high, some low => do
      let more ← escapedBytes rest
      return (high * 16 + low).toUInt8 :: more
    | _, _ => .error .malformed
  | '%' :: _ => .error .malformed
  | _ => .ok []

/-- Runs of plain characters and runs of escapes, which spell characters in UTF-8. -/
private def uriFrom : Nat → Cursor → Except Fault (List Char × Cursor)
  | 0, c => .ok ([], c)
  | steps + 1, c => do
    let (run, place) := c.span isUriCharacter
    if place.peek == '%' then
      let bytes ← escapedBytes place.rest
      match String.fromUTF8? ⟨bytes.toArray⟩ with
      | none => throw .malformed
      | some text =>
        let (more, last) ← uriFrom steps (place.skip (3 * bytes.length))
        return (run ++ text.toList ++ more, last)
    else return (run, place)

/-- A text of uri characters; it may not be missing. -/
def uri (c : Cursor) : Except Fault (List Char × Cursor) := do
  if !isUriCharacter c.peek && c.peek != '%' then throw .malformed
  uriFrom (c.rest.length + 1) c

/-- A handle: an exclamation mark alone before a space, or a name between two of them. -/
def handle (c : Cursor) : Except Fault (List Char × Cursor) := do
  if c.peek != '!' then throw .malformed
  if c.peekAt 1 == ' ' then return (['!'], c.next)
  let (name, place) := c.next.span isNameCharacter
  if place.peek != '!' then throw .malformed
  return ('!' :: name ++ ['!'], place.next)

/-- Whether a second exclamation mark stands in the tag, so that it has a handle of its own. -/
private def hasHandle : List Char → Bool
  | [] => false
  | c :: rest => if isSpaceOrBreak c then false else c == '!' || hasHandle rest

/-- Reads a tag: its handle, unless it is written out in full, and its suffix. -/
def read (c : Cursor) : Except Fault (Option (List Char) × List Char × Cursor) := do
  let (found, suffix, place) ←
    if c.peekAt 1 == '<' then do
      let (suffix, place) ← uri (c.skip 2)
      if place.peek != '>' then throw .malformed
      pure (none, suffix, place.next)
    else if isGapOrBreak (c.peekAt 1) then pure (none, ['!'], c.next)
    else if hasHandle (c.rest.drop 1) then do
      let (name, afterHandle) ← handle c
      let (suffix, place) ← uri afterHandle
      pure (some name, suffix, place)
    else do
      let (suffix, place) ← uri c.next
      pure (some ['!'], suffix, place)
  if isSpaceOrBreak place.peek then return (found, suffix, place) else throw .malformed

end Surveyor.Yaml.TagText
