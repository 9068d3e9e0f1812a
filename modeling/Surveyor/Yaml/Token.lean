import Surveyor.Yaml.BlockText
import Surveyor.Yaml.PlainText
import Surveyor.Yaml.QuotedText
import Surveyor.Yaml.TagText

/-!
The tokens of a YAML text. Indentation becomes explicit marks. A key without a question mark is known only when its
colon is met, so the place where each possible key starts is remembered, one for each depth of brackets, and its mark
is put in later; such a key ends on its line and within 1024 characters. Until then the tokens from that place on are
not settled, and a fault that is met meanwhile takes their place.
-/
namespace Surveyor.Yaml

inductive Token where
  | versionDirective (major : Nat)
  | tagDirective (handle lead : List Char)
  | otherDirective
  | documentStart
  | documentEnd
  | blockSequenceStart
  | blockMappingStart
  | blockEnd
  | flowSequenceStart
  | flowSequenceEnd
  | flowMappingStart
  | flowMappingEnd
  | blockEntry
  | flowEntry
  | key
  | value
  | alias (name : List Char)
  | anchor (name : List Char)
  | tag (handle : Option (List Char)) (suffix : List Char)
  | scalar (text : List Char) (plain : Bool)
  | streamEnd
  /-- The text goes on with something that is no token. -/
  | fault (fault : Fault)
  deriving DecidableEq

structure PossibleKey where
  position : Nat
  required : Bool
  index : Nat
  line : Nat
  column : Nat

structure Lexer where
  cursor : Cursor
  depth : Nat := 0
  indent : Int := -1
  outerIndents : List Int := []
  keyAllowed : Bool := true
  possibleKeys : List (Nat × PossibleKey) := []
  tokens : Array Token := #[]

namespace Lexer

def keyLimit : Nat := 1024

private def push (s : Lexer) (token : Token) : Lexer := { s with tokens := s.tokens.push token }

private def insertAt (tokens : Array Token) (position : Nat) (token : Token) : Array Token :=
  (tokens.toList.take position ++ token :: tokens.toList.drop position).toArray

/-- Whether what starts at the place can no longer be a key. -/
private def isStale (s : Lexer) (key : PossibleKey) : Bool :=
  key.line != s.cursor.line || keyLimit < s.cursor.index - key.index

/-- Gives up the possible keys that can no longer be keys. -/
private def dropStale (s : Lexer) : Except Fault Lexer :=
  if s.possibleKeys.any fun entry => s.isStale entry.2 && entry.2.required then .error .malformed
  else .ok { s with possibleKeys := s.possibleKeys.filter fun entry => !s.isStale entry.2 }

/-- How many tokens are settled: those before the first place where a key may still have started. -/
private def settledCount (s : Lexer) : Nat :=
  s.possibleKeys.foldl (fun count (_, key) => if s.isStale key then count else min count key.position) s.tokens.size

/-- Gives up the possible key of this depth. -/
private def dropKey (s : Lexer) : Except Fault Lexer :=
  if s.possibleKeys.any fun entry => entry.1 == s.depth && entry.2.required then .error .malformed
  else .ok { s with possibleKeys := s.possibleKeys.filter (·.1 != s.depth) }

/-- Remembers that a key may start here. -/
private def saveKey (s : Lexer) : Except Fault Lexer := do
  if !s.keyAllowed then return s
  let required := s.depth == 0 && s.indent == s.cursor.column
  let s ← s.dropKey
  let key : PossibleKey := ⟨s.tokens.size, required, s.cursor.index, s.cursor.line, s.cursor.column⟩
  return { s with possibleKeys := (s.depth, key) :: s.possibleKeys }

/-- Closes the block collections that are indented more than the column. -/
private def unwind (s : Lexer) (column : Int) : Lexer :=
  if 0 < s.depth then s
  else
    let closed := (s.indent :: s.outerIndents).takeWhile (column < ·)
    let left := (s.indent :: s.outerIndents).drop closed.length
    { s with
      indent := left.headD (-1)
      outerIndents := left.drop 1
      tokens := s.tokens ++ Array.replicate closed.length .blockEnd }

/-- Opens a block collection where the column is further in than the open ones. -/
private def openBlock (s : Lexer) (column position : Nat) (token : Token) : Lexer :=
  if s.indent < column then
    { s with
      indent := column
      outerIndents := s.indent :: s.outerIndents
      tokens := insertAt s.tokens position token }
  else s

private def mark (s : Lexer) (length : Nat) (token : Token) : Lexer :=
  { s with cursor := s.cursor.skip length, tokens := s.tokens.push token }

private def allowKey (s : Lexer) (allowed : Bool) : Lexer := { s with keyAllowed := allowed }

/-- Skips spaces, comments and line breaks. A key may start on a new line outside brackets. -/
private def skipGaps : Nat → Lexer → Lexer
  | 0, s => s
  | steps + 1, s =>
    let place := s.cursor.skipSpaces.skipComment
    if isBreak place.peek then
      skipGaps steps { s with cursor := place.lineBreak.2, keyAllowed := s.keyAllowed || s.depth == 0 }
    else { s with cursor := place }

private def skipMark (s : Lexer) : Lexer :=
  if s.cursor.index == 0 && s.cursor.peek == byteOrderMark then { s with cursor := s.cursor.next } else s

private def versionNumber (c : Cursor) : Except Fault (Nat × Cursor) :=
  let (digits, place) := c.span Char.isDigit
  if digits.isEmpty then .error .malformed
  else
    match Numeral.integer 10 digits with
    | .ok value => .ok (value.toNat, place)
    | .error (.tooLong count) => .error (.longInteger count)
    | .error .malformed => .error .malformed

/-- Reads a directive; the place is after its percent sign. -/
private def directive (c : Cursor) : Except Fault (Token × Cursor) := do
  let (name, afterName) := c.span isNameCharacter
  if name.isEmpty || !isSpaceOrBreak afterName.peek then throw .malformed
  let (token, place) ←
    if name == "YAML".toList then do
      let (major, afterMajor) ← versionNumber afterName.skipSpaces
      if afterMajor.peek != '.' then throw .malformed
      let (_, place) ← versionNumber afterMajor.next
      if !isSpaceOrBreak place.peek then throw .malformed
      pure (Token.versionDirective major, place)
    else if name == "TAG".toList then do
      let (handle, afterHandle) ← TagText.handle afterName.skipSpaces
      if afterHandle.peek != ' ' then throw .malformed
      let (lead, place) ← TagText.uri afterHandle.skipSpaces
      if !isSpaceOrBreak place.peek then throw .malformed
      pure (Token.tagDirective handle lead, place)
    else pure (Token.otherDirective, afterName.skipLine)
  return (token, ← place.finishLine)

private def anchorName (c : Cursor) : Except Fault (List Char × Cursor) :=
  let (name, place) := c.span isNameCharacter
  let ends := isGapOrBreak place.peek || ['?', ':', ',', ']', '\x7d', '%', '@', '\x60'].contains place.peek
  if name.isEmpty || !ends then .error .malformed else .ok (name, place)

private def isIndicator (c : Char) : Bool :=
  ['-', '?', ':', ',', '[', ']', '\x7b', '\x7d', '#', '&', '*', '!', '|', '>', '\'', '"', '%', '@', '\x60'].contains c

private def startsPlain (s : Lexer) : Bool :=
  let ch := s.cursor.peek
  !(isGapOrBreak ch || isIndicator ch) ||
    (!isGapOrBreak (s.cursor.peekAt 1) && (ch == '-' || (s.depth == 0 && (ch == '?' || ch == ':'))))

/-- Tokens that bound documents close all block collections and end every possible key. -/
private def closeAll (s : Lexer) : Except Fault Lexer := do
  let s ← (s.unwind (-1)).dropKey
  return s.allowKey false

private def openFlow (s : Lexer) (token : Token) : Except Fault Lexer := do
  let s ← s.saveKey
  return { (s.allowKey true).mark 1 token with depth := s.depth + 1 }

private def closeFlow (s : Lexer) (token : Token) : Except Fault Lexer := do
  let s ← s.dropKey
  if s.depth == 0 then throw .malformed
  return { (s.allowKey false).mark 1 token with depth := s.depth - 1 }

private def flowEntry (s : Lexer) : Except Fault Lexer := do
  let s ← (s.allowKey true).dropKey
  return s.mark 1 .flowEntry

private def blockEntry (s : Lexer) : Except Fault Lexer := do
  if s.depth == 0 && !s.keyAllowed then throw .malformed
  let s := if s.depth == 0 then s.openBlock s.cursor.column s.tokens.size .blockSequenceStart else s
  let s ← (s.allowKey true).dropKey
  return s.mark 1 .blockEntry

private def explicitKey (s : Lexer) : Except Fault Lexer := do
  if s.depth == 0 && !s.keyAllowed then throw .malformed
  let s := if s.depth == 0 then s.openBlock s.cursor.column s.tokens.size .blockMappingStart else s
  let s ← (s.allowKey (s.depth == 0)).dropKey
  return s.mark 1 .key

/-- A colon makes a key of the possible key before it, or parts the value of an explicit key. -/
private def value (s : Lexer) : Except Fault Lexer := do
  match s.possibleKeys.find? (·.1 == s.depth) with
  | some (_, key) =>
    let s := { s with
      possibleKeys := s.possibleKeys.filter (·.1 != s.depth)
      tokens := insertAt s.tokens key.position .key }
    let s := if s.depth == 0 then s.openBlock key.column key.position .blockMappingStart else s
    return (s.allowKey false).mark 1 .value
  | none =>
    if s.depth == 0 && !s.keyAllowed then throw .malformed
    let s := if s.depth == 0 then s.openBlock s.cursor.column s.tokens.size .blockMappingStart else s
    let s ← (s.allowKey (s.depth == 0)).dropKey
    return s.mark 1 .value

/-- A token that may start a key. -/
private def mayBeKey (s : Lexer) (read : Lexer → Except Fault (Token × Cursor)) : Except Fault Lexer := do
  let s ← s.saveKey
  let (token, place) ← read s
  return { (s.allowKey false).push token with cursor := place }

private def plain (s : Lexer) : Except Fault Lexer := do
  let s ← s.saveKey
  let (text, ended, place) := PlainText.read (0 < s.depth) s.indent s.cursor
  return { (s.allowKey ended).push (.scalar text true) with cursor := place }

private def block (s : Lexer) (folded : Bool) : Except Fault Lexer := do
  let s ← (s.allowKey true).dropKey
  let (text, place) ← BlockText.read folded s.indent s.cursor.next
  return { s.push (.scalar text false) with cursor := place }

private def fetch (s : Lexer) : Except Fault Lexer := do
  let s := skipGaps (s.cursor.rest.length + 1) s.skipMark
  let s ← s.dropStale
  let s := s.unwind s.cursor.column
  let ch := s.cursor.peek
  let inFlow := 0 < s.depth
  let gapFollows := isGapOrBreak (s.cursor.peekAt 1)
  if ch == '\x00' then
    let s ← s.closeAll
    return s.push .streamEnd
  else if ch == '%' && s.cursor.column == 0 then
    let s ← s.closeAll
    let (token, place) ← directive s.cursor.next
    return { s.push token with cursor := place }
  else if (ch == '-' || ch == '.') && s.cursor.column == 0 && s.cursor.atBoundary then
    let s ← s.closeAll
    return s.mark 3 (if ch == '-' then .documentStart else .documentEnd)
  else if ch == '[' then s.openFlow .flowSequenceStart
  else if ch == '\x7b' then s.openFlow .flowMappingStart
  else if ch == ']' then s.closeFlow .flowSequenceEnd
  else if ch == '\x7d' then s.closeFlow .flowMappingEnd
  else if ch == ',' then s.flowEntry
  else if ch == '-' && gapFollows then s.blockEntry
  else if ch == '?' && (inFlow || gapFollows) then s.explicitKey
  else if ch == ':' && (inFlow || gapFollows) then s.value
  else if ch == '*' then
    s.mayBeKey fun s => (anchorName s.cursor.next).map fun (name, place) => (.alias name, place)
  else if ch == '&' then
    s.mayBeKey fun s => (anchorName s.cursor.next).map fun (name, place) => (.anchor name, place)
  else if ch == '!' then
    s.mayBeKey fun s => (TagText.read s.cursor).map fun (handle, suffix, place) => (.tag handle suffix, place)
  else if (ch == '|' || ch == '>') && !inFlow then s.block (ch == '>')
  else if ch == '\'' || ch == '"' then
    s.mayBeKey fun s =>
      (QuotedText.read (ch == '"') s.cursor.next).map fun (text, place) => (.scalar text false, place)
  else if s.startsPlain then s.plain
  else throw .malformed

private def run : Nat → Lexer → Lexer
  | 0, s => s
  | steps + 1, s =>
    match s.fetch with
    | .error fault => { s with tokens := (s.tokens.take s.settledCount).push (.fault fault) }
    | .ok s => if s.tokens.back? == some .streamEnd then s else run steps s

end Lexer

/-- The tokens of a text, up to its end, or its settled tokens and its first fault. -/
def tokens (text : List Char) : List Token :=
  if text.all isAllowed then
    let start : Lexer := ⟨⟨text, 0, 0, 0⟩, 0, -1, [], true, [], #[]⟩
    (Lexer.run (text.length + 2) start).tokens.toList
  else [.fault .malformed]

end Surveyor.Yaml
