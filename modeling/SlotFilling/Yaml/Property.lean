import SlotFilling.Json.Reader
import SlotFilling.Yaml.Cursor
import SlotFilling.Yaml.Lexeme

/-!
# Anchors, tags and directives

The words that say something about a node or about a document. Each reader takes a
cursor at the indicator and returns the lexeme and the place after it, or nothing
if the word is not well formed.
-/
namespace SlotFilling.Yaml

/-- The characters of anchors, handles and the names of directives. -/
def isNameChar (character : Char) : Bool :=
  character.isAlphanum || character == '_' || character == '-'

/-- Read the name of an anchor or alias. It has a character, and a blank, a line
end or an indicator follows it. -/
def readName? (cursor : Cursor) : Option (String × Cursor) :=
  let name := cursor.step.rest.takeWhile isNameChar
  let after := cursor.step.skip name.length
  let ended := endsWord (after.ahead 0) ||
    (after.ahead 0).any ['?', ':', ',', ']', '\x7d', '%', '@', '\x60'].contains
  if name ≠ [] && ended then some (String.ofList name, after) else none

/-! ### Tags -/

/-- The characters of a tag; inside angle brackets and in directives also those
that separate the items of a collection. -/
def isTagChar (verbatim : Bool) (character : Char) : Bool :=
  isNameChar character ||
    [';', '/', '?', ':', '@', '&', '=', '+', '$', '.', '%', '!', '~', '*', '\'', '(', ')'].contains
      character ||
    (verbatim && [',', '[', ']'].contains character)

/-- The number of bytes that follow the first byte of a group, absent if no group
starts with it. -/
def followers? (byte : UInt8) : Option Nat :=
  if byte < 0x80 then some 0
  else if byte < 0xC0 then none
  else if byte < 0xE0 then some 1
  else if byte < 0xF0 then some 2
  else if byte < 0xF8 then some 3
  else none

/-- The bytes of a tag, of which `pending` ones are due in the group that was begun.
A percent sign and two digits give a byte. Such bytes form groups as in UTF-8, but
a group need not be the shortest for its character, nor name one at all. -/
def tagBytes? : Nat → List Char → Option Tag
  | pending, [] => if pending = 0 then some [] else none
  | pending, '%' :: high :: low :: rest => do
    let byte := (← Json.hexValue? [high, low]).toUInt8
    let pending ← if pending = 0 then followers? byte
      else if 0x80 ≤ byte ∧ byte < 0xC0 then some (pending - 1)
      else none
    return byte :: (← tagBytes? pending rest)
  | pending, character :: rest =>
    if pending ≠ 0 ∨ character = '%' then none
    else (tagBytes? 0 rest).map (character.toNat.toUInt8 :: ·)

/-- Read the part of a tag that follows its handle. A null byte ends it early. -/
def readSuffix? (verbatim : Bool) (cursor : Cursor) : Option (Tag × Cursor) := do
  let run := cursor.rest.takeWhile (isTagChar verbatim)
  return ((← tagBytes? 0 run).takeWhile (· != 0), cursor.skip run.length)

/-- Read a part of a tag that has at least one character. -/
def readSomeSuffix? (verbatim : Bool) (cursor : Cursor) : Option (Tag × Cursor) :=
  if (cursor.ahead 0).any (isTagChar verbatim) then readSuffix? verbatim cursor else none

/-- The tag of a mark alone. -/
def markTag : Tag := ['!'.toNat.toUInt8]

/-- Read a tag: in angle brackets, behind a named handle, or behind the handle of
one mark. A mark alone is a tag without a handle. -/
def readTag? (inFlow : Bool) (cursor : Cursor) : Option (Lexeme × Cursor) := do
  let name := cursor.step.rest.takeWhile isNameChar
  let named := cursor.step.skip name.length
  let (handle, suffix, after) ←
    if cursor.ahead 1 = some '<' then do
      let (suffix, after) ← readSomeSuffix? true (cursor.skip 2)
      if after.ahead 0 = some '>' then some ("", suffix, after.step) else none
    else if named.ahead 0 = some '!' then do
      let (suffix, after) ← readSomeSuffix? false named.step
      some (String.ofList ('!' :: name ++ ['!']), suffix, after)
    else do
      let (suffix, after) ← readSuffix? false cursor.step
      some (if suffix.isEmpty then ("", markTag, after) else ("!", suffix, after))
  if endsWord (after.ahead 0) || (inFlow && after.ahead 0 = some ',') then
    some (.tag handle suffix, after)
  else none

/-! ### Directives -/

/-- Read a number of at most nine digits. -/
def readVersionNumber? (cursor : Cursor) : Option (Nat × Cursor) :=
  let digits := cursor.rest.takeWhile Char.isDigit
  if digits = [] ∨ 9 < digits.length then none
  else some (digits.foldl (fun value digit => value * 10 + (digit.toNat - '0'.toNat)) 0,
    cursor.skip digits.length)

/-- Read the version that a directive declares. -/
def readVersion? (cursor : Cursor) : Option (Lexeme × Cursor) := do
  let (major, after) ← readVersionNumber? (cursor.skipWhile isSpaceOrTab)
  if after.ahead 0 ≠ some '.' then none
  else
    let (minor, after) ← readVersionNumber? after.step
    return (.versionDirective major minor, after)

/-- Read the handle that a directive declares, and what it stands for. -/
def readHandle? (cursor : Cursor) : Option (Lexeme × Cursor) := do
  let cursor := cursor.skipWhile isSpaceOrTab
  let name := cursor.step.rest.takeWhile isNameChar
  let named := cursor.step.skip name.length
  let closed := named.ahead 0 = some '!'
  let handle := String.ofList ('!' :: name ++ if closed then ['!'] else [])
  let after := if closed then named.step else named
  if cursor.ahead 0 ≠ some '!' || !(closed || name = []) || !(after.ahead 0).any isSpaceOrTab then
    none
  else
    let (start, after) ← readSomeSuffix? true (after.skipWhile isSpaceOrTab)
    if endsWord (after.ahead 0) then some (.tagDirective handle start, after) else none

/-- Read a directive up to the end of its line. -/
def readDirective? (cursor : Cursor) : Option (Lexeme × Cursor) := do
  let name := cursor.step.rest.takeWhile isNameChar
  let named := cursor.step.skip name.length
  if !endsWord (named.ahead 0) then none
  else
    let (lexeme, after) ←
      if name = ['Y', 'A', 'M', 'L'] then readVersion? named
      else if name = ['T', 'A', 'G'] then readHandle? named
      else none
    return (lexeme, (← after.toLineEnd?).step)

end SlotFilling.Yaml
