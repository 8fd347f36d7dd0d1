/-!
# Places in a YAML text

The line ends of a text are made uniform, and it is then read by a cursor that
knows the line, the column and the number of bytes before it. Tabs and line ends
matter to YAML, so both are told apart from other spaces here.
-/
namespace SlotFilling.Yaml

/-- The characters that a text may hold. -/
def isPermitted (character : Char) : Bool :=
  let point := character.toNat
  point == 0x9 || point == 0xA || point == 0xD || point == 0x85 ||
    (decide (0x20 ≤ point) && decide (point ≤ 0x7E)) ||
    (decide (0xA0 ≤ point) && decide (point ≤ 0xFFFD)) || decide (0x10000 ≤ point)

/-- Write every common line end as one line feed. -/
def uniformBreaks : List Char → List Char
  | [] => []
  | '\r' :: '\n' :: rest => '\n' :: uniformBreaks rest
  | character :: rest =>
    (if character = '\r' ∨ character = '\u0085' then '\n' else character) :: uniformBreaks rest

/-- Line ends: the line feed, and the two separators that keep their identity. -/
def isBreak (character : Char) : Bool :=
  character == '\n' || character == '\u2028' || character == '\u2029'

def isSpaceOrTab (character : Char) : Bool := character == ' ' || character == '\t'

/-- Whether a word ends before this character, or at the end of the text. -/
def endsWord (ahead : Option Char) : Bool :=
  match ahead with
  | none => true
  | some character => isSpaceOrTab character || isBreak character

/-- What is left of a text, and the place where it starts. -/
structure Cursor where
  rest : List Char
  /-- The bytes that the text before this place takes in UTF-8. -/
  offset : Nat
  line : Nat
  column : Nat

namespace Cursor

def start (text : List Char) : Cursor := ⟨text, 0, 0, 0⟩

/-- Move over one character. -/
def step (cursor : Cursor) : Cursor :=
  match cursor.rest with
  | [] => cursor
  | character :: rest =>
    let offset := cursor.offset + character.utf8Size
    if isBreak character then ⟨rest, offset, cursor.line + 1, 0⟩
    else ⟨rest, offset, cursor.line, cursor.column + 1⟩

/-- Move over some characters. -/
def skip : Nat → Cursor → Cursor
  | 0, cursor => cursor
  | count + 1, cursor => skip count cursor.step

/-- The character some places ahead. -/
def ahead (cursor : Cursor) (places : Nat) : Option Char := cursor.rest[places]?

/-- Move over all characters of some class that come next. -/
def skipWhile (wanted : Char → Bool) (cursor : Cursor) : Cursor :=
  cursor.skip (cursor.rest.takeWhile wanted).length

/-- Whether three of some mark stand alone at the start of the line. -/
def atMark (cursor : Cursor) (mark : Char) : Bool :=
  cursor.column == 0 && cursor.rest.take 3 == [mark, mark, mark] && endsWord (cursor.ahead 3)

/-- Whether the line starts or ends a document. -/
def atDocumentMark (cursor : Cursor) : Bool := cursor.atMark '-' || cursor.atMark '.'

/-- Move over spaces, tabs and a comment to the end of the line; absent if anything
else stands there. -/
def toLineEnd? (cursor : Cursor) : Option Cursor :=
  let cursor := cursor.skipWhile isSpaceOrTab
  let cursor := if cursor.ahead 0 = some '#' then cursor.skipWhile (!isBreak ·) else cursor
  if (cursor.ahead 0).all isBreak then some cursor else none

end Cursor

end SlotFilling.Yaml
