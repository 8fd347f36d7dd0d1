import SlotFilling.Yaml.Property
import SlotFilling.Yaml.Scalar

/-!
# From a text to its lexemes

Indentation opens and closes blocks, and a colon turns the scalar or collection
before it into a key. Since the colon comes late, the place of a possible key is
remembered, and the lexemes that announce it are put there afterwards. A possible
key ends with its line, and after 1024 bytes. A text with a fault anywhere has no
lexemes at all.
-/
namespace SlotFilling.Yaml

/-- A place where a key may have started. -/
structure KeyCandidate where
  /-- The number of lexemes before it. -/
  position : Nat
  start : Cursor
  /-- Nothing but a key can stand here. -/
  required : Bool

/-- A text that is being read. -/
structure Scan where
  cursor : Cursor
  /-- The lexemes read so far. -/
  lexemes : Array Lexeme := #[]
  /-- The columns of the open blocks, the innermost first. -/
  indents : List Nat := []
  /-- Whether a key, or a block, may start here. -/
  keyAllowed : Bool := true
  /-- The possible key between the innermost brackets. -/
  candidate : Option KeyCandidate := none
  /-- The possible keys around each open bracket, the innermost first. -/
  outer : List (Option KeyCandidate) := []

namespace Scan

/-- Whether a bracket is open. -/
def inFlow (scan : Scan) : Bool := !scan.outer.isEmpty

def emit (lexeme : Lexeme) (scan : Scan) : Scan :=
  { scan with lexemes := scan.lexemes.push lexeme }

/-- Put a lexeme behind the first `position` ones. -/
def insertAt (position : Nat) (lexeme : Lexeme) (scan : Scan) : Scan :=
  { scan with lexemes := scan.lexemes.insertIdxIfInBounds position lexeme }

/-- Move the cursor over some characters. -/
def skip (count : Nat) (scan : Scan) : Scan := { scan with cursor := scan.cursor.skip count }

def allowKey (allowed : Bool) (scan : Scan) : Scan := { scan with keyAllowed := allowed }

/-! ### Blocks -/

/-- Open a block if the column is deeper than all open ones. -/
def openBlock (lexeme : Lexeme) (position column : Nat) (scan : Scan) : Scan :=
  if scan.inFlow || !scan.indents.head?.all (fun indent => decide (indent < column)) then scan
  else { scan.insertAt position lexeme with indents := column :: scan.indents }

/-- Close the blocks that are deeper than some column; all of them if it is absent. -/
def closeBlocks (column : Option Nat) (scan : Scan) : Scan :=
  if scan.inFlow then scan
  else
    let closed := scan.indents.takeWhile fun indent =>
      column.all fun column => decide (column < indent)
    { scan with
      lexemes := scan.lexemes ++ closed.map fun _ => Lexeme.blockEnd
      indents := scan.indents.drop closed.length }

/-! ### Possible keys -/

/-- Whether a key that started here would have its colon too late. -/
def isStale (cursor : Cursor) (candidate : KeyCandidate) : Bool :=
  decide (candidate.start.line < cursor.line) ||
    decide (candidate.start.offset + 1024 < cursor.offset)

/-- Forget a possible key, which fails where nothing else may stand. -/
def forget? (candidate : Option KeyCandidate) : Option (Option KeyCandidate) :=
  if candidate.any (·.required) then none else some none

/-- Forget the possible key if it is stale. Those around open brackets are asked when
their bracket is closed, as no text can make them fresh again. -/
def dropStale? (scan : Scan) : Option Scan := do
  if scan.candidate.any (isStale scan.cursor) then
    return { scan with candidate := ← forget? scan.candidate }
  else return scan

def dropCandidate? (scan : Scan) : Option Scan := do
  return { scan with candidate := ← forget? scan.candidate }

/-- Remember this place as the start of a possible key, if one is allowed. -/
def saveCandidate? (scan : Scan) : Option Scan :=
  if scan.keyAllowed then do
    -- In the column of an open block, only a further key of that block can follow.
    let scan ← scan.dropCandidate?
    let required := !scan.inFlow && scan.indents.head? == some scan.cursor.column
    return { scan with candidate := some ⟨scan.lexemes.size, scan.cursor, required⟩ }
  else some scan

/-! ### Between lexemes -/

/-- Move over spaces, comments and line ends. A tab may stand where no block can
start. A line end outside of brackets lets a key follow. A byte order mark may
start a line, of which it takes the first column. -/
def toNextFrom : List Char → Scan → Scan
  | [], scan => scan
  | _ :: bound, scan =>
    let cursor := scan.cursor
    let cursor := if cursor.column == 0 && cursor.ahead 0 == some '\ufeff' then cursor.step
      else cursor
    let tabs := scan.inFlow || !scan.keyAllowed
    let cursor := cursor.skipWhile fun character =>
      character == ' ' || (tabs && character == '\t')
    let cursor := if cursor.ahead 0 == some '#' then cursor.skipWhile (!isBreak ·) else cursor
    if (cursor.ahead 0).any isBreak then
      toNextFrom bound
        { scan with cursor := cursor.step, keyAllowed := scan.keyAllowed || !scan.inFlow }
    else { scan with cursor }

/-- Move to the next lexeme. Each line takes a character, which bounds their number. -/
def toNext (scan : Scan) : Scan := toNextFrom scan.cursor.rest scan

/-! ### The lexemes -/

/-- Close all blocks, as a document or the text ends. -/
def closeAll? (scan : Scan) : Option Scan :=
  ((scan.closeBlocks none).allowKey false).dropCandidate?

def directive? (scan : Scan) : Option Scan := do
  let scan ← scan.closeAll?
  let (lexeme, after) ← readDirective? scan.cursor
  return { scan with cursor := after }.emit lexeme

def documentMark? (lexeme : Lexeme) (scan : Scan) : Option Scan :=
  scan.closeAll?.map fun scan => (scan.emit lexeme).skip 3

/-- An opening bracket or brace, which may start a key. -/
def openFlow? (lexeme : Lexeme) (scan : Scan) : Option Scan :=
  scan.saveCandidate?.map fun scan =>
    ({ scan with candidate := none, outer := scan.candidate :: scan.outer }.emit lexeme
      |>.allowKey true).skip 1

def closeFlow? (lexeme : Lexeme) (scan : Scan) : Option Scan :=
  scan.dropCandidate?.map fun scan =>
    ({ scan with candidate := scan.outer.head?.join, outer := scan.outer.tail }.emit lexeme
      |>.allowKey false).skip 1

def flowEntry? (scan : Scan) : Option Scan :=
  scan.dropCandidate?.map fun scan => ((scan.emit .flowEntry).allowKey true).skip 1

/-- Open a block at the cursor; outside of brackets this needs a place where a key
may start. -/
def openHere? (lexeme : Lexeme) (scan : Scan) : Option Scan :=
  if scan.inFlow then some scan
  else if scan.keyAllowed then
    some (scan.openBlock lexeme scan.lexemes.size scan.cursor.column)
  else none

/-- The hyphen of an item. -/
def blockEntry? (scan : Scan) : Option Scan := do
  let scan ← scan.openHere? .blockSequenceStart
  let scan ← scan.dropCandidate?
  return ((scan.emit .blockEntry).allowKey true).skip 1

/-- A question mark, which announces a key. -/
def key? (scan : Scan) : Option Scan := do
  let scan ← scan.openHere? .blockMappingStart
  let scan ← scan.dropCandidate?
  return ((scan.emit .key).allowKey (!scan.inFlow)).skip 1

/-- A colon. If a key may have started before it, that place becomes a key. -/
def value? (scan : Scan) : Option Scan :=
  match scan.candidate with
  | some candidate =>
    -- Both lexemes go to the same place, so the start of the block comes before the key.
    let scan := scan.insertAt candidate.position .key
    let scan := scan.openBlock .blockMappingStart candidate.position candidate.start.column
    some (({ scan with candidate := none }.emit .value).allowKey false |>.skip 1)
  | none =>
    (scan.openHere? .blockMappingStart).map fun scan =>
      ((scan.emit .value).allowKey (!scan.inFlow)).skip 1

/-- A lexeme that may be a key or the first part of one. -/
def word? (read : Cursor → Option (Lexeme × Cursor)) (scan : Scan) : Option Scan := do
  let scan ← scan.saveCandidate?
  let (lexeme, after) ← read scan.cursor
  return { scan with cursor := after }.emit lexeme |>.allowKey false

/-- A scalar without quotes. After a line end it may be followed by a key. -/
def plain? (scan : Scan) : Option Scan := do
  let scan ← scan.saveCandidate?
  let indent := match scan.indents.head? with
    | some indent => indent + 1
    | none => 0
  let read ← readPlain? scan.inFlow indent scan.cursor
  return { scan with cursor := read.after }.emit (.scalar .plain (String.ofList read.text))
    |>.allowKey read.endsLine

def block? (literal : Bool) (scan : Scan) : Option Scan := do
  let scan ← scan.dropCandidate?
  let read ← readBlock? literal scan.indents.head? scan.cursor
  let style := if literal then .literal else .folded
  return { scan with cursor := read.after }.emit (.scalar style (String.ofList read.text))
    |>.allowKey true

/-- Read a quoted scalar as a lexeme. -/
def quoted? (double : Bool) (cursor : Cursor) : Option (Lexeme × Cursor) :=
  (readQuoted? double cursor).map fun read =>
    (.scalar .quoted (String.ofList read.text), read.after)

/-- Read an anchor or alias as a lexeme. -/
def named? (lexeme : String → Lexeme) (cursor : Cursor) : Option (Lexeme × Cursor) :=
  (readName? cursor).map fun (name, after) => (lexeme name, after)

/-- Read the lexeme that starts with this character. -/
def lexeme? (first : Char) (scan : Scan) : Option Scan :=
  let cursor := scan.cursor
  let alone := endsWord (cursor.ahead 1)
  if cursor.column == 0 && first == '%' then scan.directive?
  else if cursor.atMark '-' then scan.documentMark? .documentStart
  else if cursor.atMark '.' then scan.documentMark? .documentEnd
  else match first with
    | '[' => scan.openFlow? .sequenceStart
    | '\x7b' => scan.openFlow? .mappingStart
    | ']' => scan.closeFlow? .sequenceEnd
    | '\x7d' => scan.closeFlow? .mappingEnd
    | ',' => scan.flowEntry?
    | '-' => if alone then scan.blockEntry? else scan.plain?
    | '?' => if scan.inFlow || alone then scan.key? else scan.plain?
    | ':' => if scan.inFlow || alone then scan.value? else scan.plain?
    | '*' => scan.word? (named? .alias)
    | '&' => scan.word? (named? .anchor)
    | '!' => scan.word? (readTag? scan.inFlow)
    | '|' => if scan.inFlow then none else scan.block? true
    | '>' => if scan.inFlow then none else scan.block? false
    | '\'' => scan.word? (quoted? false)
    | '"' => scan.word? (quoted? true)
    | '\t' | '#' | '%' | '@' | '\x60' => none
    | _ => scan.plain?

/-- Read all lexemes that are left. -/
def finish? : Nat → Scan → Option Scan
  | 0, _ => none
  | fuel + 1, scan => do
    -- A line that starts further left than a block ends that block.
    let scan ← scan.toNext.dropStale?
    let scan := scan.closeBlocks (some scan.cursor.column)
    match scan.cursor.rest.head? with
    | none => scan.closeAll?
    | some first => finish? fuel (← scan.lexeme? first)

end Scan

/-- The lexemes of a text, absent if it holds a fault. Each lexeme takes at least
one character, which bounds the number of steps. -/
def Lexeme.ofChars? (text : List Char) : Option (List Lexeme) :=
  if text.all isPermitted then
    let text := uniformBreaks text
    (Scan.finish? (text.length + 1) { cursor := .start text }).map (·.lexemes.toList)
  else none

end SlotFilling.Yaml
