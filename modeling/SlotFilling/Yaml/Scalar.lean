import SlotFilling.Json.Reader
import SlotFilling.Yaml.Cursor

/-!
# Scalars

A scalar may go over several lines. One line end between two lines becomes a
space, further ones are kept; in literal blocks all are kept. Each reader takes a
cursor at the first character of the scalar and returns the text and the place
after it, or nothing if the scalar is not well formed.
-/
namespace SlotFilling.Yaml

/-- What stands between two parts of a scalar: spaces within a line, or, once
folded, the first line end and the further ones. -/
structure Gap where
  spaces : List Char := []
  folded : Bool := false
  first : Option Char := none
  others : List Char := []

namespace Gap

/-- What a gap contributes to the text. A single line feed becomes a space. -/
def text (gap : Gap) : List Char :=
  if gap.folded then
    match gap.first with
    | some '\n' => if gap.others = [] then [' '] else gap.others
    | some lineEnd => lineEnd :: gap.others
    | none => gap.others
  else gap.spaces

/-- One more character of the gap. -/
def add (gap : Gap) (character : Char) : Gap :=
  if isBreak character then
    if gap.folded then { gap with others := gap.others ++ [character] }
    else { folded := true, first := some character }
  else if gap.folded then gap
  else { gap with spaces := gap.spaces ++ [character] }

end Gap

/-- Read spaces, tabs and line ends. On the lines after the first, a tab before
column `indent` is refused. The text that is left bounds the number of steps. -/
def readGap? (indent : Nat) : List Char → Gap → Cursor → Option (Gap × Cursor)
  | [], gap, cursor => some (gap, cursor)
  | _ :: bound, gap, cursor =>
    match cursor.ahead 0 with
    | none => some (gap, cursor)
    | some character =>
      if !(isSpaceOrTab character || isBreak character) then some (gap, cursor)
      else if gap.folded && character == '\t' && decide (cursor.column < indent) then none
      else readGap? indent bound (gap.add character) cursor.step

/-! ### Plain scalars -/

/-- Indicators that end a plain scalar within brackets or braces. -/
def isFlowIndicator (character : Char) : Bool := [',', '[', ']', '\x7b', '\x7d'].contains character

/-- The characters of a plain scalar up to the next space or line end. -/
def plainRun? (inFlow : Bool) : List Char → Option (List Char)
  | [] => some []
  | character :: rest =>
    if endsWord (some character) then some []
    else if inFlow && character == ':' &&
        rest.head?.any (fun next => next == '?' || isFlowIndicator next) then none
    else if (character == ':' && endsWord rest.head?) || (inFlow && isFlowIndicator character) then
      some []
    else (plainRun? inFlow rest).map (character :: ·)

/-- A scalar that was read. -/
structure ReadScalar where
  text : List Char
  after : Cursor
  /-- Whether a line end was passed after the last character of the text. -/
  endsLine : Bool := false

/-- Put some text before a scalar that was read. -/
def ReadScalar.behind (text : List Char) (read : ReadScalar) : ReadScalar :=
  { read with text := text ++ read.text }

/-- Read the part of a plain scalar that follows a gap. Each step but the last takes
some text, so the text that is left bounds their number. -/
def readPlainFrom? (inFlow : Bool) (indent : Nat) : List Char → Gap → Cursor → Option ReadScalar
  | [], gap, cursor => some ⟨[], cursor, gap.folded⟩
  | _ :: bound, gap, cursor =>
    -- A comment needs a space before it, and here one has just been read.
    if cursor.atDocumentMark || cursor.ahead 0 == some '#' then some ⟨[], cursor, gap.folded⟩
    else do
      let run ← plainRun? inFlow cursor.rest
      let after := cursor.skip run.length
      let (text, gap) := if run = [] then ([], gap) else (gap.text ++ run, {})
      if after.rest = [] || !endsWord (after.ahead 0) then return ⟨text, after, gap.folded⟩
      else
        let (gap, next) ← readGap? indent after.rest gap after
        -- The gap that was read belongs to the scalar only if a deeper line follows.
        if !inFlow && decide (next.column < indent) then return ⟨text, next, gap.folded⟩
        else return (← readPlainFrom? inFlow indent bound gap next).behind text

def readPlain? (inFlow : Bool) (indent : Nat) (cursor : Cursor) : Option ReadScalar :=
  readPlainFrom? inFlow indent cursor.rest {} cursor

/-! ### Quoted scalars -/

/-- Characters of a quoted scalar up to the next space, line end or closing quote, the
number of characters that write them, and whether an escaped line end stopped them. -/
structure QuotedRun where
  text : List Char := []
  length : Nat := 0
  escapedBreak : Bool := false

/-- Put a character that takes some place before a run. -/
def QuotedRun.cons (character : Char) (place : Nat) (run : QuotedRun) : QuotedRun :=
  { run with text := character :: run.text, length := place + run.length }

def singleRun : List Char → QuotedRun
  | [] => {}
  | '\'' :: '\'' :: rest => (singleRun rest).cons '\'' 2
  | '\'' :: _ => {}
  | character :: rest =>
    if endsWord (some character) then {} else (singleRun rest).cons character 1

/-- The characters that a backslash and one more character stand for. -/
def simpleEscape? (character : Char) : Option Char :=
  match character with
  | '0' => some '\x00'
  | 'a' => some '\x07'
  | 'b' => some '\x08'
  | 't' => some '\t'
  | '\t' => some '\t'
  | 'n' => some '\n'
  | 'v' => some '\x0b'
  | 'f' => some '\x0c'
  | 'r' => some '\r'
  | 'e' => some '\x1b'
  | ' ' => some ' '
  | '"' => some '"'
  | '/' => some '/'
  | '\\' => some '\\'
  | 'N' => some '\u0085'
  | '_' => some '\u00a0'
  | 'L' => some '\u2028'
  | 'P' => some '\u2029'
  | _ => none

/-- The character that hexadecimal digits stand for. -/
def hexChar? (digits : List Char) : Option Char := do
  let point ← Json.hexValue? digits
  if point < 0xD800 ∨ (0xE000 ≤ point ∧ point ≤ 0x10FFFF) then some (Char.ofNat point) else none

def doubleRun? : List Char → Option QuotedRun
  | [] => some {}
  | '"' :: _ => some {}
  | '\\' :: 'x' :: a :: b :: rest => do
    return (← doubleRun? rest).cons (← hexChar? [a, b]) 4
  | '\\' :: 'u' :: a :: b :: c :: d :: rest => do
    return (← doubleRun? rest).cons (← hexChar? [a, b, c, d]) 6
  | '\\' :: 'U' :: a :: b :: c :: d :: e :: f :: g :: h :: rest => do
    return (← doubleRun? rest).cons (← hexChar? [a, b, c, d, e, f, g, h]) 10
  | '\\' :: escape :: rest =>
    if isBreak escape then some { length := 2, escapedBreak := true }
    else do return (← doubleRun? rest).cons (← simpleEscape? escape) 2
  | character :: rest =>
    if endsWord (some character) then some {}
    else if character == '\\' then none
    else do return (← doubleRun? rest).cons character 1

/-- Read a quoted scalar from some place within the quotes. -/
def readQuotedFrom? (double : Bool) : List Char → Cursor → Option ReadScalar
  | [], _ => none
  | _ :: bound, cursor =>
    if cursor.atDocumentMark || cursor.rest.isEmpty then none
    else do
      let run ← if double then doubleRun? cursor.rest else some (singleRun cursor.rest)
      let after := cursor.skip run.length
      if after.ahead 0 == some (if double then '"' else '\'') then
        return ⟨run.text, after.step, false⟩
      else
        -- An escaped line end starts a gap of its own and adds nothing to the text.
        let (gap, next) ← readGap? 0 after.rest { folded := run.escapedBreak } after
        return (← readQuotedFrom? double bound next).behind (run.text ++ gap.text)

/-- Read a quoted scalar; the cursor is at the opening quote. -/
def readQuoted? (double : Bool) (cursor : Cursor) : Option ReadScalar :=
  readQuotedFrom? double cursor.rest cursor.step

/-! ### Block scalars -/

/-- What becomes of the line ends at the end of a block scalar. -/
inductive Chomping where
  | strip
  | clip
  | keep
  deriving DecidableEq, Repr

/-- The chomping and the indentation that the first line of a block scalar gives. -/
structure BlockHeader where
  chomping : Chomping := .clip
  increment : Option Nat := none

def chomping? : Option Char → Option Chomping
  | some '+' => some .keep
  | some '-' => some .strip
  | _ => none

/-- The digit that gives an indentation; a zero is refused. -/
def increment? : Option Char → Option (Option Nat)
  | some digit =>
    if digit == '0' then none
    else if digit.isDigit then some (some (digit.toNat - '0'.toNat))
    else some none
  | none => some none

/-- Read what follows the indicator of a block scalar: at most one chomping sign
and one digit, in any order. -/
def readHeader? (cursor : Cursor) : Option (BlockHeader × Cursor) :=
  match chomping? (cursor.ahead 0) with
  | some chomping =>
    let cursor := cursor.step
    (increment? (cursor.ahead 0)).map fun increment =>
      (⟨chomping, increment⟩, if increment.isSome then cursor.step else cursor)
  | none =>
    (increment? (cursor.ahead 0)).map fun increment =>
      let cursor := if increment.isSome then cursor.step else cursor
      match increment.bind fun _ => chomping? (cursor.ahead 0) with
      | some chomping => (⟨chomping, increment⟩, cursor.step)
      | none => (⟨.clip, increment⟩, cursor)

/-- Empty lines of a block scalar: the deepest column seen, the line ends, and the
place of the first character that is no indentation. -/
structure EmptyLines where
  deepest : Nat
  breaks : List Char
  after : Cursor

def readEmptyLines? (indent : Option Nat) : List Char → EmptyLines → Option EmptyLines
  | [], lines => some lines
  | _ :: bound, lines =>
    let spaces := (lines.after.rest.takeWhile (· == ' ')).length
    let count := match indent with
      | some indent => min spaces (indent - lines.after.column)
      | none => spaces
    let cursor := lines.after.skip count
    let deepest := max lines.deepest cursor.column
    let indenting := indent.all fun indent => decide (cursor.column < indent)
    match cursor.ahead 0 with
    | some character =>
      if indenting && character == '\t' then none
      else if isBreak character then
        readEmptyLines? indent bound ⟨deepest, lines.breaks ++ [character], cursor.step⟩
      else some ⟨deepest, lines.breaks, cursor⟩
    | none => some ⟨deepest, lines.breaks, cursor⟩

/-- The line ends before a line of a block scalar: the one of the last line with
text, those of the empty lines after it, and whether that last line starts with a
blank. -/
structure LineEnds where
  last : Option Char := none
  others : List Char := []
  startsBlank : Bool := false

/-- What the line ends before a new line contribute to the text. In folded blocks a
line feed becomes a space where neither line starts with a blank. -/
def LineEnds.text (ends : LineEnds) (literal nextBlank : Bool) : List Char :=
  if !literal && ends.last == some '\n' && !ends.startsBlank && !nextBlank then
    if ends.others = [] then [' '] else ends.others
  else ends.last.toList ++ ends.others

/-- The lines of a block scalar up to its last text, and the line ends behind it. -/
structure ReadLines where
  text : List Char
  ends : LineEnds
  after : Cursor

/-- Read the lines that stand behind some line ends. Each takes some text, so the
text that is left bounds their number. -/
def readLines? (literal : Bool) (indent : Nat) :
    List Char → LineEnds → Cursor → Option ReadLines
  | [], ends, cursor => some ⟨[], ends, cursor⟩
  | _ :: bound, ends, cursor =>
    if cursor.column != indent || cursor.rest.isEmpty then some ⟨[], ends, cursor⟩
    else do
      let blank := (cursor.ahead 0).any isSpaceOrTab
      let line := cursor.rest.takeWhile (!isBreak ·)
      let after := cursor.skip line.length
      let empty ← readEmptyLines? (some indent) after.rest ⟨0, [], after.step⟩
      let later ← readLines? literal indent bound ⟨after.ahead 0, empty.breaks, blank⟩ empty.after
      return { later with text := ends.text literal blank ++ line ++ later.text }

/-- Read a block scalar; the cursor is at its indicator, and `parent` is the
indentation around it, absent at the top. -/
def readBlock? (literal : Bool) (parent : Option Nat) (cursor : Cursor) : Option ReadScalar := do
  let (header, cursor) ← readHeader? cursor.step
  let cursor ← cursor.toLineEnd?
  let given := header.increment.map (parent.getD 0 + ·)
  let empty ← readEmptyLines? given cursor.rest ⟨0, [], cursor.step⟩
  let least := match parent with
    | some parent => parent + 1
    | none => 1
  let indent := given.getD (max empty.deepest least)
  let lines ← readLines? literal indent cursor.rest { others := empty.breaks } empty.after
  let tail := match header.chomping with
    | .strip => []
    | .clip => lines.ends.last.toList
    | .keep => lines.ends.last.toList ++ lines.ends.others
  return ⟨lines.text ++ tail, lines.after, false⟩

end SlotFilling.Yaml
