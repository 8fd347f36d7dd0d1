import SlotFilling.Json.Number

/-!
# Reading JSON text

Reading never fails as a whole. It yields a tree of everything up to the first
place that is not JSON, and marks that place as broken, so that whoever goes
through the tree in the order of the text meets the parts before it first. Two
kinds of leaves can be passed over but hold nothing: numbers out of range and
strings with half of a surrogate pair.
-/
namespace SlotFilling.Json

/-- What was read. The name of a member is absent if it holds half of a surrogate
pair, or if the text is broken there. -/
inductive Parsed where
  | null
  | bool (value : Bool)
  | integer (value : Int)
  | number (value : Binary64)
  | text (value : String)
  | list (items : List Parsed)
  | object (members : List (Option String × Parsed))
  | unreadable
  | broken

/-- A part that was read, and the text after it unless the part ends in a broken place. -/
structure Part (α : Type) where
  value : α
  rest : Option (List Char)

def isSpace (character : Char) : Bool := [' ', '\n', '\t', '\r'].contains character

def skipSpaces (text : List Char) : List Char := text.dropWhile isSpace

/-- The value of a hexadecimal digit. -/
def hexDigit? (character : Char) : Option Nat :=
  let point := character.toNat
  if character.isDigit then some (point - '0'.toNat)
  else if 'a' ≤ character ∧ character ≤ 'f' then some (point - 'a'.toNat + 10)
  else if 'A' ≤ character ∧ character ≤ 'F' then some (point - 'A'.toNat + 10)
  else none

/-- The value of a row of hexadecimal digits. -/
def hexValue? (digits : List Char) : Option Nat :=
  digits.foldlM (fun value digit => (hexDigit? digit).map (16 * value + ·)) 0

def simpleEscape? : Char → Option Char
  | '"' => some '"'
  | '\\' => some '\\'
  | '/' => some '/'
  | 'b' => some '\x08'
  | 'f' => some '\x0c'
  | 'n' => some '\n'
  | 'r' => some '\r'
  | 't' => some '\t'
  | _ => none

/-- Read a string after its opening quote, as code points in which an escaped
surrogate stands on its own. -/
def readPoints? : List Char → Option (List Nat × List Char)
  | [] => none
  | '"' :: rest => some ([], rest)
  | '\\' :: 'u' :: a :: b :: c :: d :: rest => do
    let point ← hexValue? [a, b, c, d]
    let (points, rest) ← readPoints? rest
    return (point :: points, rest)
  | '\\' :: escape :: rest => do
    let character ← simpleEscape? escape
    let (points, rest) ← readPoints? rest
    return (character.toNat :: points, rest)
  | character :: rest =>
    if character.toNat < 0x20 then none
    else (readPoints? rest).map fun (points, rest) => (character.toNat :: points, rest)

def isHighSurrogate (point : Nat) : Bool := decide (0xD800 ≤ point) && decide (point < 0xDC00)

def isLowSurrogate (point : Nat) : Bool := decide (0xDC00 ≤ point) && decide (point < 0xE000)

/-- Join surrogate pairs; absent if one half stands without the other. -/
def joinPoints? : List Nat → Option (List Char)
  | [] => some []
  | [point] =>
    if isHighSurrogate point || isLowSurrogate point then none else some [Char.ofNat point]
  | point :: next :: rest =>
    if isHighSurrogate point then
      if isLowSurrogate next then
        (joinPoints? rest).map
          (Char.ofNat (0x10000 + (point - 0xD800) * 0x400 + (next - 0xDC00)) :: ·)
      else none
    else if isLowSurrogate point then none
    else (joinPoints? (next :: rest)).map (Char.ofNat point :: ·)

/-- Read a string after its opening quote; absent if the text is broken there. -/
def readText? (text : List Char) : Option (Option String × List Char) :=
  (readPoints? text).map fun (points, rest) => ((joinPoints? points).map String.ofList, rest)

/-- A word such as null that has to stand in full. -/
def readWord (word : List Char) (value : Parsed) (text : List Char) : Part Parsed :=
  if word.isPrefixOf text then ⟨value, some (text.drop word.length)⟩ else ⟨.broken, none⟩

def readNumber (text : List Char) : Part Parsed :=
  match readNumber? text with
  | none => ⟨.broken, none⟩
  | some (number, rest) =>
    match number.value with
    | .integer value => ⟨.integer value, some rest⟩
    | .number value => ⟨.number value, some rest⟩
    | .outOfRange => ⟨.unreadable, some rest⟩

def readString (text : List Char) : Part Parsed :=
  match readText? text with
  | none => ⟨.broken, none⟩
  | some (some value, rest) => ⟨.text value, some rest⟩
  | some (none, rest) => ⟨.unreadable, some rest⟩

mutual

/-- Read a value after any spaces. -/
def readValue : Nat → List Char → Part Parsed
  | 0, _ => ⟨.broken, none⟩
  | fuel + 1, text =>
    match skipSpaces text with
    | [] => ⟨.broken, none⟩
    | 'n' :: rest => readWord "null".toList .null ('n' :: rest)
    | 't' :: rest => readWord "true".toList (.bool true) ('t' :: rest)
    | 'f' :: rest => readWord "false".toList (.bool false) ('f' :: rest)
    | '"' :: rest => readString rest
    | '[' :: rest =>
      match skipSpaces rest with
      | ']' :: after => ⟨.list [], some after⟩
      | inside =>
        let items := readItems fuel inside
        ⟨.list items.value, items.rest⟩
    | '\x7b' :: rest =>
      match skipSpaces rest with
      | '\x7d' :: after => ⟨.object [], some after⟩
      | inside =>
        let members := readMembers fuel inside
        ⟨.object members.value, members.rest⟩
    | start => readNumber start

/-- Read the items of a list up to and with its closing bracket. -/
def readItems : Nat → List Char → Part (List Parsed)
  | 0, _ => ⟨[.broken], none⟩
  | fuel + 1, text =>
    let item := readValue fuel text
    match item.rest.map skipSpaces with
    | none => ⟨[item.value], none⟩
    | some (',' :: rest) =>
      let others := readItems fuel rest
      ⟨item.value :: others.value, others.rest⟩
    | some (']' :: rest) => ⟨[item.value], some rest⟩
    | some _ => ⟨[item.value, .broken], none⟩

/-- Read the members of an object up to and with its closing brace. -/
def readMembers : Nat → List Char → Part (List (Option String × Parsed))
  | 0, _ => ⟨[(none, .broken)], none⟩
  | fuel + 1, text =>
    match skipSpaces text with
    | '"' :: start =>
      match readText? start with
      | none => ⟨[(none, .broken)], none⟩
      | some (name, after) =>
        match skipSpaces after with
        | ':' :: valueText =>
          let value := readValue fuel valueText
          match value.rest.map skipSpaces with
          | none => ⟨[(name, value.value)], none⟩
          | some (',' :: rest) =>
            let others := readMembers fuel rest
            ⟨(name, value.value) :: others.value, others.rest⟩
          | some ('\x7d' :: rest) => ⟨[(name, value.value)], some rest⟩
          | some _ => ⟨[(name, value.value), (none, .broken)], none⟩
        | _ => ⟨[(name, .broken)], none⟩
    | _ => ⟨[(none, .broken)], none⟩

end

/-- A text that was read: its value, and whether nothing but spaces follows it. -/
structure Document where
  root : Parsed
  complete : Bool

/-- Read a whole text. Every value takes at least one character, so the length of
the text bounds the steps. -/
def Document.ofChars (text : List Char) : Document :=
  let part := readValue (2 * text.length + 2) text
  ⟨part.value, part.rest.any fun rest => (skipSpaces rest).isEmpty⟩

mutual

/-- Whether a part of the tree has no broken place. -/
def Parsed.isWhole : Parsed → Bool
  | .broken => false
  | .list items => allWhole items
  | .object members => allMembersWhole members
  | _ => true

def allWhole : List Parsed → Bool
  | [] => true
  | item :: rest => item.isWhole && allWhole rest

def allMembersWhole : List (Option String × Parsed) → Bool
  | [] => true
  | (_, value) :: rest => value.isWhole && allMembersWhole rest

end

end SlotFilling.Json
