import SlotFilling.Number.Layout

/-!
# JSON values and how they are written

A value is written either without any spaces, or over several lines with two
spaces of indentation for each level. Strings escape quotes, backslashes and
control characters only, so any other character stands for itself.
-/
namespace SlotFilling

inductive Json where
  | null
  | bool (value : Bool)
  | natural (value : Nat)
  | number (value : Binary64)
  | text (value : String)
  | list (items : List Json)
  | object (members : List (String × Json))

namespace Json

def ofOption {α : Type} (encode : α → Json) : Option α → Json
  | some value => encode value
  | none => .null

/-- The hexadecimal digits of a control character, with zeros in front. -/
def controlEscape (character : Char) : List Char :=
  let digits := Nat.toDigits 16 character.toNat
  ['\\', 'u'] ++ List.replicate (4 - digits.length) '0' ++ digits

/-- One character as it stands inside a string. -/
def escaped (character : Char) : List Char :=
  if character = '"' then ['\\', '"']
  else if character = '\\' then ['\\', '\\']
  else if character = '\x08' then ['\\', 'b']
  else if character = '\x0c' then ['\\', 'f']
  else if character = '\n' then ['\\', 'n']
  else if character = '\r' then ['\\', 'r']
  else if character = '\t' then ['\\', 't']
  else if character.toNat < 0x20 then controlEscape character
  else [character]

def textChars (text : String) : List Char :=
  '"' :: text.toList.flatMap escaped ++ ['"']

mutual

/-- A value without spaces. -/
def compactChars : Json → List Char
  | null => "null".toList
  | bool value => (if value then "true" else "false").toList
  | natural value => decimalDigits value
  | number value => value.dataText.toList
  | text value => textChars value
  | list items => '[' :: compactItems items ++ [']']
  | object members => '\x7b' :: compactMembers members ++ ['\x7d']

def compactItems : List Json → List Char
  | [] => []
  | [item] => compactChars item
  | item :: rest => compactChars item ++ ',' :: compactItems rest

def compactMembers : List (String × Json) → List Char
  | [] => []
  | [(name, value)] => textChars name ++ ':' :: compactChars value
  | (name, value) :: rest =>
    textChars name ++ ':' :: compactChars value ++ ',' :: compactMembers rest

end

/-- The start of a new line at some level. -/
def lineStart (level : Nat) : List Char := '\n' :: List.replicate (2 * level) ' '

mutual

/-- A value over several lines, where `level` is the level of the line it starts on. -/
def prettyChars (level : Nat) : Json → List Char
  | list [] => ['[', ']']
  | list (first :: rest) =>
    '[' :: prettyItems (level + 1) (first :: rest) ++ lineStart level ++ [']']
  | object [] => ['\x7b', '\x7d']
  | object (first :: rest) =>
    '\x7b' :: prettyMembers (level + 1) (first :: rest) ++ lineStart level ++ ['\x7d']
  | null => "null".toList
  | bool value => (if value then "true" else "false").toList
  | natural value => decimalDigits value
  | number value => value.dataText.toList
  | text value => textChars value

def prettyItems (level : Nat) : List Json → List Char
  | [] => []
  | [item] => lineStart level ++ prettyChars level item
  | item :: rest => lineStart level ++ prettyChars level item ++ ',' :: prettyItems level rest

def prettyMembers (level : Nat) : List (String × Json) → List Char
  | [] => []
  | [(name, value)] =>
    lineStart level ++ textChars name ++ ':' :: ' ' :: prettyChars level value
  | (name, value) :: rest =>
    lineStart level ++ textChars name ++ ':' :: ' ' :: prettyChars level value ++
      ',' :: prettyMembers level rest

end

def compact (json : Json) : String := String.ofList json.compactChars

def pretty (json : Json) : String := String.ofList (json.prettyChars 0)

end Json

end SlotFilling
