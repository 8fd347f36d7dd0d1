import SlotFilling.Json.Reader

/-!
# JSON text given as bytes

Strings that are passed over need not be UTF-8, everything else has to be. So a byte
that belongs to no character has the same place as half of a surrogate pair that is
written as an escape, and it is read as one.
-/
namespace SlotFilling.Json

/-- What a byte that belongs to no character is read as. The replacement character in
front is no part of the syntax. It ends an escape that has begun, and it keeps the
half from joining the half before it. -/
def strayByte : List Char := ['\ufffd', '\\', 'u', 'd', 'c', '0', '0']

/-- The character that some bytes start with. A character has at most four bytes. -/
def firstChar? (bytes : List UInt8) : Option Char :=
  (bytes.take 4).toByteArray.utf8DecodeChar? 0

/-- The characters of some bytes, the first of which belong to a character that was
read before. -/
def charsAfter : Nat → List UInt8 → List Char
  | _, [] => []
  | taken + 1, _ :: rest => charsAfter taken rest
  | 0, byte :: rest =>
    match firstChar? (byte :: rest) with
    | some character => character :: charsAfter (character.utf8Size - 1) rest
    | none => strayByte ++ charsAfter 0 rest

/-- Read a whole text that is given as bytes. -/
def Document.ofBytes (bytes : List UInt8) : Document := .ofChars (charsAfter 0 bytes)

end SlotFilling.Json
