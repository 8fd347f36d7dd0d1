import SlotFilling.Number.Decimal
import SlotFilling.Text.DecimalDigit

/-!
# Word classes that need no lexicon

Email addresses, numbers and days of a month are recognised by their form. A
number may use the decimal digits of any script.
-/
namespace SlotFilling

/-- The characters of an email address before its at sign. -/
def isMailboxCharacter (character : Char) : Bool :=
  character.isAlphanum || "._%+-".toList.contains character

/-- The characters of the host of an email address. -/
def isHostCharacter (character : Char) : Bool :=
  character.isAlphanum || character == '.' || character == '-'

/-- A host, a dot, and at least two letters after the last dot. -/
def isDomain (text : List Char) : Bool :=
  let ending := text.reverse.takeWhile (· ≠ '.')
  match text.reverse.dropWhile (· ≠ '.') with
  | [] => false
  | _ :: host =>
    !host.isEmpty && host.all isHostCharacter && decide (2 ≤ ending.length) &&
      ending.all Char.isAlpha

/-- A mailbox name, an at sign and a domain. -/
def isEmail (word : List Char) : Bool :=
  let mailbox := word.takeWhile (· ≠ '@')
  match word.dropWhile (· ≠ '@') with
  | [] => false
  | _ :: domain => !mailbox.isEmpty && mailbox.all isMailboxCharacter && isDomain domain

def isDigits (text : List Char) : Bool := !text.isEmpty && text.all Text.isDecimalDigit

/-- Digits, and possibly a point and more digits. -/
def isUnsignedNumber (text : List Char) : Bool :=
  isDigits (text.takeWhile (· ≠ '.')) &&
    match text.dropWhile (· ≠ '.') with
    | [] => true
    | _ :: fraction => isDigits fraction

/-- A number with at most one sign in front. -/
def isNumber (word : List Char) : Bool :=
  match word with
  | [] => false
  | first :: rest =>
    if first == '+' || first == '-' then isUnsignedNumber rest else isUnsignedNumber word

def ordinalEndings : List (List Char) :=
  [[], ['s', 't'], ['n', 'd'], ['r', 'd'], ['t', 'h']]

/-- The day that a word of one or two ASCII digits names, with or without the
ending of an ordinal. -/
def dayNumber? (word : String) : Option Nat :=
  let digits := word.toList.takeWhile Char.isDigit
  if (digits.length = 1 ∨ digits.length = 2) ∧
      word.toList.dropWhile Char.isDigit ∈ ordinalEndings then
    some (digitsValue digits)
  else none

end SlotFilling
