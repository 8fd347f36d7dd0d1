import SlotFilling.Number.Binary64
import SlotFilling.Text.Blank

/-!
# Decimal numbers and how they are read

A decimal is a whole number of some power of ten. Reading a decimal as a binary64
number rounds once, to the nearest, whatever the number of digits. Exponents far
beyond the range of binary64 are answered without computing the power.
-/
namespace SlotFilling

/-- The number `digits` times ten to the power `exponent`. -/
structure Decimal where
  digits : Nat
  exponent : Int
  deriving DecidableEq, Repr

/-- The digits of a natural number, most significant first. -/
def decimalDigits (number : Nat) : List Char := Nat.toDigits 10 number

def digitCount (number : Nat) : Nat := (decimalDigits number).length

/-- The value of a row of ASCII digits. -/
def digitsValue (digits : List Char) : Nat :=
  digits.foldl (fun value digit => 10 * value + (digit.toNat - '0'.toNat)) 0

namespace Decimal

/-- The magnitude bits of the nearest binary64 number. -/
def nearestMagnitude (decimal : Decimal) : Nat :=
  let position := decimal.exponent + digitCount decimal.digits
  if decimal.digits = 0 ∨ position < -330 then 0
  else if 310 < position then Binary64.infinite
  else
    let numerator := decimal.digits * Nat.pow 10 decimal.exponent.toNat
    let denominator := Nat.pow 10 (-decimal.exponent).toNat
    Binary64.magnitudeOf (Binary64.roundUnits (numerator * Binary64.one) denominator)

/-- The same value without zeros at the end of the digits. -/
def stripped (decimal : Decimal) : Decimal :=
  let written := decimalDigits decimal.digits
  let kept := Text.dropTrailing (· == '0') written
  ⟨digitsValue kept, decimal.exponent + (written.length - kept.length : Nat)⟩

/-- A sign in front of a number, if there is one. -/
def takeSign : List Char → Bool × List Char
  | '-' :: rest => (true, rest)
  | '+' :: rest => (false, rest)
  | text => (false, text)

/-- The size of an exponent. Once it has reached 2¹⁶ its further digits are passed
over, as only texts of that length could tell the difference. -/
def exponentSize (digits : List Char) : Nat :=
  digits.foldl
    (fun size digit => if size < 0x10000 then 10 * size + (digit.toNat - '0'.toNat) else size) 0

/-- What may follow the digits: nothing, or an exponent mark and a whole number. -/
def readExponent? : List Char → Option Int
  | [] => some 0
  | mark :: rest =>
    if mark = 'e' ∨ mark = 'E' then
      let (negative, digits) := takeSign rest
      if digits ≠ [] ∧ digits.all Char.isDigit then
        some (if negative then -(exponentSize digits : Int) else exponentSize digits)
      else none
    else none

/-- Digits with an optional point, at least one digit on some side of it, and an
optional exponent. -/
def readUnsigned? (text : List Char) : Option Decimal :=
  let whole := text.takeWhile Char.isDigit
  let rest := text.dropWhile Char.isDigit
  let (fraction, rest) := match rest with
    | '.' :: after => (after.takeWhile Char.isDigit, after.dropWhile Char.isDigit)
    | _ => ([], rest)
  if whole = [] ∧ fraction = [] then none
  else (readExponent? rest).map fun exponent =>
    ⟨digitsValue (whole ++ fraction), exponent - fraction.length⟩

end Decimal

/-- Read a finite number: an optional sign and a decimal. -/
def Binary64.read? (text : List Char) : Option Binary64 :=
  let (negative, rest) := Decimal.takeSign text
  (Decimal.readUnsigned? rest).bind fun decimal =>
    let magnitude := decimal.nearestMagnitude
    if magnitude < Binary64.infinite then some (Binary64.ofMagnitude negative magnitude) else none

end SlotFilling
