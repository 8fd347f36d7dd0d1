import SlotFilling.Number.Decimal

/-!
# Reading JSON numbers

A number without fraction and exponent is an integer as long as it fits into 64
bits. Every other number is read as binary64 in steps that each round: the
digits that fit into 64 bits give a whole number, which is then scaled by a power
of ten. A number that grows beyond the finite range has no value.
-/
namespace SlotFilling

namespace Binary64

def powerOfTen (exponent : Nat) : Binary64 := nearest false (Nat.pow 10 exponent) 1

/-- The rounded product of two nonnegative finite numbers. -/
def times (left right : Binary64) : Binary64 :=
  nearest false (left.units * right.units) (one * one)

/-- The rounded quotient of two positive finite numbers. -/
def dividedBy (left right : Binary64) : Binary64 := nearest false left.units right.units

/-- A whole number times a power of ten, rounded at each step; absent if it is
not finite. Powers of ten below the least finite one are applied in two steps. -/
def scaled? (whole : Nat) (exponent : Int) : Option Binary64 :=
  let start := nearest false whole 1
  let result :=
    if whole = 0 then start
    else if 308 < exponent then ofMagnitude false infinite
    else if 0 ≤ exponent then start.times (powerOfTen exponent.toNat)
    else if -308 ≤ exponent then start.dividedBy (powerOfTen (-exponent).toNat)
    else if -616 ≤ exponent then
      (start.dividedBy (powerOfTen 308)).dividedBy (powerOfTen (-exponent - 308).toNat)
    else ofMagnitude false 0
  if result.isFinite then some result else none

def withSign (negative : Bool) (number : Binary64) : Binary64 :=
  ofMagnitude negative number.magnitude

end Binary64

namespace Json

/-- The text of a number in parts; the exponent counts only where one is written. -/
structure NumberText where
  negative : Bool
  whole : List Char
  fraction : Option (List Char)
  exponent : Option Int

/-- The value of a number. -/
inductive NumberValue where
  | integer (value : Int)
  | number (value : Binary64)
  | outOfRange

/-- Append digits to a whole number as long as it stays below 2⁶⁴. The result is
the number and how many digits were left out. -/
def appendDigits (value : Nat) : List Char → Nat × Nat
  | [] => (value, 0)
  | digit :: rest =>
    let next := 10 * value + (digit.toNat - '0'.toNat)
    if next < 0x10000000000000000 then appendDigits next rest else (value, rest.length + 1)

namespace NumberText

/-- The value read in rounding steps. Digits left out before the point still
count as places. -/
def rounded (text : NumberText) : NumberValue :=
  let fraction := text.fraction.getD []
  let (whole, wholeLeftOut) := appendDigits 0 text.whole
  let (digits, fractionLeftOut) := appendDigits whole fraction
  let places : Int := (wholeLeftOut : Int) - (fraction.length - fractionLeftOut : Nat)
  match Binary64.scaled? digits (places + text.exponent.getD 0) with
  | some number => .number (number.withSign text.negative)
  | none => .outOfRange

def value (text : NumberText) : NumberValue :=
  if text.fraction.isNone ∧ text.exponent.isNone then
    let whole := digitsValue text.whole
    if text.negative then
      if 0 < whole ∧ whole ≤ 0x8000000000000000 then .integer (-(whole : Int)) else text.rounded
    else if whole < 0x10000000000000000 then .integer whole
    else text.rounded
  else text.rounded

end NumberText

/-- Digits at the start, at least one. -/
def readDigits? (text : List Char) : Option (List Char × List Char) :=
  let digits := text.takeWhile Char.isDigit
  if digits = [] then none else some (digits, text.dropWhile Char.isDigit)

/-- The part before the point: a single zero, or digits that start with another one. -/
def readWhole? (text : List Char) : Option (List Char × List Char) :=
  (readDigits? text).bind fun (digits, rest) =>
    if digits.head? = some '0' ∧ digits.length ≠ 1 then none else some (digits, rest)

def readFraction? : List Char → Option (Option (List Char) × List Char)
  | '.' :: rest => (readDigits? rest).map fun (digits, rest) => (some digits, rest)
  | text => some (none, text)

def readExponent? : List Char → Option (Option Int × List Char)
  | [] => some (none, [])
  | mark :: rest =>
    if mark = 'e' ∨ mark = 'E' then
      let (negative, rest) := Decimal.takeSign rest
      (readDigits? rest).map fun (digits, rest) =>
        (some (if negative then -(digitsValue digits : Int) else digitsValue digits), rest)
    else some (none, mark :: rest)

/-- Read a number at the start of a text. -/
def readNumber? (text : List Char) : Option (NumberText × List Char) := do
  let (negative, rest) := match text with
    | '-' :: rest => (true, rest)
    | _ => (false, text)
  let (whole, rest) ← readWhole? rest
  let (fraction, rest) ← readFraction? rest
  let (exponent, rest) ← readExponent? rest
  return (⟨negative, whole, fraction, exponent⟩, rest)

end Json

end SlotFilling
