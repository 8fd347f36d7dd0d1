import SlotFilling.Number.Shortest

/-!
# Number layouts

Two layouts show the shortest digits. The plain layout never uses an exponent;
of two equally near decimals it shows the upper one. The data layout always
shows a point or an exponent, turns to the exponent for magnitudes from 10¹⁶ on
and below 10⁻⁵, and of two equally near decimals shows the one with an even
last digit.
-/
namespace SlotFilling

/-- Positional notation, with a point only where the exponent is negative. -/
def Decimal.positional (decimal : Decimal) : List Char :=
  let digits := decimalDigits decimal.digits
  if 0 ≤ decimal.exponent then digits ++ List.replicate decimal.exponent.toNat '0'
  else
    let places := (-decimal.exponent).toNat
    if places < digits.length then
      digits.take (digits.length - places) ++ '.' :: digits.drop (digits.length - places)
    else ['0', '.'] ++ List.replicate (places - digits.length) '0' ++ digits

/-- One digit before the point and an exponent with its sign. -/
def Decimal.scientific (decimal : Decimal) : List Char :=
  let digits := decimalDigits decimal.digits
  let exponent := decimal.exponent + digits.length - 1
  let mantissa := if digits.length ≤ 1 then digits else digits.take 1 ++ '.' :: digits.drop 1
  mantissa ++ 'e' :: (if exponent < 0 then '-' else '+') :: decimalDigits exponent.natAbs

namespace Binary64

def signText (number : Binary64) : List Char := if number.negative then ['-'] else []

/-- The plain layout: whole numbers below 10¹⁵ as integers without a sign for
zero, all others by their shortest digits, never with an exponent. -/
def plainText (number : Binary64) : String :=
  if number.isNaN then "NaN"
  else if !number.isFinite then String.ofList (number.signText ++ "inf".toList)
  else if number.isWhole && decide (number.units < 1000000000000000 * one) then
    let sign := if number.isZero then [] else number.signText
    String.ofList (sign ++ decimalDigits (number.units / one))
  else String.ofList (number.signText ++ (number.shortest .upper).positional)

/-- The data layout; a number that is not finite is null. -/
def dataText (number : Binary64) : String :=
  if !number.isFinite then "null"
  else if number.isZero then String.ofList (number.signText ++ "0.0".toList)
  else
    let decimal := number.shortest .even
    let leading := decimal.exponent + digitCount decimal.digits - 1
    let body :=
      if leading < -5 ∨ 16 ≤ leading then decimal.scientific
      else if 0 ≤ decimal.exponent then decimal.positional ++ ['.', '0']
      else decimal.positional
    String.ofList (number.signText ++ body)

/-- A nonnegative finite number with one decimal place; a half goes to the even digit. -/
def oneDecimalText (number : Binary64) : String :=
  let tenths := nearestEven (number.units * 10) one
  String.ofList (decimalDigits (tenths / 10) ++ '.' :: decimalDigits (tenths % 10))

end Binary64

end SlotFilling
