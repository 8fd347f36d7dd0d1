/-!
# Binary64 numbers

A number is kept as its 64 bits. The magnitude of a finite number is a whole
multiple of 2⁻¹⁰⁷⁴, the unit of this module, so every computation with numbers
is exact arithmetic on natural numbers followed by one rounding.
-/
namespace SlotFilling

/-- A binary64 number by its sign, exponent and fraction bits. -/
structure Binary64 where
  bits : UInt64
  deriving DecidableEq, Repr

/-- The nearest natural number to a quotient; a half goes to the even neighbour. -/
def nearestEven (numerator denominator : Nat) : Nat :=
  let quotient := numerator / denominator
  let twice := 2 * (numerator % denominator)
  if twice < denominator then quotient
  else if denominator < twice then quotient + 1
  else if quotient % 2 = 0 then quotient else quotient + 1

namespace Binary64

/-- One is this many units. -/
def one : Nat := Nat.pow 2 1074

/-- The sign bit, 2⁶³. -/
def signBit : Nat := 0x8000000000000000

/-- The number of fractions that share an exponent, 2⁵². -/
def fractions : Nat := 0x10000000000000

/-- The magnitude bits of infinity; those of a finite number are below. -/
def infinite : Nat := 0x7FF0000000000000

def negative (number : Binary64) : Bool := decide (signBit ≤ number.bits.toNat)

/-- The bits without the sign. -/
def magnitude (number : Binary64) : Nat := number.bits.toNat % signBit

def isFinite (number : Binary64) : Bool := decide (number.magnitude < infinite)

def isNaN (number : Binary64) : Bool := decide (infinite < number.magnitude)

def isZero (number : Binary64) : Bool := number.magnitude == 0

/-- The units that finite magnitude bits stand for. -/
def unitsOf (magnitude : Nat) : Nat :=
  if magnitude < fractions then magnitude
  else (fractions + magnitude % fractions) * Nat.pow 2 (magnitude / fractions - 1)

/-- The magnitude of a finite number in units. -/
def units (number : Binary64) : Nat := unitsOf number.magnitude

/-- The magnitude bits of a number of units with at most 53 significant bits. -/
def magnitudeOf (units : Nat) : Nat :=
  let shift := units.log2 - 52
  min (shift * fractions + units / Nat.pow 2 shift) infinite

/-- A quotient of units rounded to 53 significant bits. -/
def roundUnits (numerator denominator : Nat) : Nat :=
  let step := Nat.pow 2 ((numerator / denominator).log2 - 52)
  nearestEven numerator (denominator * step) * step

def ofMagnitude (negative : Bool) (magnitude : Nat) : Binary64 :=
  ⟨UInt64.ofNat (magnitude + if negative then signBit else 0)⟩

/-- The number nearest to a quotient of natural numbers, with a sign. Magnitudes
that round to 2¹⁰²⁴ or more become infinite. -/
def nearest (negative : Bool) (numerator denominator : Nat) : Binary64 :=
  ofMagnitude negative (magnitudeOf (roundUnits (numerator * one) denominator))

/-- Equality of numbers: a number that is not a number equals nothing, and the
two zeros are equal. -/
def sameNumber (left right : Binary64) : Bool :=
  !left.isNaN && !right.isNaN && (left == right || left.isZero && right.isZero)

/-- Whether a finite number has no fraction. -/
def isWhole (number : Binary64) : Bool := number.units % one == 0

end Binary64

end SlotFilling
