import SlotFilling.Number.Decimal

/-!
# Shortest decimals that read back

Every finite number is a decimal with finitely many digits. Cutting these digits
to one, two, three and more places gives two neighbours on each grid; the first
grid on which one of them reads back as the number holds the shortest decimal.
Of two neighbours that both read back the nearer one is taken. Which of two
equally near ones is taken depends on the layout.
-/
namespace SlotFilling

/-- The choice between two neighbours that are equally near. -/
inductive Tie where
  | upper
  | even
  deriving DecidableEq, Repr

/-- Whether the lower neighbour, whose digits are given, wins a tie. -/
def Tie.lowerWins (tie : Tie) (digits : Nat) : Bool :=
  match tie with
  | .upper => false
  | .even => digits % 2 == 0

namespace Binary64

/-- The exact value of a finite magnitude: a unit is 5¹⁰⁷⁴ times ten to the power -1074. -/
def exactDecimal (number : Binary64) : Decimal := ⟨number.units * Nat.pow 5 1074, -1074⟩

def reads (number : Binary64) (decimal : Decimal) : Bool :=
  decimal.nearestMagnitude == number.magnitude

/-- The better of the two neighbours with `places` significant digits, if one of
them reads back. -/
def neighbour? (number : Binary64) (tie : Tie) (places : Nat) : Option Decimal :=
  let exact := number.exactDecimal
  let cut := digitCount exact.digits - places
  let grid := Nat.pow 10 cut
  let below : Decimal := ⟨exact.digits / grid, exact.exponent + cut⟩
  let above : Decimal := ⟨exact.digits / grid + 1, exact.exponent + cut⟩
  let excess := 2 * (exact.digits % grid)
  let belowNearer := decide (excess < grid) || excess == grid && tie.lowerWins below.digits
  if number.reads below && (belowNearer || !number.reads above) then some below
  else if number.reads above then some above
  else none

/-- The shortest decimal that reads back as the number. -/
def shortest (number : Binary64) (tie : Tie) : Decimal :=
  if number.isZero then ⟨0, 0⟩
  else (((List.range' 1 17).findSome? (number.neighbour? tie)).getD number.exactDecimal).stripped

end Binary64

end SlotFilling
