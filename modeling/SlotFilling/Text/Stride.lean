/-!
# Evenly spaced code points

Capital and small letters often alternate, so tables about letter case are
written as runs of code points with a fixed step.
-/
namespace SlotFilling.Text

/-- The code points `first`, `first + step`, and so on, up to `last`. -/
structure Stride where
  first : Nat
  last : Nat
  step : Nat
  deriving DecidableEq, Repr

def Stride.contains (stride : Stride) (point : Nat) : Bool :=
  decide (stride.first ≤ point) && decide (point ≤ stride.last) &&
    (point - stride.first) % stride.step == 0

theorem Stride.contains_iff (stride : Stride) (point : Nat) :
    stride.contains point = true ↔
      stride.first ≤ point ∧ point ≤ stride.last ∧ (point - stride.first) % stride.step = 0 := by
  simp [Stride.contains, and_assoc]

end SlotFilling.Text
