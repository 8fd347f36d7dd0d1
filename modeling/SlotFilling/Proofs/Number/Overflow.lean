import SlotFilling.Number.Decimal
import Mathlib.Tactic.Ring

/-!
# Where the range of finite numbers ends

The greatest finite number is one unit in the last place below 2¹⁰²⁴. Rounding carries
a decimal over that end exactly when it is at least half such a unit past the greatest
number: the half itself goes to the even neighbour, which is out of range.
-/
namespace SlotFilling

/-! ## Rounding quotients -/

theorem div_le_nearestEven (numerator denominator : Nat) :
    numerator / denominator ≤ nearestEven numerator denominator := by
  simp only [nearestEven]
  grind

theorem nearestEven_le_div_add_one (numerator denominator : Nat) :
    nearestEven numerator denominator ≤ numerator / denominator + 1 := by
  simp only [nearestEven]
  grind

/-- A half above an odd number goes up to the even one. -/
theorem nearestEven_le_iff {numerator denominator bound : Nat} (positive : 0 < denominator)
    (odd : bound % 2 = 1) :
    nearestEven numerator denominator ≤ bound ↔
      2 * numerator < (2 * bound + 1) * denominator := by
  have split := Nat.div_add_mod numerator denominator
  have remainder := Nat.mod_lt numerator positive
  have scaled : (2 * bound + 1) * denominator = 2 * (denominator * bound) + denominator := by ring
  simp only [nearestEven, scaled]
  generalize numerator / denominator = quotient at *
  generalize numerator % denominator = excess at *
  rcases Nat.lt_trichotomy quotient bound with below | rfl | above
  · have product := Nat.mul_le_mul_left denominator (Nat.succ_le_of_lt below)
    rw [Nat.succ_eq_add_one, Nat.mul_add_one] at product
    split
    · omega
    · split
      · omega
      · split <;> omega
  · split
    · omega
    · split
      · omega
      · rw [if_neg (by omega)]
        omega
  · have product := Nat.mul_le_mul_left denominator (Nat.succ_le_of_lt above)
    rw [Nat.succ_eq_add_one, Nat.mul_add_one] at product
    split
    · omega
    · split
      · omega
      · split <;> omega

theorem log2_lt_iff {number exponent : Nat} (positive : 0 < exponent) :
    number.log2 < exponent ↔ number < 2 ^ exponent := by
  by_cases zero : number = 0
  · subst zero
    exact iff_of_true (by simpa using positive) (Nat.two_pow_pos exponent)
  · exact Nat.log2_lt zero

/-- A number of at least 53 bits, cut to 53 of them. -/
theorem mantissa_bounds (number : Nat) (large : 52 ≤ number.log2) :
    2 ^ 52 ≤ number / 2 ^ (number.log2 - 52) ∧ number / 2 ^ (number.log2 - 52) < 2 ^ 53 := by
  have nonzero : number ≠ 0 := by
    rintro rfl
    simp at large
  have power : 0 < 2 ^ (number.log2 - 52) := Nat.two_pow_pos _
  constructor
  · rw [Nat.le_div_iff_mul_le power, ← Nat.pow_add, Nat.add_sub_cancel' large]
    exact Nat.log2_self_le nonzero
  · rw [Nat.div_lt_iff_lt_mul power, ← Nat.pow_add]
    have exponent : 53 + (number.log2 - 52) = number.log2 + 1 := by omega
    rw [exponent]
    exact Nat.lt_log2_self

namespace Binary64

theorem magnitudeOf_lt_infinite_iff (units : Nat) :
    magnitudeOf units < infinite ↔ units.log2 < 53 + 2045 := by
  have capped : ∀ bits, min bits infinite < infinite ↔ bits < infinite := by omega
  simp only [magnitudeOf, Nat.pow_eq, capped]
  by_cases large : 52 ≤ units.log2
  · have bounds := mantissa_bounds units large
    simp only [fractions, infinite]
    omega
  · have exponent : units.log2 - 52 = 0 := by omega
    have small := (log2_lt_iff (by decide)).mp (Nat.lt_of_not_le large)
    rw [exponent, Nat.pow_zero, Nat.div_one]
    simp only [infinite]
    omega

theorem roundUnits_log2_lt_iff {numerator denominator : Nat} (positive : 0 < denominator)
    (exponent : Nat) :
    (roundUnits numerator denominator).log2 < 53 + exponent ↔
      2 * numerator < (2 ^ 54 - 1) * (denominator * 2 ^ exponent) := by
  rw [log2_lt_iff (by omega)]
  simp only [roundUnits, Nat.pow_eq]
  have ends : 2 ^ (53 + exponent) = 2 ^ 53 * 2 ^ exponent := Nat.pow_add ..
  have middle : 2 ^ (52 + exponent) = 2 ^ 52 * 2 ^ exponent := Nat.pow_add ..
  -- Rounding decides only for a quotient with as many bits as the bound.
  rcases Nat.lt_trichotomy (numerator / denominator).log2 (52 + exponent) with
    below | level | above
  · have small := (log2_lt_iff (by omega)).mp below
    have step : 2 ^ ((numerator / denominator).log2 - 52) ≤ 2 ^ exponent :=
      Nat.pow_le_pow_right (by decide) (by omega)
    generalize 2 ^ ((numerator / denominator).log2 - 52) = grid at *
    have rounded := Nat.mul_le_mul_right grid
      (nearestEven_le_div_add_one numerator (denominator * grid))
    rw [← Nat.div_div_eq_div_mul, Nat.add_one_mul] at rounded
    have cut := Nat.div_mul_le_self (numerator / denominator) grid
    refine iff_of_true (by omega) ?_
    rw [Nat.div_lt_iff_lt_mul positive, middle, Nat.mul_assoc, Nat.mul_comm _ denominator] at small
    omega
  · have shift : (numerator / denominator).log2 - 52 = exponent := by omega
    rw [shift, ends, Nat.mul_lt_mul_right (Nat.two_pow_pos exponent)]
    exact (Nat.lt_succ_iff (n := 2 ^ 53 - 1)).trans
      (nearestEven_le_iff (Nat.mul_pos positive (Nat.two_pow_pos exponent)) (by decide))
  · have large : 2 ^ (53 + exponent) ≤ numerator / denominator :=
      Nat.le_of_not_lt fun small => by
        have level := (log2_lt_iff (by omega)).mpr small
        omega
    have mantissa := (mantissa_bounds (numerator / denominator) (by omega)).1
    rw [Nat.div_div_eq_div_mul] at mantissa
    have rounded := Nat.mul_le_mul_right (2 ^ ((numerator / denominator).log2 - 52))
      (Nat.le_trans mantissa (div_le_nearestEven ..))
    rw [← Nat.pow_add] at rounded
    have wide : 2 ^ (53 + exponent) ≤ 2 ^ (52 + ((numerator / denominator).log2 - 52)) :=
      Nat.pow_le_pow_right (by decide) (by omega)
    refine iff_of_false (by omega) ?_
    rw [Nat.le_div_iff_mul_le positive, ends, Nat.mul_assoc, Nat.mul_comm _ denominator] at large
    omega

/-! ## The end of the range -/

/-- The least magnitude that is not rounded to a finite number, 2¹⁰²⁴ - 2⁹⁷⁰. -/
def overflow : Nat := (Nat.pow 2 54 - 1) * Nat.pow 2 970

theorem overflow_pos : 0 < overflow := by decide +kernel

theorem overflow_le {places : Nat} (enough : 310 ≤ places) : overflow ≤ 10 ^ places := by
  have reached : overflow ≤ 10 ^ 310 := by decide +kernel
  have wider : ∀ few, few ≤ places → 10 ^ few ≤ 10 ^ places :=
    fun few => Nat.pow_le_pow_right (by decide)
  exact Nat.le_trans reached (wider 310 enough)

private theorem roundUnits_scaled_log2_lt_iff (numerator : Nat) {denominator unit edge : Nat}
    (positive : 0 < denominator) {low high : Nat} (unitEq : unit = 2 ^ high)
    (edgeEq : edge = (2 ^ 54 - 1) * 2 ^ low) :
    (roundUnits (numerator * unit) denominator).log2 < 53 + (low + 1 + high) ↔
      numerator < edge * denominator := by
  subst unitEq edgeEq
  rw [roundUnits_log2_lt_iff positive]
  have left : 2 * (numerator * 2 ^ high) = numerator * 2 ^ (high + 1) := by ring
  have right : (2 ^ 54 - 1) * (denominator * 2 ^ (low + 1 + high)) =
      (2 ^ 54 - 1) * 2 ^ low * denominator * 2 ^ (high + 1) := by ring
  rw [left, right, Nat.mul_lt_mul_right (Nat.two_pow_pos _)]

theorem magnitudeOf_roundUnits_lt_infinite_iff (numerator : Nat) {denominator : Nat}
    (positive : 0 < denominator) :
    magnitudeOf (roundUnits (numerator * one) denominator) < infinite ↔
      numerator < overflow * denominator := by
  have unitEq : one = 2 ^ 1074 := by decide +kernel
  have edgeEq : overflow = (2 ^ 54 - 1) * 2 ^ 970 := by decide +kernel
  rw [magnitudeOf_lt_infinite_iff]
  exact roundUnits_scaled_log2_lt_iff numerator positive unitEq edgeEq

end Binary64

/-! ## Decimals -/

theorem lt_pow_digitCount (number : Nat) : number < 10 ^ digitCount number :=
  (Nat.length_toDigits_le_iff (by decide) Nat.length_toDigits_pos).mp (Nat.le_refl _)

theorem pow_le_of_lt_digitCount {number places : Nat} (nonzero : number ≠ 0)
    (fewer : places < digitCount number) : 10 ^ places ≤ number := by
  cases places with
  | zero => exact Nat.one_le_iff_ne_zero.mpr nonzero
  | succ places =>
    have longer : ¬ digitCount number ≤ places + 1 := by omega
    rw [digitCount, decimalDigits, Nat.length_toDigits_le_iff (by decide) (by omega)] at longer
    exact Nat.le_of_not_lt longer

/-- A decimal is read as a finite number exactly below 2¹⁰²⁴ - 2⁹⁷⁰. -/
theorem Decimal.nearestMagnitude_lt_infinite_iff (decimal : Decimal) :
    decimal.nearestMagnitude < Binary64.infinite ↔
      decimal.digits * 10 ^ decimal.exponent.toNat <
        Binary64.overflow * 10 ^ (-decimal.exponent).toNat := by
  obtain ⟨digits, exponent⟩ := decimal
  have scale : 0 < 10 ^ (-exponent).toNat := Nat.pow_pos (by decide)
  simp only [nearestMagnitude]
  split
  next small =>
    refine iff_of_true (by decide) ?_
    -- Zero, or a number far below one.
    rcases small with rfl | tiny
    · rw [Nat.zero_mul]
      exact Nat.mul_pos Binary64.overflow_pos scale
    · have whole : exponent.toNat = 0 := by omega
      rw [whole, Nat.pow_zero, Nat.mul_one]
      calc digits < 10 ^ digitCount digits := lt_pow_digitCount digits
        _ ≤ 10 ^ (-exponent).toNat := Nat.pow_le_pow_right (by decide) (by omega)
        _ ≤ Binary64.overflow * 10 ^ (-exponent).toNat :=
            Nat.le_mul_of_pos_left _ Binary64.overflow_pos
  next notSmall =>
    rw [not_or] at notSmall
    split
    next huge =>
      -- The leading digit alone is at least a power of ten beyond the bound.
      have counted : 0 < digitCount digits := Nat.length_toDigits_pos
      refine iff_of_false (Nat.lt_irrefl _) (Nat.not_lt.mpr ?_)
      have leading : digitCount digits - 1 + exponent.toNat =
          digitCount digits - 1 + exponent.toNat - (-exponent).toNat + (-exponent).toNat := by omega
      calc Binary64.overflow * 10 ^ (-exponent).toNat
          ≤ 10 ^ (digitCount digits - 1 + exponent.toNat - (-exponent).toNat) *
              10 ^ (-exponent).toNat := Nat.mul_le_mul_right _ (Binary64.overflow_le (by omega))
        _ = 10 ^ (digitCount digits - 1 + exponent.toNat) := by rw [← Nat.pow_add, ← leading]
        _ = 10 ^ (digitCount digits - 1) * 10 ^ exponent.toNat := Nat.pow_add ..
        _ ≤ digits * 10 ^ exponent.toNat :=
            Nat.mul_le_mul_right _ (pow_le_of_lt_digitCount notSmall.1 (by omega))
    next => exact Binary64.magnitudeOf_roundUnits_lt_infinite_iff _ scale

end SlotFilling
