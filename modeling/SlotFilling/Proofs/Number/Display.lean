import SlotFilling.Proofs.Number.Positional

/-!
# Plain texts of numbers

The plain text of a finite number reads back as the number, up to the sign of a zero, and the
texts of other numbers do not read at all. So two numbers share their plain text only if they
are equal. A whole number below 10¹⁵ is shown as the 64-bit integer that it becomes without
loss.
-/
namespace SlotFilling

namespace Binary64

variable {number : Binary64}

/-! ## Signs -/

/-- The number without the sign of a zero. -/
def withoutZeroSign (number : Binary64) : Binary64 := if number.isZero then ⟨0⟩ else number

theorem ofMagnitude_magnitude (number : Binary64) :
    ofMagnitude number.negative number.magnitude = number := by
  obtain ⟨bits⟩ := number
  have fits := bits.toNat_lt
  apply congrArg Binary64.mk
  apply UInt64.toNat_inj.mp
  rw [negative, magnitude, signBit, UInt64.toNat_ofNat']
  by_cases signed : 0x8000000000000000 ≤ bits.toNat <;> simp [signed] <;> omega

theorem magnitude_ofMagnitude (negative : Bool) {magnitude : Nat} (small : magnitude < signBit) :
    (ofMagnitude negative magnitude).magnitude = magnitude := by
  rw [Binary64.magnitude, ofMagnitude, UInt64.toNat_ofNat']
  -- A magnitude and a sign fit into 64 bits, and the sign is dropped again.
  cases negative <;> simp only [signBit] at small ⊢ <;> simp <;> omega

theorem not_isNaN_of_isFinite (finite : number.isFinite = true) : number.isNaN = false :=
  decide_eq_false (Nat.not_lt.mpr (Nat.le_of_lt (of_decide_eq_true finite)))

theorem sameNumber_withoutZeroSign (finite : number.isFinite = true) :
    number.withoutZeroSign.sameNumber number = true := by
  have zeroIsZero : isZero ⟨0⟩ = true ∧ isNaN ⟨0⟩ = false := by decide
  unfold withoutZeroSign
  split
  next zero => simp [sameNumber, not_isNaN_of_isFinite finite, zero, zeroIsZero]
  next => simp [sameNumber, not_isNaN_of_isFinite finite]

/-- Equal finite numbers are the same number up to the sign of a zero. -/
theorem sameNumber_iff {other : Binary64} (finite : number.isFinite = true)
    (otherFinite : other.isFinite = true) :
    other.sameNumber number = true ↔ other.withoutZeroSign = number.withoutZeroSign := by
  have zeroIsZero : isZero ⟨0⟩ = true := by decide
  simp only [sameNumber, not_isNaN_of_isFinite finite, not_isNaN_of_isFinite otherFinite,
    withoutZeroSign]
  grind

/-! ## Reading plain texts -/

/-- Whatever is read is finite. -/
theorem isFinite_of_read? {text : List Char} {number : Binary64}
    (read : read? text = some number) : number.isFinite = true := by
  simp only [read?, Option.bind_eq_some_iff, Option.ite_none_right_eq_some,
    Option.some.injEq] at read
  obtain ⟨decimal, _, finite, rfl⟩ := read
  have small : decimal.nearestMagnitude < signBit := Nat.lt_trans finite (by decide)
  rw [isFinite, magnitude_ofMagnitude _ small]
  exact decide_eq_true finite

theorem takeSign_positional (negative : Bool) (decimal : Decimal) :
    Decimal.takeSign ((if negative then ['-'] else []) ++ decimal.positional) =
      (negative, decimal.positional) := by
  obtain ⟨first, later, written, digit⟩ := decimal.positional_eq_cons
  cases negative with
  | true => rfl
  | false =>
    rw [written]
    unfold Decimal.takeSign
    split
    next same => cases same; cases digit
    next same => cases same; cases digit
    next => rfl

theorem read?_positional (negative : Bool) {decimal : Decimal}
    (finite : decimal.nearestMagnitude < infinite) :
    read? ((if negative then ['-'] else []) ++ decimal.positional) =
      some (ofMagnitude negative decimal.nearestMagnitude) := by
  obtain ⟨read, unsigned, same⟩ := decimal.readUnsigned?_positional
  rw [← Decimal.nearestMagnitude_congr same] at finite ⊢
  simp only [read?, takeSign_positional, unsigned, Option.bind_some, if_pos finite]

theorem reads_whole (finite : number.isFinite = true) (whole : number.isWhole = true) :
    number.reads ⟨number.units / one, 0⟩ = true := by
  have exact : number.units / one * one = number.units * 1 := by
    rw [Nat.div_mul_cancel (Nat.dvd_of_mod_eq_zero (beq_iff_eq.mp whole)), Nat.mul_one]
  rw [reads, beq_iff_eq, Decimal.nearestMagnitude_eq]
  simp only [Decimal.numerator, Decimal.denominator, Int.toNat_zero, Int.neg_zero, Nat.pow_zero,
    Nat.mul_one]
  rw [exact, units, roundUnits_unitsOf _ (by decide)]
  exact magnitudeOf_unitsOf (of_decide_eq_true finite)

/-! ## Zero -/

theorem magnitude_of_isZero (zero : number.isZero = true) : number.magnitude = 0 := by
  simpa [isZero] using zero

theorem isFinite_of_isZero (zero : number.isZero = true) : number.isFinite = true := by
  rw [isFinite, magnitude_of_isZero zero]
  decide

theorem units_of_isZero (zero : number.isZero = true) : number.units = 0 := by
  rw [units, magnitude_of_isZero zero]
  rfl

/-! ## Plain texts -/

/-- The numbers that are shown as integers. -/
def IsShownWhole (number : Binary64) : Prop :=
  number.isWhole = true ∧ number.units < 1000000000000000 * one

theorem isShownWhole_of_isZero (zero : number.isZero = true) : number.IsShownWhole := by
  have none := units_of_isZero zero
  constructor
  · rw [isWhole, none, Nat.zero_mod]
    rfl
  · rw [none]
    exact Nat.mul_pos (by decide) one_pos

theorem plainText_of_isShownWhole (finite : number.isFinite = true)
    (whole : number.IsShownWhole) :
    number.plainText =
      String.ofList ((if number.negative && !number.isZero then ['-'] else []) ++
        decimalDigits (number.units / one)) := by
  unfold plainText
  rw [not_isNaN_of_isFinite finite, finite, whole.1, decide_eq_true whole.2]
  cases number.isZero <;> simp [signText]

theorem plainText_of_not_isShownWhole (finite : number.isFinite = true)
    (other : ¬ number.IsShownWhole) :
    number.plainText =
      String.ofList ((if number.negative && !number.isZero then ['-'] else []) ++
        (number.shortest .upper).positional) := by
  have nonzero : number.isZero = false :=
    eq_false_of_ne_true (mt isShownWhole_of_isZero other)
  have shown : (number.isWhole && decide (number.units < 1000000000000000 * one)) = false := by
    simpa [IsShownWhole] using other
  unfold plainText
  rw [not_isNaN_of_isFinite finite, finite, shown, nonzero]
  simp [signText]

theorem plainText_of_isZero (zero : number.isZero = true) : number.plainText = "0" := by
  rw [plainText_of_isShownWhole (isFinite_of_isZero zero) (isShownWhole_of_isZero zero), zero,
    units_of_isZero zero, Bool.not_true, Bool.and_false, Nat.zero_div]
  rfl

/-- The plain text of a finite number is a decimal that reads back, in positional notation. -/
theorem exists_positional (finite : number.isFinite = true) :
    ∃ decimal : Decimal, number.reads decimal = true ∧
      number.plainText.toList =
        (if number.negative && !number.isZero then ['-'] else []) ++ decimal.positional := by
  by_cases whole : number.IsShownWhole
  · refine ⟨_, reads_whole finite whole.1, ?_⟩
    rw [plainText_of_isShownWhole finite whole, String.toList_ofList]
    simp [Decimal.positional]
  · refine ⟨_, reads_shortest finite .upper, ?_⟩
    rw [plainText_of_not_isShownWhole finite whole, String.toList_ofList]

/-- The plain text of a finite number is read as the number. -/
theorem read?_plainText (finite : number.isFinite = true) :
    read? number.plainText.toList = some number.withoutZeroSign := by
  obtain ⟨decimal, reads, text⟩ := exists_positional finite
  rw [Binary64.reads, beq_iff_eq] at reads
  have below : decimal.nearestMagnitude < infinite := reads ▸ of_decide_eq_true finite
  rw [text, read?_positional _ below, reads, withoutZeroSign]
  split
  next zero =>
    -- The sign of a zero is not written.
    rw [zero, magnitude_of_isZero zero, Bool.not_true, Bool.and_false]
    rfl
  next nonzero =>
    rw [eq_false_of_ne_true nonzero, Bool.not_false, Bool.and_true, ofMagnitude_magnitude]

theorem read?_plainText_of_not_isFinite (infinite : number.isFinite = false) :
    read? number.plainText.toList = none := by
  have words : read? "NaN".toList = none ∧ read? "inf".toList = none ∧
      read? ('-' :: "inf".toList) = none := by decide
  unfold plainText
  split
  next => exact words.1
  next =>
    rw [infinite, Bool.not_false, if_pos rfl, String.toList_ofList, signText]
    cases number.negative
    · exact words.2.1
    · exact words.2.2

/-- Only equal numbers have the plain text of a finite number. -/
theorem plainText_eq_iff {other : Binary64} (finite : number.isFinite = true) :
    other.plainText = number.plainText ↔ other.sameNumber number = true := by
  constructor
  · intro same
    have read := read?_plainText finite
    rw [← same] at read
    -- The text is read as both numbers, unless the other one is not finite.
    cases otherFinite : other.isFinite with
    | false =>
      rw [read?_plainText_of_not_isFinite otherFinite] at read
      cases read
    | true =>
      rw [read?_plainText otherFinite] at read
      exact (sameNumber_iff finite otherFinite).mpr (Option.some.inj read)
  · intro same
    simp only [sameNumber, Bool.and_eq_true, Bool.or_eq_true, beq_iff_eq] at same
    rcases same.2 with rfl | ⟨otherZero, zero⟩
    · rfl
    · rw [plainText_of_isZero otherZero, plainText_of_isZero zero]

/-! ## Integers -/

/-- The signed number of units. -/
def signedUnits (number : Binary64) : Int :=
  if number.negative then -(number.units : Int) else number.units

/-- The integer that is left when the fraction is cut off. -/
def truncated (number : Binary64) : Int := number.signedUnits.tdiv one

/-- The conversion to 64-bit integers: the fraction is cut off, numbers out of range become the
end of the range, and what is not a number becomes zero. -/
def toInt64 (number : Binary64) : Int64 :=
  if number.isNaN then 0 else Int64.ofIntClamp number.truncated

theorem truncated_eq (number : Binary64) :
    number.truncated =
      if number.negative then -((number.units / one : Nat) : Int)
      else (number.units / one : Nat) := by
  have cut (units step : Nat) : (if number.negative then -(units : Int) else units).tdiv step =
      if number.negative then -((units / step : Nat) : Int) else (units / step : Nat) := by
    cases number.negative <;> simp [Int.neg_tdiv]
  exact cut number.units one

theorem truncated_mul_one (whole : number.isWhole = true) :
    number.truncated * one = number.signedUnits := by
  have dvd : one ∣ number.units := Nat.dvd_of_mod_eq_zero (beq_iff_eq.mp whole)
  apply Int.tdiv_mul_cancel
  unfold signedUnits
  split
  · exact Int.dvd_neg.mpr (Int.natCast_dvd_natCast.mpr dvd)
  · exact Int.natCast_dvd_natCast.mpr dvd

/-- Below 10¹⁵ nothing but the fraction is lost. -/
theorem toInt_toInt64 (finite : number.isFinite = true)
    (small : number.units < 1000000000000000 * one) :
    number.toInt64.toInt = number.truncated := by
  have below : number.units / one < 1000000000000000 :=
    Nat.div_lt_of_lt_mul (by rwa [Nat.mul_comm])
  have least : Int64.minValue.toInt = -0x8000000000000000 := by decide
  have greatest : Int64.maxValue.toInt = 0x7FFFFFFFFFFFFFFF := by decide
  have size : number.truncated.natAbs = number.units / one := by
    rw [truncated_eq]
    split
    · exact Int.natAbs_neg _
    · rfl
  rw [toInt64, not_isNaN_of_isFinite finite]
  exact Int64.toInt_ofIntClamp (by omega) (by omega)

/-- Integers are shown by their digits, with a sign below zero. -/
theorem toString_signed (negative : Bool) (size : Nat) :
    toString (if negative then -(size : Int) else size) =
      String.ofList ((if negative && size != 0 then ['-'] else []) ++ decimalDigits size) := by
  cases negative with
  | false => rfl
  | true =>
    cases size with
    | zero => rfl
    | succ size => exact (String.ofList_append ..).symm

theorem IsShownWhole.div_one_eq_zero_iff (whole : number.IsShownWhole) :
    number.units / one = 0 ↔ number.isZero = true := by
  have exact : one * (number.units / one) = number.units :=
    Nat.mul_div_cancel' (Nat.dvd_of_mod_eq_zero (beq_iff_eq.mp whole.1))
  constructor
  · intro none
    rw [none, Nat.mul_zero] at exact
    by_contra nonzero
    exact units_ne_zero (by simpa [isZero] using nonzero) exact.symm
  · intro zero
    rw [units_of_isZero zero, Nat.zero_div]

theorem plainText_eq_toString (finite : number.isFinite = true) (whole : number.IsShownWhole) :
    number.plainText = toString number.toInt64 := by
  have shown : toString number.toInt64 = toString number.toInt64.toInt := rfl
  have zero : (number.units / one != 0) = !number.isZero :=
    congrArg (!·) (Bool.eq_iff_iff.mpr (by simp [whole.div_one_eq_zero_iff]))
  rw [plainText_of_isShownWhole finite whole, shown, toInt_toInt64 finite whole.2, truncated_eq,
    toString_signed, zero]

end Binary64

end SlotFilling
