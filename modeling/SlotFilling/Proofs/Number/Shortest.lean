import SlotFilling.Proofs.Number.Rounding
import SlotFilling.Proofs.Number.Words

/-!
# Decimals that read back

The digits of a natural number give its value, and zeros behind them count like an exponent. So
a decimal keeps its value when it is stripped of them. Every candidate for the shortest decimal
of a finite number reads back as the number, the exact value included.
-/
namespace SlotFilling

/-! ## Digits -/

/-- At least one digit, and nothing else. -/
def Digits (text : List Char) : Prop := text ≠ [] ∧ ∀ digit ∈ text, digit.isDigit = true

theorem Digits.eq_cons {text : List Char} (form : Digits text) :
    ∃ first later, text = first :: later ∧ first.isDigit = true := by
  obtain ⟨first, later, rfl⟩ := List.exists_cons_of_ne_nil form.1
  exact ⟨first, later, rfl, form.2 first List.mem_cons_self⟩

theorem digits_decimalDigits (number : Nat) : Digits (decimalDigits number) :=
  ⟨Nat.toDigits_ne_nil, fun _ member => Nat.isDigit_of_mem_toDigits (by decide) (by decide) member⟩

theorem digitsValue_decimalDigits (number : Nat) : digitsValue (decimalDigits number) = number :=
  Nat.ofDigitChars_ten_toDigits

/-- The digits of a number other than zero start with a digit other than zero. -/
theorem decimalDigits_eq_cons {number : Nat} (nonzero : number ≠ 0) :
    ∃ first later, decimalDigits number = first :: later ∧ first ≠ '0' := by
  obtain ⟨first, later, written⟩ := List.exists_cons_of_ne_nil (digits_decimalDigits number).1
  refine ⟨first, later, written, ?_⟩
  rintro rfl
  have digits := (digits_decimalDigits number).2
  have value := digitsValue_decimalDigits number
  rw [written] at digits value
  -- With a zero in front the number would be too small for so many digits.
  have small : number < 10 ^ later.length := by
    rw [← value]
    exact digitsValue_lt later (fun digit member => digits digit (List.mem_cons_of_mem _ member))
  have count : digitCount number = later.length + 1 := by rw [digitCount, written, List.length_cons]
  have large : 10 ^ later.length ≤ number := pow_le_of_lt_digitCount nonzero (by omega)
  omega

theorem exists_eq_dropTrailing_append (unwanted : Char → Bool) (text : List Char) :
    ∃ trailing, text = Text.dropTrailing unwanted text ++ trailing ∧
      ∀ character ∈ trailing, unwanted character = true := by
  refine ⟨(text.reverse.takeWhile unwanted).reverse, ?_, ?_⟩
  · rw [Text.dropTrailing, ← List.reverse_append, List.takeWhile_append_dropWhile,
      List.reverse_reverse]
  · intro character member
    exact List.mem_takeWhile_imp (List.mem_reverse.mp member)

/-! ## Values of decimals -/

namespace Decimal

/-- Zeros behind the digits count like an exponent. -/
theorem sameValue_zeros (digits count : Nat) (exponent : Int) :
    SameValue ⟨digits, exponent + count⟩ ⟨digits * 10 ^ count, exponent⟩ := by
  have powers : (exponent + count).toNat + (-exponent).toNat =
      count + exponent.toNat + (-(exponent + count)).toNat := by omega
  simp only [SameValue, numerator, denominator, Nat.mul_assoc, ← Nat.pow_add]
  rw [powers, Nat.add_assoc]

/-- Stripping moves zeros from the digits to the exponent. -/
theorem exists_stripped (decimal : Decimal) :
    ∃ count : Nat, decimal.digits = decimal.stripped.digits * 10 ^ count ∧
      decimal.stripped.exponent = decimal.exponent + count := by
  obtain ⟨trailing, written, zeros⟩ :=
    exists_eq_dropTrailing_append (· == '0') (decimalDigits decimal.digits)
  have allZero : trailing = List.replicate trailing.length '0' :=
    List.eq_replicate_iff.mpr ⟨rfl, fun digit member => by simpa using zeros digit member⟩
  have trailingValue : digitsValue trailing = 0 := by
    rw [allZero]
    exact Nat.ofDigitChars_replicate_zero
  have value := digitsValue_decimalDigits decimal.digits
  rw [written, digitsValue_append, trailingValue, Nat.add_zero] at value
  have length := congrArg List.length written
  rw [List.length_append] at length
  have moved : (decimalDigits decimal.digits).length -
      (Text.dropTrailing (· == '0') (decimalDigits decimal.digits)).length = trailing.length := by
    omega
  exact ⟨trailing.length, value.symm, by simp only [stripped, moved]⟩

theorem stripped_ne_zero {decimal : Decimal} (nonzero : decimal.digits ≠ 0) :
    decimal.stripped.digits ≠ 0 := by
  obtain ⟨count, digits, -⟩ := decimal.exists_stripped
  intro zero
  rw [zero, Nat.zero_mul] at digits
  exact nonzero digits

/-- No zero is left at the end. -/
theorem stripped_mod_ten {decimal : Decimal} (nonzero : decimal.digits ≠ 0) :
    decimal.stripped.digits % 10 ≠ 0 := by
  have kept : digitsValue (Text.dropTrailing (· == '0') (decimalDigits decimal.digits)) ≠ 0 :=
    stripped_ne_zero nonzero
  change digitsValue (Text.dropTrailing (· == '0') (decimalDigits decimal.digits)) % 10 ≠ 0
  rw [Text.dropTrailing] at kept ⊢
  -- The text is stripped from behind, so the last digit that stays is met first.
  cases rest : (decimalDigits decimal.digits).reverse.dropWhile (· == '0') with
  | nil =>
    rw [rest] at kept
    exact absurd rfl kept
  | cons last front =>
    have notZero : last ≠ '0' := by
      have stopped := List.head?_dropWhile_not (· == '0') (decimalDigits decimal.digits).reverse
      rw [rest] at stopped
      simpa using stopped
    have isLast : last ∈ decimalDigits decimal.digits := by
      have inside : last ∈ (decimalDigits decimal.digits).reverse.dropWhile (· == '0') := by
        rw [rest]
        exact List.mem_cons_self
      exact List.mem_reverse.mp ((List.dropWhile_sublist _).mem inside)
    have digit := (digits_decimalDigits decimal.digits).2 last isLast
    have small : digitsValue [last] < 10 := digitsValue_lt [last] (by simpa using digit)
    have positive : digitsValue [last] ≠ 0 := by
      intro zero
      simp only [Char.isDigit, Bool.and_eq_true, decide_eq_true_eq] at digit
      have least : 48 ≤ last.toNat := digit.1
      have most : last.toNat - 48 = 0 := by simpa [digitsValue] using zero
      have same : last.toNat = '0'.toNat := Nat.le_antisymm (Nat.le_of_sub_eq_zero most) least
      exact notZero (Char.toNat_inj.mp same)
    rw [List.reverse_cons, digitsValue_append, List.length_singleton, Nat.pow_one]
    omega

/-- Stripped of its zeros, a power of ten has a single digit. -/
theorem digitCount_stripped_le {decimal : Decimal} {places : Nat}
    (few : decimal.digits ≤ 10 ^ (places + 1)) :
    digitCount decimal.stripped.digits ≤ places + 1 := by
  have fewer {digits count : Nat} (small : digits < 10 ^ (count + 1)) :
      digitCount digits ≤ count + 1 :=
    (Nat.length_toDigits_le_iff (by decide) (Nat.succ_pos _)).mpr small
  obtain ⟨count, digits, -⟩ := decimal.exists_stripped
  have positive : 0 < 10 ^ count := Nat.pow_pos (by decide)
  rcases Nat.lt_or_eq_of_le few with small | power
  · apply fewer
    rw [digits] at small
    exact Nat.lt_of_le_of_lt (Nat.le_mul_of_pos_right _ positive) small
  · have last : decimal.stripped.digits % 10 ≠ 0 :=
      stripped_mod_ten (by rw [power]; exact Nat.ne_of_gt (Nat.pow_pos (by decide)))
    rw [power] at digits
    rcases Nat.lt_or_ge count (places + 1) with short | long
    · -- A zero would be left.
      obtain ⟨more, split⟩ := Nat.exists_eq_add_of_lt short
      rw [split, Nat.add_assoc, Nat.add_comm count, Nat.pow_add, Nat.mul_left_inj
        (Nat.ne_of_gt positive)] at digits
      rw [← digits, Nat.pow_succ, Nat.mul_mod_left] at last
      exact absurd rfl last
    · have single : decimal.stripped.digits ≤ 1 := by
        apply Nat.le_of_mul_le_mul_right _ positive
        rw [← digits, Nat.one_mul]
        exact Nat.pow_le_pow_right (by decide) long
      exact Nat.le_trans (fewer (by omega : _ < 10 ^ (0 + 1))) (by omega)

theorem sameValue_stripped (decimal : Decimal) : decimal.stripped.SameValue decimal := by
  obtain ⟨count, digits, exponent⟩ := decimal.exists_stripped
  have same := sameValue_zeros decimal.stripped.digits count decimal.exponent
  rw [← exponent, ← digits] at same
  exact same

end Decimal

/-! ## Decimals that read back -/

namespace Binary64

theorem units_ne_zero {number : Binary64} (nonzero : number.magnitude ≠ 0) : number.units ≠ 0 := by
  unfold units unitsOf
  split
  · exact nonzero
  · have significand : fractions + number.magnitude % fractions ≠ 0 := by
      simp [fractions]
    exact Nat.mul_ne_zero significand (Nat.ne_of_gt (Nat.pow_pos (by decide)))

section

variable {number : Binary64} {tie : Tie} {decimal : Decimal}

theorem digits_ne_zero_of_reads (nonzero : number.magnitude ≠ 0)
    (read : number.reads decimal = true) : decimal.digits ≠ 0 := by
  intro zero
  have none : decimal.nearestMagnitude = 0 := by simp [Decimal.nearestMagnitude, zero]
  rw [reads, beq_iff_eq, none] at read
  exact nonzero read.symm

theorem reads_of_neighbour? {places : Nat} (found : number.neighbour? tie places = some decimal) :
    number.reads decimal = true := by
  unfold neighbour? at found
  simp only at found
  split at found
  next below =>
    rw [Bool.and_eq_true] at below
    cases found
    exact below.1
  next =>
    split at found
    next above =>
      cases found
      exact above
    next => cases found

theorem exactDecimal_ne_zero (nonzero : number.magnitude ≠ 0) :
    number.exactDecimal.digits ≠ 0 := by
  -- The power has hundreds of digits, so it is left alone.
  have scaled : ∀ places, number.units * Nat.pow 5 places ≠ 0 :=
    fun _ => Nat.mul_ne_zero (units_ne_zero nonzero) (Nat.ne_of_gt (Nat.pow_pos (by decide)))
  exact scaled 1074

theorem reads_congr {other : Decimal} (same : decimal.SameValue other) :
    number.reads decimal = number.reads other := by
  rw [reads, reads, Decimal.nearestMagnitude_congr same]

/-- The digits of a unit, which has 1074 decimal places. -/
def unitDigits : Nat := Nat.pow 5 1074

theorem unitDigits_pos : 0 < unitDigits := by decide +kernel

private theorem nearestMagnitude_of_places {places fives : Nat} {exponent : Int}
    (unitEq : one = 2 ^ places) (fivesEq : fives = 5 ^ places) (negated : exponent = -places)
    (digits : Nat) :
    Decimal.nearestMagnitude ⟨digits, exponent⟩ = magnitudeOf (roundUnits digits fives) := by
  have whole : exponent.toNat = 0 := by omega
  have scale : (-exponent).toNat = places := by omega
  rw [Decimal.nearestMagnitude_eq, Decimal.numerator, Decimal.denominator]
  simp only [whole, scale, Nat.pow_zero, Nat.mul_one]
  rw [unitEq, fivesEq, ← roundUnits_mul_right digits _ (Nat.two_pow_pos places), ← Nat.mul_pow]

/-- Reading a decimal with all the places of a unit is rounding it to units. -/
theorem nearestMagnitude_units (digits : Nat) :
    Decimal.nearestMagnitude ⟨digits, -1074⟩ = magnitudeOf (roundUnits digits unitDigits) := by
  have unitEq : one = 2 ^ 1074 := by decide +kernel
  have fivesEq : unitDigits = 5 ^ 1074 := by decide +kernel
  exact nearestMagnitude_of_places unitEq fivesEq rfl digits

theorem exactDecimal_eq (number : Binary64) :
    number.exactDecimal = ⟨number.units * unitDigits, -1074⟩ := by
  have fivesEq : Nat.pow 5 1074 = unitDigits := by decide +kernel
  rw [exactDecimal, fivesEq]

theorem reads_exactDecimal (finite : number.isFinite = true) :
    number.reads number.exactDecimal = true := by
  rw [reads, beq_iff_eq, exactDecimal_eq, nearestMagnitude_units, units,
    roundUnits_unitsOf _ unitDigits_pos]
  exact magnitudeOf_unitsOf (of_decide_eq_true finite)

/-- The shortest decimal of a finite number reads back as the number. -/
theorem reads_shortest (finite : number.isFinite = true) (tie : Tie) :
    number.reads (number.shortest tie) = true := by
  unfold shortest
  split
  next zero =>
    have magnitude : number.magnitude = 0 := by simpa [isZero] using zero
    simp [reads, magnitude, Decimal.nearestMagnitude]
  next nonzero =>
    rw [reads_congr (Decimal.sameValue_stripped _)]
    cases found : (List.range' 1 17).findSome? (number.neighbour? tie) with
    | none => exact reads_exactDecimal finite
    | some decimal =>
      obtain ⟨places, _, here⟩ := List.exists_of_findSome?_eq_some found
      exact reads_of_neighbour? here

/-- The shortest decimal of a number other than zero has digits other than zero. -/
theorem shortest_ne_zero (nonzero : number.isZero = false) (tie : Tie) :
    (number.shortest tie).digits ≠ 0 := by
  have magnitude : number.magnitude ≠ 0 := by simpa [isZero] using nonzero
  unfold shortest
  rw [nonzero]
  apply Decimal.stripped_ne_zero
  cases found : (List.range' 1 17).findSome? (number.neighbour? tie) with
  | none => exact exactDecimal_ne_zero magnitude
  | some decimal =>
    obtain ⟨places, _, here⟩ := List.exists_of_findSome?_eq_some found
    exact digits_ne_zero_of_reads magnitude (reads_of_neighbour? here)

end

end Binary64

end SlotFilling
