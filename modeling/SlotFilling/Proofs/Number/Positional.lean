import SlotFilling.Number.Layout
import SlotFilling.Proofs.Number.Shortest

/-!
# Positional notation

A decimal without places is written as its digits and zeros. A decimal with places is written
around a point, with zeros in front where the digits do not reach the point. Either way it is
read as a decimal of the same value.
-/
namespace SlotFilling

/-! ## Rows of digits -/

theorem isDigit_of_mem_replicate {count : Nat} :
    ∀ digit ∈ List.replicate count '0', digit.isDigit = true := by
  intro digit zero
  rw [List.eq_of_mem_replicate zero]
  rfl

theorem digits_of_sublist {part digits : List Char} (form : Digits digits)
    (within : part.Sublist digits) (nonempty : part ≠ []) : Digits part :=
  ⟨nonempty, fun digit member => form.2 digit (within.mem member)⟩

theorem digitsValue_zeros (count : Nat) : digitsValue (List.replicate count '0') = 0 :=
  Nat.ofDigitChars_replicate_zero

namespace Decimal

variable {decimal : Decimal}

/-! ## Without places -/

theorem digits_positional (whole : 0 ≤ decimal.exponent) : Digits decimal.positional := by
  have form := digits_decimalDigits decimal.digits
  rw [positional, if_pos whole]
  exact ⟨List.append_ne_nil_of_left_ne_nil form.1 _,
    List.forall_mem_append.mpr ⟨form.2, isDigit_of_mem_replicate⟩⟩

theorem digitsValue_positional (whole : 0 ≤ decimal.exponent) :
    digitsValue decimal.positional = decimal.digits * 10 ^ decimal.exponent.toNat := by
  rw [positional, if_pos whole, digitsValue_append, digitsValue_zeros, digitsValue_decimalDigits,
    List.length_replicate, Nat.add_zero]

theorem head?_positional_ne_zero (nonzero : decimal.digits ≠ 0) (whole : 0 ≤ decimal.exponent) :
    decimal.positional.head? ≠ some '0' := by
  obtain ⟨first, later, written, notZero⟩ := decimalDigits_eq_cons nonzero
  rw [positional, if_pos whole, written]
  exact fun zero => notZero (Option.some.inj zero)

/-! ## With places -/

/-- The digits on both sides of the point. -/
structure Pointed (decimal : Decimal) (whole fraction : List Char) : Prop where
  text : decimal.positional = whole ++ '.' :: fraction
  whole_digits : Digits whole
  fraction_digits : Digits fraction
  value : digitsValue (whole ++ fraction) = decimal.digits
  places : decimal.exponent = -(fraction.length : Int)
  /-- A zero in front stands alone. -/
  zero_alone : decimal.digits ≠ 0 → whole.head? = some '0' → whole.length = 1

/-- The point stands inside the digits. -/
theorem pointed_of_inside (places : decimal.exponent < 0)
    (inside : (-decimal.exponent).toNat < (decimalDigits decimal.digits).length) :
    ∃ whole fraction, decimal.Pointed whole fraction := by
  have form := digits_decimalDigits decimal.digits
  refine ⟨_, _, {
    text := (if_neg (Int.not_le.mpr places)).trans (if_pos inside)
    whole_digits := digits_of_sublist form (List.take_sublist _ _) ?_
    fraction_digits := digits_of_sublist form (List.drop_sublist _ _) ?_
    value := ?_
    places := ?_
    zero_alone := ?_ }⟩
  · rw [Ne, List.take_eq_nil_iff]
    exact not_or.mpr ⟨by omega, form.1⟩
  · rw [Ne, List.drop_eq_nil_iff]
    omega
  · rw [List.take_append_drop]
    exact digitsValue_decimalDigits decimal.digits
  · rw [List.length_drop]
    omega
  · intro nonzero zero
    obtain ⟨first, later, written, notZero⟩ := decimalDigits_eq_cons nonzero
    rw [List.head?_take, if_neg (by omega), written] at zero
    exact absurd (Option.some.inj zero) notZero

/-- Zeros lead from the point to the digits. -/
theorem pointed_of_beyond (places : decimal.exponent < 0)
    (beyond : ¬ (-decimal.exponent).toNat < (decimalDigits decimal.digits).length) :
    ∃ whole fraction, decimal.Pointed whole fraction := by
  have form := digits_decimalDigits decimal.digits
  let zeros := (-decimal.exponent).toNat - (decimalDigits decimal.digits).length
  refine ⟨['0'], List.replicate zeros '0' ++ decimalDigits decimal.digits, {
    text := (if_neg (Int.not_le.mpr places)).trans (if_neg beyond)
    whole_digits := ⟨by simp, by simp⟩
    fraction_digits := ⟨List.append_ne_nil_of_right_ne_nil _ form.1,
      List.forall_mem_append.mpr ⟨isDigit_of_mem_replicate, form.2⟩⟩
    value := ?_
    places := ?_
    zero_alone := fun _ _ => rfl }⟩
  · rw [← List.append_assoc, digitsValue_append]
    have leading : digitsValue (['0'] ++ List.replicate zeros '0') = 0 :=
      digitsValue_zeros (zeros + 1)
    rw [leading, Nat.zero_mul, Nat.zero_add, digitsValue_decimalDigits]
  · rw [List.length_append, List.length_replicate, Nat.sub_add_cancel (Nat.le_of_not_lt beyond)]
    omega

theorem exists_pointed (places : decimal.exponent < 0) :
    ∃ whole fraction, decimal.Pointed whole fraction := by
  by_cases inside : (-decimal.exponent).toNat < (decimalDigits decimal.digits).length
  · exact pointed_of_inside places inside
  · exact pointed_of_beyond places inside

/-! ## Reading back -/

/-- Positional notation starts with a digit. -/
theorem positional_eq_cons (decimal : Decimal) :
    ∃ first later, decimal.positional = first :: later ∧ first.isDigit = true := by
  rcases lt_or_ge decimal.exponent 0 with places | whole
  · obtain ⟨whole, fraction, pointed⟩ := exists_pointed places
    obtain ⟨first, later, rfl, digit⟩ := pointed.whole_digits.eq_cons
    exact ⟨first, _, pointed.text, digit⟩
  · exact (digits_positional whole).eq_cons

/-- Positional notation keeps the value. -/
theorem readUnsigned?_positional (decimal : Decimal) :
    ∃ read, readUnsigned? decimal.positional = some read ∧ read.SameValue decimal := by
  rcases lt_or_ge decimal.exponent 0 with places | whole
  · -- The digits and the places are read as they are.
    obtain ⟨whole, fraction, pointed⟩ := exists_pointed places
    refine ⟨decimal, ?_, rfl⟩
    rw [pointed.text, readUnsigned?_digits_point pointed.whole_digits.1 pointed.whole_digits.2
      pointed.fraction_digits.2, pointed.value, ← pointed.places]
  · obtain ⟨nonempty, digits⟩ := digits_positional whole
    refine ⟨_, readUnsigned?_digits nonempty digits, ?_⟩
    have zeros := sameValue_zeros decimal.digits decimal.exponent.toNat 0
    rw [Int.zero_add, Int.toNat_of_nonneg whole] at zeros
    rw [digitsValue_positional whole]
    exact zeros.symm

end Decimal

end SlotFilling
