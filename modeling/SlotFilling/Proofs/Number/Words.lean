import SlotFilling.Proofs.Number.Overflow
import SlotFilling.Proofs.Text.Marks
import SlotFilling.Tagger.WordClass

/-!
# Number words and their values

A word has the form of a number when it consists of decimal digits of any script, with
at most one sign in front and at most one point between digits. Its value is read only
from ASCII digits, and only if it is finite. A word of that form can be read exactly
when both hold, and only the digits before the point decide whether the value is finite.
-/
namespace SlotFilling

/-! ## Values of digits -/

private theorem foldl_digits (digits : List Char) (value : Nat) :
    digits.foldl (fun value digit => 10 * value + (digit.toNat - '0'.toNat)) value =
      value * 10 ^ digits.length + digitsValue digits := by
  induction digits generalizing value with
  | nil => simp [digitsValue]
  | cons digit rest ih =>
    rw [digitsValue, List.foldl_cons, List.foldl_cons, ih, ih (10 * 0 + _), List.length_cons]
    ring

theorem digitsValue_append (left right : List Char) :
    digitsValue (left ++ right) = digitsValue left * 10 ^ right.length + digitsValue right := by
  rw [digitsValue, List.foldl_append, foldl_digits, ← digitsValue]

theorem digitsValue_lt (digits : List Char) (ascii : ∀ digit ∈ digits, digit.isDigit = true) :
    digitsValue digits < 10 ^ digits.length := by
  induction digits with
  | nil => decide
  | cons digit rest ih =>
    have later := ih (fun other member => ascii other (List.mem_cons_of_mem digit member))
    have here := ascii digit List.mem_cons_self
    have bound : digit.toNat - '0'.toNat ≤ 9 := by
      simp only [Char.isDigit, Bool.and_eq_true, decide_eq_true_eq] at here
      have upper : digit.toNat ≤ 57 := here.2
      have zero : '0'.toNat = 48 := rfl
      omega
    have scaled := Nat.mul_le_mul_right (10 ^ rest.length) bound
    rw [digitsValue, List.foldl_cons, foldl_digits, Nat.mul_zero, Nat.zero_add, List.length_cons,
      Nat.pow_succ]
    omega

/-! ## Numbers in ASCII digits -/

/-- The digits before the point, the sign left out. -/
def wholePart (word : List Char) : List Char :=
  (Decimal.takeSign word).2.takeWhile (· ≠ '.')

/-- A word whose digits are ASCII and whose whole part lies in the range of finite
numbers. -/
structure Representable (word : List Char) : Prop where
  ascii : ∀ character ∈ word, Text.isDecimalDigit character = true → character.isDigit = true
  bounded : digitsValue (wholePart word) < Binary64.overflow

theorem isNumber_eq (word : List Char) :
    isNumber word = isUnsignedNumber (Decimal.takeSign word).2 := by
  unfold isNumber Decimal.takeSign
  split
  next => rfl
  next first rest =>
    split
    next signed =>
      simp only [Bool.or_eq_true, beq_iff_eq] at signed
      rcases signed with rfl | rfl <;> rfl
    next unsigned =>
      simp only [Bool.or_eq_true, beq_iff_eq, not_or] at unsigned
      split
      next same => exact absurd (List.cons.inj same).1 unsigned.2
      next same => exact absurd (List.cons.inj same).1 unsigned.1
      next => rfl

theorem mem_of_mem_takeSign {word : List Char} {character : Char}
    (member : character ∈ (Decimal.takeSign word).2) : character ∈ word := by
  unfold Decimal.takeSign at member
  split at member
  · exact List.mem_cons_of_mem _ member
  · exact List.mem_cons_of_mem _ member
  · exact member

/-- Digits, alone or with a point and more digits after them. -/
theorem isUnsignedNumber_eq_true {text : List Char} (number : isUnsignedNumber text = true) :
    isDigits (text.takeWhile (· ≠ '.')) = true ∧
      (text = text.takeWhile (· ≠ '.') ∨
        ∃ fraction, text = text.takeWhile (· ≠ '.') ++ '.' :: fraction ∧
          isDigits fraction = true) := by
  simp only [isUnsignedNumber, Bool.and_eq_true] at number
  obtain ⟨whole, tail⟩ := number
  refine ⟨whole, ?_⟩
  cases after : text.dropWhile (· ≠ '.') with
  | nil => exact .inl (List.takeWhile_eq_self_iff.mpr (List.dropWhile_eq_nil_iff.mp after)).symm
  | cons point fraction =>
    rw [after] at tail
    exact .inr ⟨fraction, Text.eq_append_of_dropWhile after, tail⟩

namespace Decimal

theorem readUnsigned?_digits {whole : List Char} (nonempty : whole ≠ [])
    (ascii : ∀ digit ∈ whole, digit.isDigit = true) :
    readUnsigned? whole = some ⟨digitsValue whole, 0⟩ := by
  have taken : whole.takeWhile Char.isDigit = whole := List.takeWhile_eq_self_iff.mpr ascii
  have dropped : whole.dropWhile Char.isDigit = [] := List.dropWhile_eq_nil_iff.mpr ascii
  simp [readUnsigned?, taken, dropped, nonempty, readExponent?]

theorem readUnsigned?_digits_point {whole fraction : List Char} (nonempty : whole ≠ [])
    (ascii : ∀ digit ∈ whole, digit.isDigit = true)
    (fractionAscii : ∀ digit ∈ fraction, digit.isDigit = true) :
    readUnsigned? (whole ++ '.' :: fraction) =
      some ⟨digitsValue (whole ++ fraction), -(fraction.length : Int)⟩ := by
  have taken : fraction.takeWhile Char.isDigit = fraction :=
    List.takeWhile_eq_self_iff.mpr fractionAscii
  have dropped : fraction.dropWhile Char.isDigit = [] := List.dropWhile_eq_nil_iff.mpr fractionAscii
  have point : '.'.isDigit = false := by decide
  simp [readUnsigned?, List.takeWhile_append_of_pos ascii, List.dropWhile_append_of_pos ascii,
    point, taken, dropped, nonempty, readExponent?]

theorem readUnsigned?_of_ascii {text : List Char} (number : isUnsignedNumber text = true)
    (ascii : ∀ character ∈ text, Text.isDecimalDigit character = true →
      character.isDigit = true) :
    ∃ fraction : List Char, (∀ digit ∈ fraction, digit.isDigit = true) ∧
      readUnsigned? text =
        some ⟨digitsValue (text.takeWhile (· ≠ '.') ++ fraction), -(fraction.length : Int)⟩ := by
  obtain ⟨whole, shape⟩ := isUnsignedNumber_eq_true number
  generalize text.takeWhile (· ≠ '.') = digits at *
  simp only [isDigits, Bool.and_eq_true, Bool.not_eq_true', List.isEmpty_eq_false_iff,
    List.all_eq_true] at whole
  rcases shape with rfl | ⟨fraction, rfl, more⟩
  · have wholeAscii : ∀ digit ∈ text, digit.isDigit = true :=
      fun digit member => ascii digit member (whole.2 digit member)
    refine ⟨[], by simp, ?_⟩
    rw [List.append_nil]
    exact readUnsigned?_digits whole.1 wholeAscii
  · simp only [isDigits, Bool.and_eq_true, List.all_eq_true] at more
    have wholeAscii : ∀ digit ∈ digits, digit.isDigit = true :=
      fun digit member => ascii digit (List.mem_append_left _ member) (whole.2 digit member)
    have fractionAscii : ∀ digit ∈ fraction, digit.isDigit = true :=
      fun digit member => ascii digit
        (List.mem_append_right _ (List.mem_cons_of_mem _ member)) (more.2 digit member)
    exact ⟨fraction, fractionAscii, readUnsigned?_digits_point whole.1 wholeAscii fractionAscii⟩

/-- More decimal places never carry a number out of the range. -/
theorem nearestMagnitude_digits_lt_infinite_iff (whole : List Char) {fraction : List Char}
    (ascii : ∀ digit ∈ fraction, digit.isDigit = true) :
    (nearestMagnitude ⟨digitsValue (whole ++ fraction), -(fraction.length : Int)⟩) <
        Binary64.infinite ↔
      digitsValue whole < Binary64.overflow := by
  have places : (-(fraction.length : Int)).toNat = 0 := by omega
  have scale : (-(-(fraction.length : Int))).toNat = fraction.length := by omega
  have small := digitsValue_lt fraction ascii
  rw [nearestMagnitude_lt_infinite_iff]
  simp only [places, scale, Nat.pow_zero, Nat.mul_one, digitsValue_append]
  -- The whole part and the bound are whole numbers, so the places can only tell apart
  -- numbers with the same whole part.
  constructor
  · intro below
    apply Nat.lt_of_mul_lt_mul_right (a := 10 ^ fraction.length)
    omega
  · intro below
    have next := Nat.mul_le_mul_right (10 ^ fraction.length) (Nat.succ_le_of_lt below)
    rw [Nat.succ_mul] at next
    omega

/-! ## Only ASCII is read -/

/-- The characters of a decimal that is written in ASCII. -/
def isWritten (character : Char) : Bool :=
  character.isDigit || ['.', 'e', 'E', '+', '-'].contains character

theorem isDigit_of_isWritten {character : Char} (written : isWritten character = true)
    (digit : Text.isDecimalDigit character = true) : character.isDigit = true := by
  simp only [isWritten, Bool.or_eq_true, List.contains_iff_mem, List.mem_cons, List.not_mem_nil,
    or_false] at written
  rcases written with ascii | rfl | rfl | rfl | rfl | rfl
  · exact ascii
  all_goals exact absurd digit (by decide)

private theorem written_of_takeSign {text : List Char}
    (rest : ∀ character ∈ (takeSign text).2, isWritten character = true) :
    ∀ character ∈ text, isWritten character = true := by
  unfold takeSign at rest
  split at rest
  · exact List.forall_mem_cons.mpr ⟨by decide, rest⟩
  · exact List.forall_mem_cons.mpr ⟨by decide, rest⟩
  · exact rest

private theorem written_of_digits {text : List Char}
    (rest : ∀ character ∈ text.dropWhile Char.isDigit, isWritten character = true) :
    ∀ character ∈ text, isWritten character = true := by
  intro character member
  rw [← List.takeWhile_append_dropWhile (p := Char.isDigit) (l := text)] at member
  rcases List.mem_append.mp member with digit | later
  · have ascii := List.mem_takeWhile_imp digit
    simp [isWritten, ascii]
  · exact rest character later

theorem written_of_readExponent? {text : List Char} (read : (readExponent? text).isSome = true) :
    ∀ character ∈ text, isWritten character = true := by
  unfold readExponent? at read
  split at read
  next => simp
  next mark rest =>
    split at read
    next isMark =>
      split at read
      next negative digits signed =>
        split at read
        next ascii =>
          refine List.forall_mem_cons.mpr ⟨?_, written_of_takeSign ?_⟩
          · rcases isMark with rfl | rfl <;> decide
          · intro character member
            rw [signed] at member
            have digit := List.all_eq_true.mp ascii.2 character member
            simp [isWritten, digit]
        next => simp at read
    next => simp at read

theorem written_of_readUnsigned? {text : List Char} (read : (readUnsigned? text).isSome = true) :
    ∀ character ∈ text, isWritten character = true := by
  apply written_of_digits
  unfold readUnsigned? at read
  simp only at read
  split at read
  next after pointed =>
    split at read
    next => simp at read
    next =>
      rw [Option.isSome_map] at read
      rw [pointed]
      exact List.forall_mem_cons.mpr ⟨by decide, written_of_digits (written_of_readExponent? read)⟩
  next =>
    simp only at read
    split at read
    next => simp at read
    next =>
      rw [Option.isSome_map] at read
      exact written_of_readExponent? read

end Decimal

theorem Binary64.written_of_read? {text : List Char} (read : (read? text).isSome = true) :
    ∀ character ∈ text, Decimal.isWritten character = true := by
  unfold read? at read
  obtain ⟨number, found⟩ := Option.isSome_iff_exists.mp read
  obtain ⟨decimal, unsigned, _⟩ := Option.bind_eq_some_iff.mp found
  exact Decimal.written_of_takeSign
    (Decimal.written_of_readUnsigned? (Option.isSome_of_eq_some unsigned))

/-! ## Reading number words -/

/-- A number word is read exactly when its digits are ASCII and its whole part does not
overflow. -/
theorem read?_isSome_iff {word : List Char} (number : isNumber word = true) :
    (Binary64.read? word).isSome = true ↔ Representable word := by
  rw [isNumber_eq] at number
  have readable : (∀ character ∈ word, Text.isDecimalDigit character = true →
      character.isDigit = true) →
      ((Binary64.read? word).isSome = true ↔ digitsValue (wholePart word) < Binary64.overflow) := by
    intro ascii
    obtain ⟨fraction, fractionAscii, unsigned⟩ := Decimal.readUnsigned?_of_ascii number
      (fun character member => ascii character (mem_of_mem_takeSign member))
    rw [← Decimal.nearestMagnitude_digits_lt_infinite_iff _ fractionAscii]
    simp only [Binary64.read?, unsigned, Option.bind_some]
    split
    next finite => exact iff_of_true rfl finite
    next infinite => exact iff_of_false (by simp) infinite
  constructor
  · intro read
    have ascii : ∀ character ∈ word, Text.isDecimalDigit character = true →
        character.isDigit = true :=
      fun character member =>
        Decimal.isDigit_of_isWritten (Binary64.written_of_read? read character member)
    exact ⟨ascii, (readable ascii).mp read⟩
  · rintro ⟨ascii, bounded⟩
    exact (readable ascii).mpr bounded

end SlotFilling
