import SlotFilling.Json.Basic
import SlotFilling.Json.Reader
import SlotFilling.Proofs.Number.Positional

/-!
# Numbers as JSON writes them

Whole numbers and finite numbers are written as numerals: an optional sign, digits without
a needless zero in front, and possibly a fraction and an exponent. A numeral is read up to its
end, whatever value it has, as long as what follows starts with none of its characters.
-/
namespace SlotFilling

/-! ## Numerals -/

namespace Json

/-- A nonnegative number in parts, each written with digits as JSON wants them. -/
structure Numeral where
  whole : List Char
  fraction : Option (List Char)
  /-- Whether the exponent is negative, and its digits. -/
  exponent : Option (Bool × List Char)
  whole_digits : Digits whole
  /-- A zero in front stands alone. -/
  zero_alone : whole.head? = some '0' → whole.length = 1
  fraction_digits : ∀ digits ∈ fraction, Digits digits
  exponent_digits : ∀ written ∈ exponent, Digits written.2

namespace Numeral

def fractionChars (numeral : Numeral) : List Char :=
  match numeral.fraction with
  | none => []
  | some digits => '.' :: digits

def exponentChars (numeral : Numeral) : List Char :=
  match numeral.exponent with
  | none => []
  | some (negative, digits) => 'e' :: (if negative then '-' else '+') :: digits

def unsigned (numeral : Numeral) : List Char :=
  numeral.whole ++ (numeral.fractionChars ++ numeral.exponentChars)

/-- A numeral with a sign if it is negative. -/
def chars (numeral : Numeral) (negative : Bool) : List Char :=
  (if negative then ['-'] else []) ++ numeral.unsigned

def exponentValue (numeral : Numeral) : Option Int :=
  numeral.exponent.map fun (negative, digits) =>
    if negative then -(digitsValue digits : Int) else digitsValue digits

/-- What a reader gets from a numeral. -/
def parts (numeral : Numeral) (negative : Bool) : NumberText :=
  ⟨negative, numeral.whole, numeral.fraction, numeral.exponentValue⟩

end Numeral

/-- Nothing, or something that starts with what may follow a value inside a list or object. -/
def Delimited (rest : List Char) : Prop :=
  ∀ character ∈ rest.head?, character ∈ [',', ']', '\x7d']

theorem readDigits?_append {digits rest : List Char} (form : Digits digits)
    (ends : ∀ character ∈ rest.head?, character.isDigit = false) :
    readDigits? (digits ++ rest) = some (digits, rest) := by
  have stops : rest.takeWhile Char.isDigit = [] ∧ rest.dropWhile Char.isDigit = rest := by
    cases rest with
    | nil => exact ⟨rfl, rfl⟩
    | cons character rest => simp [ends character rfl]
  unfold readDigits?
  rw [List.takeWhile_append_of_pos form.2, List.dropWhile_append_of_pos form.2, stops.1, stops.2,
    List.append_nil]
  simp [form.1]

theorem Delimited.head {rest : List Char} (ends : Delimited rest) {character : Char}
    (first : character ∈ rest.head?) : character.isDigit = false ∧ character ≠ '.' ∧
      character ≠ 'e' ∧ character ≠ 'E' := by
  have cases := ends character first
  simp only [List.mem_cons, List.not_mem_nil, or_false] at cases
  rcases cases with rfl | rfl | rfl <;> decide

namespace Numeral

variable {rest : List Char}

theorem head_exponentChars (numeral : Numeral) (ends : Delimited rest) :
    ∀ character ∈ (numeral.exponentChars ++ rest).head?,
      character.isDigit = false ∧ character ≠ '.' := by
  intro character first
  unfold exponentChars at first
  cases here : numeral.exponent with
  | none =>
    rw [here] at first
    exact ⟨(ends.head first).1, (ends.head first).2.1⟩
  | some written =>
    rw [here] at first
    cases first
    decide

theorem head_fractionChars (numeral : Numeral) (ends : Delimited rest) :
    ∀ character ∈ (numeral.fractionChars ++ (numeral.exponentChars ++ rest)).head?,
      character.isDigit = false := by
  intro character first
  unfold fractionChars at first
  cases here : numeral.fraction with
  | none =>
    rw [here] at first
    exact (numeral.head_exponentChars ends character first).1
  | some digits =>
    rw [here] at first
    cases first
    rfl

theorem readExponent?_append (numeral : Numeral) (ends : Delimited rest) :
    readExponent? (numeral.exponentChars ++ rest) = some (numeral.exponentValue, rest) := by
  unfold exponentChars exponentValue
  cases here : numeral.exponent with
  | none =>
    cases rest with
    | nil => rfl
    | cons mark rest =>
      have first : mark ∈ (mark :: rest).head? := rfl
      obtain ⟨_, _, small, capital⟩ := ends.head first
      simp [readExponent?, small, capital]
  | some written =>
    have read := readDigits?_append (numeral.exponent_digits written here)
      (fun character first => (ends.head first).1)
    obtain ⟨negative, written⟩ := written
    cases negative <;> simp [readExponent?, Decimal.takeSign, read]

theorem readFraction?_append (numeral : Numeral) (ends : Delimited rest) :
    readFraction? (numeral.fractionChars ++ (numeral.exponentChars ++ rest)) =
      some (numeral.fraction, numeral.exponentChars ++ rest) := by
  have after := numeral.head_exponentChars ends
  unfold fractionChars
  cases here : numeral.fraction with
  | none =>
    rw [List.nil_append]
    unfold readFraction?
    split
    next pointed => exact absurd rfl (after '.' (by rw [pointed]; rfl)).2
    next => rfl
  | some digits =>
    have read := readDigits?_append (numeral.fraction_digits digits here)
      (fun character first => (after character first).1)
    simp only [List.cons_append, readFraction?, read, Option.map_some]

theorem readWhole?_append (numeral : Numeral) (ends : Delimited rest) :
    readWhole? (numeral.unsigned ++ rest) =
      some (numeral.whole, numeral.fractionChars ++ (numeral.exponentChars ++ rest)) := by
  have read := readDigits?_append numeral.whole_digits (numeral.head_fractionChars ends)
  have alone : ¬ (numeral.whole.head? = some '0' ∧ numeral.whole.length ≠ 1) :=
    fun both => both.2 (numeral.zero_alone both.1)
  simp only [unsigned, List.append_assoc, readWhole?, read, Option.bind_some, if_neg alone]

theorem unsigned_eq_cons (numeral : Numeral) :
    ∃ first later, numeral.unsigned = first :: later ∧ first.isDigit = true := by
  obtain ⟨first, later, whole, digit⟩ := numeral.whole_digits.eq_cons
  exact ⟨first, _, by rw [unsigned, whole, List.cons_append], digit⟩

/-- A numeral is read in full and no further. -/
theorem readNumber?_append (numeral : Numeral) (negative : Bool) (ends : Delimited rest) :
    readNumber? (numeral.chars negative ++ rest) = some (numeral.parts negative, rest) := by
  have whole := numeral.readWhole?_append ends
  have fraction := numeral.readFraction?_append ends
  have exponent := numeral.readExponent?_append ends
  cases negative with
  | true => simp [readNumber?, chars, parts, whole, fraction, exponent]
  | false =>
    obtain ⟨first, later, same, digit⟩ := numeral.unsigned_eq_cons
    have unsigned : first ≠ '-' := by
      rintro rfl
      cases digit
    rw [same, List.cons_append] at whole
    simp [readNumber?, chars, parts, same, unsigned, whole, fraction, exponent]

/-! ## The numerals that are written -/

theorem length_decimalDigits_of_zero {number : Nat}
    (zero : (decimalDigits number).head? = some '0') : (decimalDigits number).length = 1 := by
  by_cases nonzero : number = 0
  · subst nonzero
    rfl
  · obtain ⟨first, later, written, notZero⟩ := decimalDigits_eq_cons nonzero
    rw [written, List.head?_cons, Option.some.injEq] at zero
    exact absurd zero notZero

/-- Whole numbers are written as numerals. -/
def ofNat (number : Nat) : Numeral where
  whole := decimalDigits number
  fraction := none
  exponent := none
  whole_digits := digits_decimalDigits number
  zero_alone := length_decimalDigits_of_zero
  fraction_digits := nofun
  exponent_digits := nofun

theorem chars_ofNat (number : Nat) : (ofNat number).chars false = decimalDigits number := by
  simp [chars, unsigned, ofNat, fractionChars, exponentChars]

/-- Digits on both sides of a point. -/
def ofPlaces (whole fraction : List Char) (wholeDigits : Digits whole)
    (alone : whole.head? = some '0' → whole.length = 1) (fractionDigits : Digits fraction) :
    Numeral where
  whole := whole
  fraction := some fraction
  exponent := none
  whole_digits := wholeDigits
  zero_alone := alone
  fraction_digits := fun _ present => Option.some.inj present ▸ fractionDigits
  exponent_digits := nofun

theorem unsigned_ofPlaces {whole fraction : List Char} (wholeDigits : Digits whole)
    (alone : whole.head? = some '0' → whole.length = 1) (fractionDigits : Digits fraction) :
    (ofPlaces whole fraction wholeDigits alone fractionDigits).unsigned =
      whole ++ '.' :: fraction := by
  simp [unsigned, ofPlaces, fractionChars, exponentChars]

theorem digits_zero : Digits ['0'] := ⟨by simp, by simp⟩

variable {decimal : Decimal}

/-- A number without places gets one in positional notation. -/
theorem exists_of_positional_whole (nonzero : decimal.digits ≠ 0) (whole : 0 ≤ decimal.exponent) :
    ∃ numeral : Numeral, numeral.unsigned = decimal.positional ++ ['.', '0'] := by
  have notZero := Decimal.head?_positional_ne_zero nonzero whole
  exact ⟨ofPlaces _ _ (Decimal.digits_positional whole) (fun zero => absurd zero notZero)
    digits_zero, unsigned_ofPlaces _ _ _⟩

theorem exists_of_positional_fraction (nonzero : decimal.digits ≠ 0)
    (places : decimal.exponent < 0) :
    ∃ numeral : Numeral, numeral.unsigned = decimal.positional := by
  obtain ⟨whole, fraction, pointed⟩ := Decimal.exists_pointed places
  exact ⟨ofPlaces whole fraction pointed.whole_digits (pointed.zero_alone nonzero)
    pointed.fraction_digits, (unsigned_ofPlaces _ _ _).trans pointed.text.symm⟩

theorem exists_of_scientific (nonzero : decimal.digits ≠ 0) :
    ∃ numeral : Numeral, numeral.unsigned = decimal.scientific := by
  have form := digits_decimalDigits decimal.digits
  obtain ⟨first, later, written, -⟩ := decimalDigits_eq_cons nonzero
  unfold Decimal.scientific
  rw [written] at form ⊢
  dsimp only
  generalize decimal.exponent + ((first :: later).length : Int) - 1 = leading
  refine ⟨{
    whole := [first]
    fraction := if later = [] then none else some later
    exponent := some (decide (leading < 0), decimalDigits leading.natAbs)
    whole_digits := ⟨by simp, by simpa using form.2 first List.mem_cons_self⟩
    zero_alone := fun _ => rfl
    fraction_digits := ?_
    exponent_digits := ?_ }, ?_⟩
  · intro digits present
    split at present
    next => cases present
    next nonempty =>
      cases present
      exact digits_of_sublist form (List.sublist_cons_self first later) nonempty
  · rintro _ ⟨⟩
    exact digits_decimalDigits leading.natAbs
  · -- A single digit stands without a point.
    cases later <;> simp [unsigned, fractionChars, exponentChars]

end Numeral

/-- Every finite number is written as a numeral with its sign. -/
theorem exists_numeral_of_isFinite {number : Binary64} (finite : number.isFinite = true) :
    ∃ numeral : Numeral, number.dataText.toList = numeral.chars number.negative := by
  have signed : ∀ body : List Char, (∃ numeral : Numeral, numeral.unsigned = body) →
      ∃ numeral : Numeral, number.signText ++ body = numeral.chars number.negative := by
    rintro _ ⟨numeral, rfl⟩
    exact ⟨numeral, rfl⟩
  unfold Binary64.dataText
  simp only [finite, Bool.not_true, Bool.false_eq_true, if_false]
  split
  next zero =>
    rw [String.toList_ofList]
    have zeros := Numeral.unsigned_ofPlaces Numeral.digits_zero (fun _ => rfl) Numeral.digits_zero
    exact signed _ ⟨_, zeros⟩
  next nonzero =>
    have digits := Binary64.shortest_ne_zero (by simpa using nonzero) .even
    rw [String.toList_ofList]
    apply signed
    split
    next => exact Numeral.exists_of_scientific digits
    next =>
      split
      next whole => exact Numeral.exists_of_positional_whole digits whole
      next places => exact Numeral.exists_of_positional_fraction digits (Int.not_le.mp places)

end Json

end SlotFilling
