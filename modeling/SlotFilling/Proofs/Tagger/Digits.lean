import SlotFilling.Proofs.Number.Words
import SlotFilling.Proofs.Text.Lowercase
import SlotFilling.Tagger.Basic

/-!
# Words with digits

A word in the form of a number has a decimal digit of some script, and letter case leaves
digits alone. So such a word is no name of a month, no entry of the English lexicon and no
part of one. A day of the month is the only other reading it can have, and a day is always
small and written in ASCII.
-/
namespace SlotFilling

namespace Text

/-- A text without decimal digits of any script. -/
def Digitless (text : List Char) : Prop :=
  ∀ character ∈ text, isDecimalDigit character = false

instance (text : List Char) : Decidable (Digitless text) :=
  List.decidableBAll (fun character => isDecimalDigit character = false) text

/-- All spans of the table but the first lie beyond ASCII. -/
theorem isDecimalDigit_of_ascii {character : Char} (ascii : character.toNat < 0x80)
    (other : character.isDigit = false) : isDecimalDigit character = false := by
  have spans : ∀ span ∈ decimalDigitSpans, span = ⟨0x30, 0x39⟩ ∨ 0x80 ≤ span.first := by
    decide +kernel
  rw [Bool.eq_false_iff, isDecimalDigit, ne_eq, inSpans_iff]
  rintro ⟨span, listed, lower, upper⟩
  rcases spans span listed with rfl | beyond
  · have digit : character.isDigit = true := by
      simpa [Char.isDigit, UInt32.le_iff_toNat_le] using And.intro lower upper
    rw [digit] at other
    cases other
  · omega

/-- A text of ASCII characters without ASCII digits. -/
def PlainAscii (text : List Char) : Prop :=
  ∀ character ∈ text, character.toNat < 0x80 ∧ character.isDigit = false

instance (text : List Char) : Decidable (PlainAscii text) :=
  List.decidableBAll (fun character : Char => character.toNat < 0x80 ∧ character.isDigit = false)
    text

theorem PlainAscii.digitless {text : List Char} (plain : PlainAscii text) : Digitless text :=
  fun character member =>
    isDecimalDigit_of_ascii (plain character member).1 (plain character member).2

/-- Digits and capitals lie apart in the tables. -/
theorem digits_apart : Apart decimalDigitSpans capitalSpans := by
  decide +kernel

theorem toLower_of_isDecimalDigit {digit : Char} (decimal : isDecimalDigit digit = true) :
    digit.toLower = digit := by
  have plain := digits_apart.not_inSpans decimal
  apply Char.toLower_eq_of_not_isUpper
  intro upper
  simp only [Char.isUpper, decide_eq_true_eq] at upper
  have capital : inSpans capitalSpans digit = true :=
    (inSpans_iff _ digit).mpr ⟨⟨0x41, 0x5A⟩, List.mem_cons_self, upper⟩
  rw [plain] at capital
  cases capital

theorem mem_lowerAfter_of_isDecimalDigit {digit : Char} (decimal : isDecimalDigit digit = true)
    {text : List Char} (member : digit ∈ text) (before : List Char) :
    digit ∈ lowerAfter before text := by
  induction text generalizing before with
  | nil => cases member
  | cons character after ih =>
    rw [lowerAfter, List.mem_append]
    rcases List.mem_cons.mp member with rfl | later
    · left
      rw [smallForm_of_not_capital (digits_apart.not_inSpans decimal)]
      exact List.mem_singleton_self digit
    · exact .inr (ih later (character :: before))

theorem digitless_of_lower {text : String} (clear : Digitless (lower text).toList) :
    Digitless text.toList := by
  intro character member
  by_contra decimal
  rw [Bool.not_eq_false] at decimal
  -- A digit of the text would be a digit of its lower case.
  have kept := mem_lowerAfter_of_isDecimalDigit decimal member []
  rw [lower, String.toList_ofList, lowerChars] at clear
  exact absurd (clear character kept) (by simp [decimal])

theorem digitless_of_sameIgnoringCase {word name : String}
    (same : sameIgnoringCase word name = true)
    (clear : Digitless (name.toList.map Char.toLower)) : Digitless word.toList := by
  rw [sameIgnoringCase, beq_iff_eq] at same
  intro character member
  by_contra decimal
  rw [Bool.not_eq_false] at decimal
  have kept : character.toLower ∈ name.toList.map Char.toLower :=
    same ▸ List.mem_map_of_mem member
  rw [toLower_of_isDecimalDigit decimal] at kept
  exact absurd (clear character kept) (by simp [decimal])

end Text

/-! ## Names without digits -/

theorem digitless_of_monthNumber? {word : String} {month : Nat}
    (named : monthNumber? word = some month) : Text.Digitless word.toList := by
  have names : ∀ name ∈ monthNames, Text.PlainAscii (name.toList.map Char.toLower) ∧
      Text.PlainAscii ((name.toList.take 3).map Char.toLower) := by
    decide +kernel
  obtain ⟨index, found, _⟩ := Option.map_eq_some_iff.mp named
  obtain ⟨inside, isNamed, _⟩ := List.findIdx?_eq_some_iff_getElem.mp found
  obtain ⟨full, short⟩ := names _ (List.getElem_mem inside)
  rw [namesMonth, Bool.or_eq_true] at isNamed
  rcases isNamed with same | same
  · exact Text.digitless_of_sameIgnoringCase same full.digitless
  · apply Text.digitless_of_sameIgnoringCase same
    rw [String.toList_ofList]
    exact short.digitless

theorem digitless_of_mem_joinWords {words : List String} {word : String} (member : word ∈ words)
    (clear : Text.Digitless (joinWords words).toList) : Text.Digitless word.toList := by
  intro character inside
  apply clear
  rw [joinWords, String.toList_ofList]
  exact Text.mem_intercalate (List.mem_map_of_mem member) inside

namespace Lexicon

/-- An entry of the English lexicon is one of the listed words. -/
theorem listed_of_english {text : String} {entry : String × List String}
    (present : english.entry? text = some entry) :
    (Text.lower text, entry.1 :: entry.2) ∈ englishWords := by
  unfold entry? at present
  split at present
  next primary others found =>
    cases present
    exact Dictionary.mem_ofList (Dictionary.mem_of_get? found)
  next => cases present

theorem digitless_of_english {text : String} {entry : String × List String}
    (present : english.entry? text = some entry) : Text.Digitless text.toList := by
  have words : ∀ listed ∈ englishWords, Text.PlainAscii listed.1.toList := by decide +kernel
  have plain := words (Text.lower text, entry.1 :: entry.2) (listed_of_english present)
  exact Text.digitless_of_lower plain.digitless

theorem digitless_of_isVerb {text : String} (verb : english.isVerb text = true) :
    Text.Digitless text.toList := by
  unfold isVerb at verb
  split at verb
  next present => exact digitless_of_english present
  next => cases verb

end Lexicon

/-! ## Number words -/

theorem mem_takeSign_or {word : List Char} {character : Char} (member : character ∈ word) :
    character ∈ (Decimal.takeSign word).2 ∨ character = '+' ∨ character = '-' := by
  unfold Decimal.takeSign
  split
  · rcases List.mem_cons.mp member with rfl | later
    · exact .inr (.inr rfl)
    · exact .inl later
  · rcases List.mem_cons.mp member with rfl | later
    · exact .inr (.inl rfl)
    · exact .inl later
  · exact .inl member

theorem character_of_isNumber {word : List Char} (number : isNumber word = true) :
    ∀ character ∈ word, Text.isDecimalDigit character = true ∨ character ∈ ['.', '+', '-'] := by
  intro character member
  rw [isNumber_eq] at number
  rcases mem_takeSign_or member with inside | rfl | rfl
  · obtain ⟨whole, shape⟩ := isUnsignedNumber_eq_true number
    simp only [isDigits, Bool.and_eq_true, List.all_eq_true] at whole
    rcases shape with same | ⟨fraction, same, more⟩
    · rw [same] at inside
      exact .inl (whole.2 character inside)
    · simp only [isDigits, Bool.and_eq_true, List.all_eq_true] at more
      rw [same] at inside
      rcases List.mem_append.mp inside with before | after
      · exact .inl (whole.2 character before)
      · rcases List.mem_cons.mp after with rfl | decimal
        · simp
        · exact .inl (more.2 character decimal)
  · simp
  · simp

theorem not_digitless_of_isNumber {word : List Char} (number : isNumber word = true) :
    ¬ Text.Digitless word := by
  rw [isNumber_eq] at number
  have whole := (isUnsignedNumber_eq_true number).1
  simp only [isDigits, Bool.and_eq_true, Bool.not_eq_true', List.isEmpty_eq_false_iff,
    List.all_eq_true] at whole
  obtain ⟨digit, member⟩ := List.exists_mem_of_ne_nil _ whole.1
  intro clear
  have inside := mem_of_mem_takeSign ((List.takeWhile_sublist _).mem member)
  have decimal := whole.2 digit member
  simp [clear digit inside] at decimal

theorem isEmail_of_isNumber {word : List Char} (number : isNumber word = true) :
    isEmail word = false := by
  have noSign : '@' ∉ word := by
    intro member
    rcases character_of_isNumber number '@' member with decimal | other
    · exact absurd decimal (by decide +kernel)
    · exact absurd other (by decide)
  simp only [isEmail, Text.dropWhile_of_not_mem noSign]

/-! ## Days -/

theorem wholePart_sublist (word : List Char) : (wholePart word).Sublist word := by
  refine (List.takeWhile_sublist _).trans ?_
  unfold Decimal.takeSign
  split
  · exact List.sublist_cons_self _ _
  · exact List.sublist_cons_self _ _
  · exact List.Sublist.refl _

theorem representable_of_digits {word : List Char} (ascii : ∀ digit ∈ word, digit.isDigit = true)
    (short : word.length ≤ 2) : Representable word where
  ascii := fun digit member _ => ascii digit member
  bounded := by
    have within := wholePart_sublist word
    have small := digitsValue_lt (wholePart word)
      (fun digit member => ascii digit (within.mem member))
    have few : (wholePart word).length ≤ 2 := within.length_le.trans short
    have power : 10 ^ (wholePart word).length ≤ 10 ^ 2 := Nat.pow_le_pow_right (by omega) few
    have range : 10 ^ 2 ≤ Binary64.overflow := by decide +kernel
    omega

/-- A number word that names a day has a value. -/
theorem representable_of_dayNumber? {word : String} {day : Nat}
    (named : dayNumber? word = some day) (number : isNumber word.toList = true) :
    Representable word.toList := by
  simp only [dayNumber?] at named
  split at named
  next form =>
    obtain ⟨count, ending⟩ := form
    have whole := List.takeWhile_append_dropWhile (p := Char.isDigit) (l := word.toList)
    have nothing : word.toList.dropWhile Char.isDigit = [] := by
      -- The letters of an ordinal are no characters of a number.
      by_contra rest
      obtain ⟨letter, isLetter⟩ := List.exists_mem_of_ne_nil _ rest
      have inside := (List.dropWhile_sublist Char.isDigit).mem isLetter
      have allowed := character_of_isNumber number letter inside
      have letters : ∀ ending ∈ ordinalEndings, ending.all (fun letter =>
          !Text.isDecimalDigit letter && !(['.', '+', '-'].contains letter)) = true := by
        decide +kernel
      have excluded := List.all_eq_true.mp (letters _ ending) letter isLetter
      rw [Bool.and_eq_true, Bool.not_eq_true', Bool.not_eq_true'] at excluded
      rcases allowed with decimal | other
      · exact Bool.false_ne_true (excluded.1.symm.trans decimal)
      · exact Bool.false_ne_true (excluded.2.symm.trans (List.contains_iff_mem.mpr other))
    rw [nothing, List.append_nil] at whole
    rw [← whole]
    refine representable_of_digits (fun digit member => List.mem_takeWhile_imp member) ?_
    omega
  next => cases named

/-! ## Days and months -/

theorem monthNumber?_of_dayNumber? {word : String} {day : Nat}
    (named : dayNumber? word = some day) : monthNumber? word = none := by
  rw [Option.eq_none_iff_forall_ne_some]
  intro month isMonth
  simp only [dayNumber?, Option.ite_none_right_eq_some] at named
  obtain ⟨⟨count, _⟩, _⟩ := named
  have nonempty : word.toList.takeWhile Char.isDigit ≠ [] := by
    rw [← List.length_pos_iff]
    omega
  obtain ⟨digit, member⟩ := List.exists_mem_of_ne_nil _ nonempty
  have clear := digitless_of_monthNumber? isMonth digit ((List.takeWhile_sublist _).mem member)
  rw [Text.isDecimalDigit_of_isDigit digit (List.mem_takeWhile_imp member)] at clear
  cases clear

/-- Of two words that are a day and a month, only one can be the day. -/
theorem Tagger.dayAndMonth?_eq_some_iff {first second : String} {day month : Nat} :
    dayAndMonth? first second = some (day, month) ↔
      dayNumber? first = some day ∧ monthNumber? second = some month ∨
        monthNumber? first = some month ∧ dayNumber? second = some day := by
  unfold dayAndMonth?
  split
  next firstDay secondMonth isDay isMonth =>
    -- The first word is a day, so it is no month.
    simp [isDay, isMonth, monthNumber?_of_dayNumber? isDay]
  next noDayMonth =>
    have other : ¬ (dayNumber? first = some day ∧ monthNumber? second = some month) :=
      fun both => noDayMonth _ _ both.1 both.2
    simp only [other, false_or]
    split
    next isMonth isDay => simp [isMonth, isDay, and_comm]
    next noMonthDay =>
      simp only [reduceCtorEq, false_iff]
      exact fun both => noMonthDay _ _ both.1 both.2

end SlotFilling
