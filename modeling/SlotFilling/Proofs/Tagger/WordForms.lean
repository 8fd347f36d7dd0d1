import SlotFilling.Proofs.Tagger.LongestMatch
import SlotFilling.Proofs.Text.Languages
import SlotFilling.Proofs.Text.Marks

/-!
# Email addresses and numbers

Both forms are given by patterns, languages made from classes of characters. The pattern of an
address is ambiguous: a dot may stand in the host, and a dot divides the host from the ending.
As the ending has only letters, a cut that fits the pattern is at the last dot, and an address
is recognised by that cut alone. No word has both forms. A word with one of them gets its token
from the form, whatever the lexicon lists, and any other word can come under the emails or the
numbers only through the lexicon.
-/
namespace SlotFilling

open Text

/-! ## Email addresses -/

def asciiLetters : Set Char := {character | character.isAlpha = true}

def mailboxCharacters : Set Char :=
  {character | character.isAlphanum = true ∨ character ∈ ['.', '_', '%', '+', '-']}

def hostCharacters : Set Char :=
  {character | character.isAlphanum = true ∨ character ∈ ['.', '-']}

/-- A host, a dot, and two or more letters. -/
def domainPattern : Language Char :=
  many (oneOf hostCharacters) * (oneOf {'.'} * (oneOf asciiLetters * many (oneOf asciiLetters)))

/-- A mailbox name, an at sign and a domain. -/
def emailPattern : Language Char :=
  many (oneOf mailboxCharacters) * (oneOf {'@'} * domainPattern)

/-- A host before the last dot, and two or more letters after it. -/
def SpellsDomain (domain : List Char) : Prop :=
  ∃ host ending, domain = host ++ '.' :: ending ∧ '.' ∉ ending ∧ IsRow hostCharacters host ∧
    2 ≤ ending.length ∧ ∀ character ∈ ending, character ∈ asciiLetters

/-- A mailbox name before the only at sign, and a domain after it. -/
def SpellsEmail (word : List Char) : Prop :=
  word.count '@' = 1 ∧ ∃ mailbox domain, word = mailbox ++ '@' :: domain ∧
    IsRow mailboxCharacters mailbox ∧ SpellsDomain domain

theorem isMailboxCharacter_iff (character : Char) :
    isMailboxCharacter character = true ↔ character ∈ mailboxCharacters := by
  have marks : "._%+-".toList = ['.', '_', '%', '+', '-'] := by decide +kernel
  simp [isMailboxCharacter, mailboxCharacters, marks]

theorem isHostCharacter_iff (character : Char) :
    isHostCharacter character = true ↔ character ∈ hostCharacters := by
  simp [isHostCharacter, hostCharacters, or_assoc]

theorem at_not_mem_mailboxCharacters : '@' ∉ mailboxCharacters := by
  simp [mailboxCharacters]

theorem at_not_mem_hostCharacters : '@' ∉ hostCharacters := by
  simp [hostCharacters]

/-- The recogniser reads a domain from its end, so it cuts at the last dot. -/
theorem isDomain_append {host ending : List Char} (clear : '.' ∉ ending) :
    isDomain (host ++ '.' :: ending) = true ↔
      IsRow hostCharacters host ∧ 2 ≤ ending.length ∧
        ∀ character ∈ ending, character ∈ asciiLetters := by
  have reversed : (host ++ '.' :: ending).reverse = ending.reverse ++ '.' :: host.reverse := by simp
  have clearReversed : '.' ∉ ending.reverse := by simpa using clear
  simp only [isDomain, reversed, dropWhile_append_mark clearReversed,
    takeWhile_append_mark clearReversed]
  simp [IsRow, isHostCharacter_iff, asciiLetters, and_assoc]

theorem isDomain_iff {domain : List Char} : isDomain domain = true ↔ SpellsDomain domain := by
  constructor
  · intro accepted
    have dotted : '.' ∈ domain := by
      by_contra undotted
      have nothing := dropWhile_of_not_mem (fun inside => undotted (List.mem_reverse.mp inside))
      simp only [isDomain, nothing, Bool.false_eq_true] at accepted
    obtain ⟨host, ending, rfl, clear⟩ := exists_last_mark dotted
    exact ⟨host, ending, rfl, clear, (isDomain_append clear).mp accepted⟩
  · rintro ⟨host, ending, rfl, clear, parts⟩
    exact (isDomain_append clear).mpr parts

/-- The dots of a host do not matter: the ending has none, so it starts at the last dot. -/
theorem mem_domainPattern_iff {domain : List Char} :
    domain ∈ domainPattern ↔ SpellsDomain domain := by
  simp only [domainPattern, mem_mul_mark_iff, mem_many_oneOf_iff, mem_oneOf_mul_many_iff]
  constructor
  · rintro ⟨host, ending, rfl, isHost, several, letters⟩
    have clear : '.' ∉ ending := fun dot => absurd (letters '.' dot) (by simp [asciiLetters])
    exact ⟨host, ending, rfl, clear, isHost, several, letters⟩
  · rintro ⟨host, ending, rfl, _, isHost, several, letters⟩
    exact ⟨host, ending, rfl, isHost, several, letters⟩

theorem SpellsDomain.not_mem {domain : List Char} (spells : SpellsDomain domain) :
    '@' ∉ domain := by
  obtain ⟨host, ending, rfl, _, isHost, _, letters⟩ := spells
  intro inside
  rcases List.mem_append.mp inside with inHost | later
  · exact isHost.not_mem at_not_mem_hostCharacters inHost
  · rcases List.mem_cons.mp later with same | inEnding
    · exact absurd same (by decide)
    · exact absurd (letters '@' inEnding) (by simp [asciiLetters])

/-- Neither part of an address has an at sign of its own. -/
theorem spellsEmail_append {mailbox domain : List Char} (name : IsRow mailboxCharacters mailbox)
    (spells : SpellsDomain domain) : SpellsEmail (mailbox ++ '@' :: domain) := by
  refine ⟨?_, mailbox, domain, rfl, name, spells⟩
  rw [List.count_append, List.count_cons_self, List.count_eq_zero.mpr spells.not_mem,
    List.count_eq_zero.mpr (name.not_mem at_not_mem_mailboxCharacters)]

theorem isEmail_append {mailbox domain : List Char} (clear : '@' ∉ mailbox) :
    isEmail (mailbox ++ '@' :: domain) = true ↔
      IsRow mailboxCharacters mailbox ∧ SpellsDomain domain := by
  simp only [isEmail, dropWhile_append_mark clear, takeWhile_append_mark clear]
  simp [IsRow, isMailboxCharacter_iff, isDomain_iff]

theorem isEmail_iff {word : List Char} : isEmail word = true ↔ SpellsEmail word := by
  constructor
  · intro accepted
    have signed : '@' ∈ word := by
      by_contra unsigned
      simp only [isEmail, dropWhile_of_not_mem unsigned, Bool.false_eq_true] at accepted
    obtain ⟨mailbox, domain, rfl, clear⟩ := List.eq_append_cons_of_mem signed
    obtain ⟨name, spells⟩ := (isEmail_append clear).mp accepted
    exact spellsEmail_append name spells
  · rintro ⟨_, mailbox, domain, rfl, name, spells⟩
    have clear := name.not_mem at_not_mem_mailboxCharacters
    exact (isEmail_append clear).mpr ⟨name, spells⟩

theorem mem_emailPattern_iff {word : List Char} : word ∈ emailPattern ↔ SpellsEmail word := by
  simp only [emailPattern, mem_mul_mark_iff, mem_many_oneOf_iff, mem_domainPattern_iff]
  constructor
  · rintro ⟨mailbox, domain, rfl, name, spells⟩
    exact spellsEmail_append name spells
  · rintro ⟨_, mailbox, domain, rfl, name, spells⟩
    exact ⟨mailbox, domain, rfl, name, spells⟩

instance (word : List Char) : Decidable (SpellsEmail word) := decidable_of_iff _ isEmail_iff

/-- Every cut of the domain but the last is at a dot of the host. -/
example : SpellsEmail "tea+cake@-shop..co.uk".toList ∧ ¬ SpellsEmail "tea@shop.co.u".toList ∧
    ¬ SpellsEmail "tea@.uk".toList ∧ ¬ SpellsEmail "tea@cake@shop.uk".toList := by
  decide

/-! ## Numbers -/

def digitCharacters : Set Char := {character | isDecimalDigit character = true}

/-- Digits, and possibly a point and more digits. -/
def unsignedPattern : Language Char :=
  many (oneOf digitCharacters) * (1 + oneOf {'.'} * many (oneOf digitCharacters))

def signPattern : Language Char := 1 + oneOf {'+', '-'}

/-- A sign or none, and an unsigned number. -/
def numberPattern : Language Char := signPattern * unsignedPattern

/-- Digits, and behind them nothing or a point and more digits. -/
def SpellsUnsigned (text : List Char) : Prop :=
  ∃ whole tail, text = whole ++ tail ∧ IsRow digitCharacters whole ∧
    (tail = [] ∨ ∃ fraction, tail = '.' :: fraction ∧ IsRow digitCharacters fraction)

/-- An unsigned number with at most one sign in front of it. -/
def SpellsNumber (word : List Char) : Prop :=
  ∃ sign ∈ [[], ['+'], ['-']], ∃ unsigned, word = sign ++ unsigned ∧ SpellsUnsigned unsigned

theorem mark_not_mem_digitCharacters {mark : Char} (isMark : mark ∈ ['.', '+', '-']) :
    mark ∉ digitCharacters := by
  have marks : Digitless ['.', '+', '-'] := by decide +kernel
  simp [digitCharacters, marks mark isMark]

theorem isDigits_iff {text : List Char} : isDigits text = true ↔ IsRow digitCharacters text := by
  simp [isDigits, IsRow, digitCharacters]

theorem isUnsignedNumber_iff {text : List Char} :
    isUnsignedNumber text = true ↔ SpellsUnsigned text := by
  constructor
  · intro accepted
    obtain ⟨whole, shape⟩ := isUnsignedNumber_eq_true accepted
    rcases shape with same | ⟨fraction, same, digits⟩
    · exact ⟨_, [], by rwa [List.append_nil], isDigits_iff.mp whole, .inl rfl⟩
    · exact ⟨_, _, same, isDigits_iff.mp whole, .inr ⟨fraction, rfl, isDigits_iff.mp digits⟩⟩
  · rintro ⟨whole, tail, rfl, digits, shape⟩
    have clear : '.' ∉ whole := digits.not_mem (mark_not_mem_digitCharacters (by simp))
    rcases shape with rfl | ⟨fraction, rfl, more⟩
    · rw [List.append_nil]
      simp only [isUnsignedNumber, takeWhile_of_not_mem clear, dropWhile_of_not_mem clear,
        isDigits_iff.mpr digits, Bool.and_self]
    · simp only [isUnsignedNumber, takeWhile_append_mark clear, dropWhile_append_mark clear,
        isDigits_iff.mpr digits, isDigits_iff.mpr more, Bool.and_self]

/-- A number without a sign starts with a digit, so no sign is taken off it. -/
theorem isNumber_of_isUnsignedNumber {text : List Char} (number : isUnsignedNumber text = true) :
    isNumber text = true := by
  obtain ⟨whole, tail, rfl, digits, _⟩ := isUnsignedNumber_iff.mp number
  obtain ⟨first, rest, rfl⟩ := List.exists_cons_of_ne_nil digits.1
  have digit := digits.2 first List.mem_cons_self
  have unsigned : (first == '+' || first == '-') = false := by
    rw [Bool.or_eq_false_iff, beq_eq_false_iff_ne, beq_eq_false_iff_ne]
    exact ⟨fun plus => mark_not_mem_digitCharacters (by simp [plus]) digit,
      fun minus => mark_not_mem_digitCharacters (by simp [minus]) digit⟩
  rw [List.cons_append] at number ⊢
  rw [isNumber, unsigned]
  exact number

theorem isNumber_iff {word : List Char} : isNumber word = true ↔ SpellsNumber word := by
  constructor
  · intro accepted
    unfold isNumber at accepted
    split at accepted
    next => cases accepted
    next first rest =>
      split at accepted
      next signed =>
        have isSign : [first] ∈ [[], ['+'], ['-']] := by simpa using signed
        exact ⟨[first], isSign, rest, rfl, isUnsignedNumber_iff.mp accepted⟩
      next => exact ⟨[], by simp, first :: rest, rfl, isUnsignedNumber_iff.mp accepted⟩
  · rintro ⟨sign, isSign, unsigned, rfl, spells⟩
    have accepted := isUnsignedNumber_iff.mpr spells
    simp only [List.mem_cons, List.not_mem_nil, or_false] at isSign
    rcases isSign with rfl | rfl | rfl
    · exact isNumber_of_isUnsignedNumber accepted
    · exact accepted
    · exact accepted

theorem mem_unsignedPattern_iff {text : List Char} :
    text ∈ unsignedPattern ↔ SpellsUnsigned text := by
  rw [unsignedPattern, Language.mem_mul]
  simp only [Language.mem_add, Language.mem_one, mem_oneOf_mul_iff, mem_many_oneOf_iff]
  constructor
  · rintro ⟨whole, digits, tail, shape, rfl⟩
    refine ⟨whole, tail, rfl, digits, shape.imp_right ?_⟩
    rintro ⟨_, fraction, rfl, rfl, more⟩
    exact ⟨fraction, rfl, more⟩
  · rintro ⟨whole, tail, rfl, digits, shape⟩
    refine ⟨whole, digits, tail, shape.imp_right ?_, rfl⟩
    rintro ⟨fraction, rfl, more⟩
    exact ⟨_, fraction, rfl, rfl, more⟩

theorem mem_signPattern_iff {sign : List Char} :
    sign ∈ signPattern ↔ sign ∈ [[], ['+'], ['-']] := by
  simp only [signPattern, Language.mem_add, Language.mem_one, List.mem_cons, List.not_mem_nil,
    or_false]
  refine or_congr_right ⟨?_, ?_⟩
  · rintro ⟨_, rfl | rfl, rfl⟩
    · exact .inl rfl
    · exact .inr rfl
  · rintro (rfl | rfl)
    · exact ⟨'+', .inl rfl, rfl⟩
    · exact ⟨'-', .inr rfl, rfl⟩

theorem mem_numberPattern_iff {word : List Char} : word ∈ numberPattern ↔ SpellsNumber word := by
  simp only [numberPattern, Language.mem_mul, mem_signPattern_iff, mem_unsignedPattern_iff]
  constructor
  · rintro ⟨sign, isSign, unsigned, spells, rfl⟩
    exact ⟨sign, isSign, unsigned, rfl, spells⟩
  · rintro ⟨sign, isSign, unsigned, rfl, spells⟩
    exact ⟨sign, isSign, unsigned, spells, rfl⟩

instance (word : List Char) : Decidable (SpellsNumber word) := decidable_of_iff _ isNumber_iff

/-- Digits of any script count, and they stand on both sides of a point. -/
example : SpellsNumber "-٣٤.5".toList ∧ ¬ SpellsNumber ".5".toList ∧ ¬ SpellsNumber "5.".toList ∧
    ¬ SpellsNumber "+-5".toList := by
  decide +kernel

/-- A number has no at sign. -/
theorem SpellsNumber.not_spellsEmail {word : List Char} (number : SpellsNumber word) :
    ¬ SpellsEmail word := by
  rw [← isEmail_iff, isEmail_of_isNumber (isNumber_iff.mpr number)]
  exact Bool.false_ne_true

/-! ## Tokens of single words -/

/-- Some word is listed under the category, letter case ignored. -/
def Lexicon.HasCategory (lexicon : Lexicon) (category : String) : Prop :=
  ∃ listed ∈ lexicon.words.entries, ∃ named ∈ listed.2, sameIgnoringCase named category = true

instance (lexicon : Lexicon) (category : String) : Decidable (lexicon.HasCategory category) :=
  inferInstanceAs (Decidable (∃ listed ∈ lexicon.words.entries, ∃ named ∈ listed.2,
    sameIgnoringCase named category = true))

namespace Tagger

variable {tagger : Tagger} {position : Nat} {word category : String}

/-- A category that no plain entry has, whatever the letter case. -/
def Reserved (category : String) : Prop :=
  ∀ entry ∈ plainEntries, ∀ named ∈ entry.1 :: entry.2, sameIgnoringCase named category = false

theorem wordToken_of_isEmail (tagger : Tagger) (position : Nat)
    (email : isEmail word.toList = true) : tagger.wordToken position word = emailToken word := by
  unfold wordToken
  simp only [email, if_true]
  rfl

theorem wordToken_of_isNumber (tagger : Tagger) (place : Nat)
    (number : isNumber word.toList = true) :
    tagger.wordToken place word = numberToken word := by
  unfold wordToken
  simp only [isEmail_of_isNumber number, number, Bool.false_eq_true, if_false, if_true]
  rfl

/-- A word can come under a reserved category by its form or through the lexicon. -/
theorem belongs_wordToken_iff (reserved : Reserved category)
    (unlisted : ¬ tagger.lexicon.HasCategory category) :
    (tagger.wordToken position word).belongs category = true ↔
      isEmail word.toList = true ∧ (emailToken word).belongs category = true ∨
        isNumber word.toList = true ∧ (numberToken word).belongs category = true := by
  rcases wordToken_cases tagger position word with
    ⟨email, token⟩ | ⟨noEmail, number, token⟩ | ⟨noEmail, noNumber, entry, token, source⟩
  · have noNumber : ¬ isNumber word.toList = true := fun number => by
      simp [isEmail_of_isNumber number] at email
    simp [token, email, noNumber]
  · simp [token, noEmail, number]
  · simp only [token, noEmail, noNumber, Token.belongs_ofEntry, Bool.false_eq_true, false_and,
      or_self, iff_false]
    -- The categories are those of an entry of the lexicon, or plain ones.
    rintro ⟨named, member, same⟩
    rcases source with present | plain
    · have listed := Dictionary.mem_of_get? (Lexicon.entry?_eq_some_iff.mp present)
      exact unlisted ⟨_, listed, named, member, same⟩
    · rw [reserved entry plain named member] at same
      cases same

theorem belongs_emailToken_iff : (emailToken word).belongs category = true ↔
    ∃ named ∈ ["Email", "Noun"], sameIgnoringCase named category = true :=
  Token.belongs_ofEntry word ("Email", ["Noun"]) category

theorem belongs_numberToken_iff : (numberToken word).belongs category = true ↔
    ∃ named ∈ ["Value", "Number"], sameIgnoringCase named category = true :=
  Token.belongs_ofEntry word ("Value", ["Number"]) category

theorem belongs_email_iff (unlisted : ¬ tagger.lexicon.HasCategory "email") :
    (tagger.wordToken position word).belongs "email" = true ↔ SpellsEmail word.toList := by
  have reserved : Reserved "email" := by unfold Reserved; decide +kernel
  have own : ∃ named ∈ ["Email", "Noun"], sameIgnoringCase named "email" = true := by
    decide +kernel
  have foreign : ¬ ∃ named ∈ ["Value", "Number"], sameIgnoringCase named "email" = true := by
    decide +kernel
  rw [belongs_wordToken_iff reserved unlisted, belongs_emailToken_iff, belongs_numberToken_iff,
    isEmail_iff]
  simp only [own, foreign, and_true, and_false, or_false]

theorem belongs_number_iff (unlisted : ¬ tagger.lexicon.HasCategory "number") :
    (tagger.wordToken position word).belongs "number" = true ↔ SpellsNumber word.toList := by
  have reserved : Reserved "number" := by unfold Reserved; decide +kernel
  have own : ∃ named ∈ ["Value", "Number"], sameIgnoringCase named "number" = true := by
    decide +kernel
  have foreign : ¬ ∃ named ∈ ["Email", "Noun"], sameIgnoringCase named "number" = true := by
    decide +kernel
  rw [belongs_wordToken_iff reserved unlisted, belongs_emailToken_iff, belongs_numberToken_iff,
    isNumber_iff]
  simp only [own, foreign, and_true, and_false, false_or]

/-- The form of a word alone decides its token, if it has one of the two. -/
theorem wordToken_of_spells (tagger other : Tagger) (position place : Nat)
    (formed : SpellsEmail word.toList ∨ SpellsNumber word.toList) :
    tagger.wordToken position word = other.wordToken place word := by
  rcases formed with email | number
  · have accepted := isEmail_iff.mpr email
    rw [wordToken_of_isEmail tagger position accepted, wordToken_of_isEmail other place accepted]
  · have accepted := isNumber_iff.mpr number
    rw [wordToken_of_isNumber tagger position accepted, wordToken_of_isNumber other place accepted]

/-- The patterns of the two forms have the languages that are spelled out. If no word is listed
under the emails or the numbers, a word comes under them by its form alone. No word has both
forms, and a word with one of them has the same token for all lexicons and positions. -/
theorem wordToken_recognizes (word : String) :
    (word.toList ∈ emailPattern ↔ SpellsEmail word.toList) ∧
      (word.toList ∈ numberPattern ↔ SpellsNumber word.toList) ∧
      (∀ (tagger : Tagger) (position : Nat), ¬ tagger.lexicon.HasCategory "email" →
        ¬ tagger.lexicon.HasCategory "number" →
          ((tagger.wordToken position word).belongs "email" = true ↔ SpellsEmail word.toList) ∧
          ((tagger.wordToken position word).belongs "number" = true ↔
            SpellsNumber word.toList)) ∧
      ¬ (SpellsEmail word.toList ∧ SpellsNumber word.toList) ∧
      (SpellsEmail word.toList ∨ SpellsNumber word.toList →
        ∀ (tagger other : Tagger) (position place : Nat),
          tagger.wordToken position word = other.wordToken place word) := by
  refine ⟨mem_emailPattern_iff, mem_numberPattern_iff, ?_, ?_, ?_⟩
  · intro tagger position noEmail noNumber
    exact ⟨belongs_email_iff noEmail, belongs_number_iff noNumber⟩
  · rintro ⟨email, number⟩
    exact number.not_spellsEmail email
  · intro formed tagger other position place
    exact wordToken_of_spells tagger other position place formed

/-- A tagger whose lexicon lists an address as a brand, as a currency and as a name. -/
def teaShopTagger : Tagger :=
  ⟨⟨.ofList [("tea@shop.co.uk", ["Brand"])], ["tea@shop.co.uk"], ["tea@shop.co.uk"]⟩, 2026⟩

theorem wordToken_recognizes_tea_shop :
    ¬ teaShopTagger.lexicon.HasCategory "email" ∧ ¬ teaShopTagger.lexicon.HasCategory "number" ∧
      SpellsEmail "tea@shop.co.uk".toList ∧
      (teaShopTagger.wordToken 3 "tea@shop.co.uk").belongs "email" = true ∧
      (teaShopTagger.wordToken 3 "tea@shop.co.uk").belongs "number" = false ∧
      teaShopTagger.wordToken 3 "tea@shop.co.uk" =
        wordToken ⟨⟨.ofList [("tea@shop.co.uk", ["Number"])], [], []⟩, 1999⟩ 0
          "tea@shop.co.uk" := by
  have noEmail : ¬ teaShopTagger.lexicon.HasCategory "email" := by decide +kernel
  have noNumber : ¬ teaShopTagger.lexicon.HasCategory "number" := by decide +kernel
  have spells : SpellsEmail "tea@shop.co.uk".toList := by decide +kernel
  obtain ⟨_, _, recognized, disjoint, same⟩ := wordToken_recognizes "tea@shop.co.uk"
  obtain ⟨email, number⟩ := recognized teaShopTagger 3 noEmail noNumber
  refine ⟨noEmail, noNumber, spells, email.mpr spells, ?_, same (.inl spells) _ _ _ _⟩
  rw [Bool.eq_false_iff]
  exact fun belongs => disjoint ⟨spells, number.mp belongs⟩

end Tagger

end SlotFilling
