import SlotFilling.Proofs.Search.Attempts
import SlotFilling.Proofs.Search.MismatchPolicy
import SlotFilling.Proofs.Tagger.WordForms

/-!
# Searching a text tagged with the English lexicon

A token belongs to the numbers only if it is a word in the form of a number, and to the
dates only if it carries a date. So the only tokens of a text that can be accepted without a
value of the right kind are number words that cannot be read: those with digits beyond
ASCII, and those too big for a finite number. A text without such words can be searched with
every rule set, and a text with one cannot.
-/
namespace SlotFilling

/-- The tagger of English texts whose dates without a year lie in `year`. -/
def Tagger.english (year : Int) : Tagger := ⟨.english, year⟩

/-! ## What tokens hold -/

/-- An entry whose categories all ask for texts. -/
def Textual (entry : String × List String) : Prop :=
  ∀ listed ∈ entry.1 :: entry.2, valueKind listed = .text

instance (entry : String × List String) : Decidable (Textual entry) :=
  inferInstanceAs (Decidable (∀ listed ∈ entry.1 :: entry.2, valueKind listed = .text))

theorem valueKind_of_belongs {text category : String} {entry : String × List String}
    (belongs : (Token.ofEntry text entry).belongs category = true) :
    ∃ listed ∈ entry.1 :: entry.2, valueKind category = valueKind listed := by
  obtain ⟨listed, member, same⟩ := (Token.belongs_ofEntry text entry category).mp belongs
  exact ⟨listed, member, (valueKind_congr same).symm⟩

theorem valueKind_of_textual {text category : String} {entry : String × List String}
    (textual : Textual entry) (belongs : (Token.ofEntry text entry).belongs category = true) :
    valueKind category = .text := by
  obtain ⟨listed, member, same⟩ := valueKind_of_belongs belongs
  exact same.trans (textual listed member)

theorem textual_of_english {text : String} {entry : String × List String}
    (present : Lexicon.english.entry? text = some entry) : Textual entry := by
  have words : ∀ listed ∈ Lexicon.englishWords, ∀ category ∈ listed.2,
      valueKind category = .text := by
    decide +kernel
  exact words (Text.lower text, entry.1 :: entry.2) (Lexicon.listed_of_english present)

namespace Tagger

variable {place : Nat} {year : Int} {word : String} {later : List String} {step : Step}

theorem Tagged.kind_of_belongs {token : Token} {category : String}
    (tagged : Tagged (english year) word token) (belongs : token.belongs category = true) :
    valueKind category = .text ∨
      valueKind category = .number ∧ isNumber word.toList = true ∧ token = numberToken word := by
  cases tagged with
  | number form =>
    obtain ⟨listed, member, same⟩ := valueKind_of_belongs belongs
    have kinds : ∀ listed ∈ ["Value", "Number"],
        valueKind listed = .text ∨ valueKind listed = .number := by
      decide +kernel
    rw [same]
    exact (kinds listed member).imp id (fun number => ⟨number, form, rfl⟩)
  | listed present => exact .inl (valueKind_of_textual (textual_of_english present) belongs)
  | unlisted entry isEntry =>
    have textual : ∀ entry ∈ unlistedEntries, Textual entry := by decide +kernel
    exact .inl (valueKind_of_textual (textual entry isEntry) belongs)

/-- What a step can put under a category: a text, a date with its value, or a number word. -/
theorem Grouped.kind_of_belongs {category : String}
    (grouped : Grouped (english year) place word later step)
    (belongs : step.token.belongs category = true) :
    valueKind category = .text ∨ (valueKind category = .date ∧ step.token.entity.isSome = true) ∨
      (valueKind category = .number ∧ isNumber word.toList = true ∧
        step.token = numberToken word) := by
  cases grouped with
  | @date second rest day dated =>
    -- The value attached to a date changes none of its categories.
    have entered : (Token.ofEntry (joinWords [word, second]) ("Date", ["Noun"])).belongs category =
        true := belongs
    obtain ⟨listed, member, same⟩ := valueKind_of_belongs entered
    have kinds : ∀ listed ∈ ["Date", "Noun"],
        valueKind listed = .text ∨ valueKind listed = .date := by
      decide +kernel
    rw [same]
    exact (kinds listed member).imp id (fun date => .inl ⟨date, rfl⟩)
  | phrase present => exact .inl (valueKind_of_textual (textual_of_english present) belongs)
  | infinitive => exact .inl (valueKind_of_textual (by decide +kernel) belongs)
  | single =>
    have tagged := wordToken_tagged (english year) place word
    exact (tagged.kind_of_belongs belongs).imp id .inr

/-- A number word without a value is never part of a date, a phrase or an infinitive. -/
theorem Grouped.token_of_unreadable (grouped : Grouped (english year) place word later step)
    {covered : String} (inside : covered ∈ word :: later.take step.extra)
    (number : isNumber covered.toList = true) (unreadable : ¬ Representable covered.toList) :
    step.token = numberToken covered := by
  have digits := not_digitless_of_isNumber number
  -- Days have values, and no other word that a longer step covers has a digit.
  cases grouped with
  | @date second rest day dated =>
    obtain ⟨named, found, _⟩ := Option.bind_eq_some_iff.mp dated
    have noDay : ∀ day, dayNumber? covered ≠ some day :=
      fun _ isDay => unreadable (representable_of_dayNumber? isDay number)
    have noMonth : ∀ month, monthNumber? covered ≠ some month :=
      fun _ isMonth => digits (digitless_of_monthNumber? isMonth)
    have either : covered = word ∨ covered = second := by simpa using inside
    rcases either with rfl | rfl <;>
      rcases dayAndMonth?_eq_some_iff.mp found with ⟨front, back⟩ | ⟨front, back⟩
    · exact absurd front (noDay _)
    · exact absurd front (noMonth _)
    · exact absurd back (noMonth _)
    · exact absurd back (noDay _)
  | phrase present =>
    exact absurd (digitless_of_mem_joinWords inside (Lexicon.digitless_of_english present)) digits
  | @infinitive second rest isTo verb =>
    have either : covered = word ∨ covered = second := by simpa using inside
    rcases either with rfl | rfl
    · exact absurd (Text.digitless_of_sameIgnoringCase isTo (by decide +kernel)) digits
    · exact absurd (Lexicon.digitless_of_isVerb verb) digits
  | single =>
    have same : covered = word := by simpa using inside
    subst same
    exact wordToken_of_isNumber _ place number

end Tagger

/-! ## Values of number words -/

/-- A number rule reads the token of a word exactly when the word has a value. -/
theorem valueOf?_numberToken {text word : String} (member : word ∈ strippedWords text)
    (number : isNumber word.toList = true) :
    ((Tagger.numberToken word).valueOf? .number).isSome = true ↔ Representable word.toList := by
  have sameText : (Tagger.numberToken word).text = word := Token.text_ofEntry word _
  rw [Token.valueOf?, sameText, Text.trim_of_not_isBlank (not_isBlank_of_mem_strippedWords member),
    Option.isSome_map]
  exact read?_isSome_iff number

/-! ## The tokens of a text -/

theorem readable_or_number {text : String} {year : Int} {token : Token} {pattern : Pattern}
    (member : token ∈ (Tagger.english year).tokenize text)
    (accepted : pattern.accepts token = true) :
    (pattern.value? token).isSome = true ∨
      valueKind pattern.category = .number ∧ ∃ word ∈ strippedWords text,
        isNumber word.toList = true ∧ token = Tagger.numberToken word := by
  obtain ⟨place, word, later, step, within, grouped, rfl⟩ := Tagger.grouped_of_mem_tagWords member
  rw [Pattern.accepts, Bool.and_eq_true] at accepted
  rcases grouped.kind_of_belongs accepted.1 with text | ⟨date, resolved⟩ | ⟨number, form, same⟩
  · left
    rw [Pattern.value?, text]
    rfl
  · left
    rw [Pattern.value?, date]
    exact resolved
  · exact .inr ⟨number, word, within.subset List.mem_cons_self, form, same⟩

theorem numberToken_mem_tokenize {text word : String} (year : Int)
    (member : word ∈ strippedWords text) (number : isNumber word.toList = true)
    (unreadable : ¬ Representable word.toList) :
    Tagger.numberToken word ∈ (Tagger.english year).tokenize text := by
  obtain ⟨place, first, later, step, grouped, inside, present⟩ := Tagger.covered_of_mem member
  rw [← grouped.token_of_unreadable inside number unreadable]
  exact present

theorem tokenize_of_number {text word : String} (tagger : Tagger)
    (single : strippedWords text = [word]) (number : isNumber word.toList = true) :
    tagger.tokenize text = [Tagger.numberToken word] := by
  have alone : ∀ longest, tagger.next longest 0 word [] = ⟨Tagger.numberToken word, 0⟩ := by
    intro longest
    rw [← Tagger.wordToken_of_isNumber tagger 0 number]
    cases longest <;> simp [Tagger.next, Tagger.dateAt?, Tagger.phraseAt?, Tagger.infinitiveAt?]
  rw [Tagger.tokenize, single, Tagger.tagWords, alone, List.drop_nil, Tagger.tagWords]

/-! ## The search -/

theorem number_word_of_error {text : String} {year : Int} {rules : RuleSet} {fault : Fault}
    (nonempty : rules ≠ [])
    (failed : search {} ((Tagger.english year).tokenize text) rules = .error fault) :
    ∃ rule ∈ rules, ∃ word ∈ strippedWords text,
      valueKind rule.pattern.category = .number ∧ isNumber word.toList = true ∧
        ¬ Representable word.toList ∧ fault = .typeMismatch rule.pattern.category word := by
  obtain ⟨rule, isRule, token, isToken, named, accepted, absent⟩ :=
    (search_ending {} _ rules nonempty).rule_of_error failed
  -- The token of a fault holds no value of the right kind, so it is a number word.
  rcases readable_or_number isToken accepted with readable | ⟨number, word, isWord, form, rfl⟩
  · rw [absent] at readable
    cases readable
  · rw [Tagger.numberToken, Token.text_ofEntry] at named
    refine ⟨rule, isRule, word, isWord, number, form, ?_, named⟩
    intro representable
    have read := (valueOf?_numberToken isWord form).mpr representable
    rw [Pattern.value?, number] at absent
    rw [absent] at read
    cases read

/-- A single rule for a number is enough to stop at a number word without a value. -/
theorem not_returns_of_unreadable {text word : String} (year : Int)
    (member : word ∈ strippedWords text) (number : isNumber word.toList = true)
    (unreadable : ¬ Representable word.toList) :
    ¬ ∃ results, search {} ((Tagger.english year).tokenize text)
      [.ofPattern ⟨none, "number", none⟩] = .ok results := by
  intro returns
  have clear := (search_abort_returns_iff _ [] _).mp returns
  have tried := TriedFrom.of_mem ⟨none, "number", none⟩ []
    (numberToken_mem_tokenize year member number unreadable)
  apply clear _ _ tried
  -- The token is tried as an anchor, so it is enough that the rule accepts it and cannot read it.
  have kind : valueKind "number" = .number := by decide +kernel
  constructor
  · have belongs : (Tagger.numberToken word).belongs "number" = true :=
      (Token.belongs_ofEntry word _ "number").mpr ⟨"Number", by simp, by decide +kernel⟩
    rw [Pattern.accepts, belongs]
    rfl
  · rw [Pattern.value?, kind, ← Option.not_isSome_iff_eq_none, valueOf?_numberToken member number]
    exact unreadable

/-- A search of an English text fails only for a rule that asks for a number, at a word in
the form of a number that has no value. It returns for every rule set exactly when the text
has no such word. -/
theorem search_tokenize_english (text : String) (year : Int) :
    (∀ rules : RuleSet, rules ≠ [] → ∀ fault,
      search {} ((Tagger.english year).tokenize text) rules = .error fault →
        ∃ rule ∈ rules, ∃ word ∈ strippedWords text,
          valueKind rule.pattern.category = .number ∧ isNumber word.toList = true ∧
            ¬ Representable word.toList ∧ fault = .typeMismatch rule.pattern.category word) ∧
    ((∀ rules : RuleSet, rules ≠ [] →
        ∃ results, search {} ((Tagger.english year).tokenize text) rules = .ok results) ↔
      ∀ word ∈ strippedWords text, isNumber word.toList = true → Representable word.toList) := by
  refine ⟨fun rules nonempty fault failed => number_word_of_error nonempty failed, ?_, ?_⟩
  · intro returns word member number
    by_contra unreadable
    exact not_returns_of_unreadable year member number unreadable (returns _ (List.cons_ne_nil _ _))
  · intro representable rules nonempty
    cases run : search {} ((Tagger.english year).tokenize text) rules with
    | ok results => exact ⟨results, rfl⟩
    | error fault =>
      obtain ⟨_, _, word, member, _, number, unreadable, _⟩ := number_word_of_error nonempty run
      exact absurd (representable word member number) unreadable

/-- Arabic digits have the form of a number, but a rule that asks for a number stops there. -/
theorem search_arabic_digits :
    search {} ((Tagger.english 2026).tokenize "٣٤")
        (.ofPatterns [⟨none, "number", none⟩, ⟨none, "email", none⟩]) =
      .error (.typeMismatch "number" "٣٤") := by
  have single : strippedWords "٣٤" = ["٣٤"] := by decide +kernel
  have number : isNumber "٣٤".toList = true := by decide +kernel
  rw [tokenize_of_number _ single number]
  decide +kernel

end SlotFilling
