import SlotFilling.Json.Encode
import SlotFilling.Proofs.Json.ReadBack
import SlotFilling.Proofs.Number.Display
import SlotFilling.Proofs.Pattern.ValueKind
import SlotFilling.Proofs.Search.Soundness
import SlotFilling.Proofs.Tagger.Steps

/-!
# Values captured from tagged texts

Whatever the lexicon lists, the tokens of a text have solid texts, and the only values they
carry are dates of the tagger's year. A category decides which of the two a rule captures, or
that it reads the text as a number. So the category alone tells the kind of every captured
value, and no value is written as null.
-/
namespace SlotFilling

/-! ## Numbers that are written -/

namespace Binary64

/-- The text of a finite number starts with a sign or a digit, so it is not null. -/
theorem dataText_ne_null {number : Binary64} (finite : number.isFinite = true) :
    number.dataText.toList ≠ "null".toList := by
  obtain ⟨numeral, written⟩ := Json.exists_numeral_of_isFinite finite
  obtain ⟨first, later, start, signOrDigit⟩ := numeral.chars_eq_cons number.negative
  rw [written, start]
  intro null
  have same : first = 'n' := (List.cons.inj null).1
  rw [same] at signOrDigit
  exact absurd signOrDigit (by decide)

end Binary64

/-! ## What the tokens of a text hold -/

namespace Tagger

variable {tagger : Tagger} {text : String} {token : Token}

theorem solid_of_mem_tokenize (member : token ∈ tagger.tokenize text) :
    token.text ≠ "" ∧ Text.Unpadded token.text.toList := by
  obtain ⟨word, later, spelled, covered⟩ := exists_words_of_mem_tokenize member
  have joined := unpadded_joinWords
    (fun each inside => toList_ne_nil_of_mem_strippedWords (covered each inside))
    (fun each inside => not_isBlank_of_mem_strippedWords (covered each inside))
  rw [spelled]
  exact ⟨fun empty => joined.1 (congrArg String.toList empty), joined.2⟩

theorem entity_of_mem_tokenize {value : SlotValue} (member : token ∈ tagger.tokenize text)
    (carried : token.entity = some value) :
    ∃ date, value = .date date ∧ date.year = tagger.year := by
  obtain ⟨place, word, later, step, _, grouped, rfl⟩ := grouped_of_mem_tagWords member
  exact grouped.entity carried

end Tagger

/-! ## What a rule captures -/

/-- A rule holds what its category asks for: a finite number, a date of some year, or else the
text of its token, with a solid character at both ends. -/
structure HoldsItsKind (year : Int) (rule : Rule) (token : Token) : Prop where
  number : Text.sameIgnoringCase rule.pattern.category "number" = true →
    ∃ number, rule.value = some (.number number) ∧ number.isFinite = true
  date : Text.sameIgnoringCase rule.pattern.category "date" = true →
    ∃ date, rule.value = some (.date date) ∧ date.year = year
  text : Text.sameIgnoringCase rule.pattern.category "number" = false →
    Text.sameIgnoringCase rule.pattern.category "date" = false →
      rule.value = some (.text token.text) ∧ token.text ≠ "" ∧ Text.Unpadded token.text.toList

/-- The rule accepts the token at a position of a tagged text and holds what its category asks
for there. -/
def HoldsItsKindAt (tagger : Tagger) (text : String) (rule : Rule) (position : Nat) : Prop :=
  ∃ token, (tagger.tokenize text)[position]? = some token ∧ rule.pattern.accepts token = true ∧
    HoldsItsKind tagger.year rule token

/-- A captured number is finite. -/
def Rule.CapturesFinite (rule : Rule) : Prop :=
  ∀ number, rule.value = some (.number number) → number.isFinite = true

/-- The JSON of a rule has null for its value. -/
def Rule.WritesNull (rule : Rule) : Prop :=
  ∃ members written, rule.toJson = .object members ∧ ("value", written) ∈ members ∧
    written.compact = "null"

section

variable {tagger : Tagger} {text : String} {token : Token} {rule : Rule}

/-- The three kinds of values that a matched rule can have over a tagged text. -/
theorem holdsItsKind_of_value (member : token ∈ tagger.tokenize text)
    (valued : rule.value = rule.pattern.value? token) (matched : rule.value.isSome = true) :
    HoldsItsKind tagger.year rule token := by
  obtain ⟨value, present⟩ := Option.isSome_iff_exists.mp matched
  rw [present, Pattern.value?] at valued
  -- The category is compared in full lower case, which on these two names agrees with ASCII case.
  constructor
  case number =>
    intro number
    rw [(valueKind_eq_number_iff _).mpr number] at valued
    obtain ⟨read, found, same⟩ := Option.map_eq_some_iff.mp valued.symm
    exact ⟨read, same ▸ present, Binary64.isFinite_of_read? found⟩
  case date =>
    intro date
    rw [(valueKind_eq_date_iff _).mpr date] at valued
    obtain ⟨carried, rfl, inYear⟩ := Tagger.entity_of_mem_tokenize member valued.symm
    exact ⟨carried, present, inYear⟩
  case text =>
    intro notNumber notDate
    have kind : valueKind rule.pattern.category = .text := by
      cases other : valueKind rule.pattern.category with
      | number => simp [(valueKind_eq_number_iff _).mp other] at notNumber
      | date => simp [(valueKind_eq_date_iff _).mp other] at notDate
      | text => rfl
    rw [kind] at valued
    exact ⟨present.trans valued, Tagger.solid_of_mem_tokenize member⟩

theorem HoldsItsKind.capturesFinite {year : Int} (holds : HoldsItsKind year rule token) :
    rule.CapturesFinite := by
  intro number present
  cases asksNumber : Text.sameIgnoringCase rule.pattern.category "number" with
  | true =>
    obtain ⟨other, same, finite⟩ := holds.number asksNumber
    rw [present] at same
    cases same
    exact finite
  | false =>
    -- For any other category the value would be a date or a text.
    cases asksDate : Text.sameIgnoringCase rule.pattern.category "date" with
    | true =>
      obtain ⟨other, same, _⟩ := holds.date asksDate
      rw [present] at same
      cases same
    | false =>
      have same := (holds.text asksNumber asksDate).1
      rw [present] at same
      cases same

/-- A value is written as null only if it is a number that is not finite. -/
theorem SlotValue.compact_ne_null {value : SlotValue}
    (finite : ∀ number, value = .number number → number.isFinite = true) :
    value.toJson.compact ≠ "null" := by
  intro null
  have chars : value.toJson.compactChars = "null".toList := by
    rw [← null, Json.compact, String.toList_ofList]
  cases value with
  | number number => exact Binary64.dataText_ne_null (finite number rfl) chars
  -- Texts start with a quote, and so do dates, which are written as texts.
  | text => exact absurd (List.cons.inj chars).1 (by decide)
  | date => exact absurd (List.cons.inj chars).1 (by decide)

theorem Rule.not_writesNull (matched : rule.value.isSome = true)
    (finite : rule.CapturesFinite) : ¬ rule.WritesNull := by
  rintro ⟨members, written, same, member, null⟩
  obtain ⟨value, present⟩ := Option.isSome_iff_exists.mp matched
  cases same
  have isValue : written = value.toJson := by
    simpa [Pattern.members, present, Json.ofOption] using member
  rw [isValue] at null
  exact SlotValue.compact_ne_null (fun number same => finite number (same ▸ present)) null

/-- Every binding is the value of some rule. -/
theorem RuleSet.exists_of_mem_bindings {rules : RuleSet} {entry : String × SlotValue}
    (member : entry ∈ rules.bindings.entries) : ∃ rule ∈ rules, rule.value = some entry.2 := by
  obtain ⟨rule, isRule, bound⟩ := List.mem_filterMap.mp (Dictionary.mem_ofList member)
  split at bound
  next slot value _ present =>
    cases bound
    exact ⟨rule, isRule, present⟩
  next => cases bound

theorem IsAlignment.holdsItsKindAt {rules result : RuleSet}
    (alignment : IsAlignment rules (tagger.tokenize text) result) :
    List.Forall₂ (HoldsItsKindAt tagger text) result result.positions := by
  have matched := fun rule member => (alignment.populated rule member).1
  apply List.Forall₂.imp _ ((List.forall₂_and_left _ _).mpr ⟨matched, alignment.carried⟩)
  rintro rule position ⟨present, token, here, accepted, valued⟩
  have holds := holdsItsKind_of_value (List.mem_of_getElem? here) valued present
  exact ⟨token, here, accepted, holds⟩

theorem capturesFinite_of_forall₂ {result : RuleSet} {positions : List Nat}
    (kinds : List.Forall₂ (HoldsItsKindAt tagger text) result positions) :
    ∀ rule ∈ result, rule.CapturesFinite := by
  induction kinds with
  | nil => exact fun _ member => nomatch member
  | cons here _ ih =>
    obtain ⟨_, _, _, holds⟩ := here
    exact List.forall_mem_cons.mpr ⟨holds.capturesFinite, ih⟩

end

/-- Over a tagged text every rule of a result holds what its category asks for at the token
that it matched. No slot is bound to a number that is not finite, and no value is written as
null. -/
theorem search_tokenize_kinds (tagger : Tagger) (text : String) (options : SearchOptions)
    (rules : RuleSet) (results : List RuleSet)
    (returned : search options (tagger.tokenize text) rules = .ok results) :
    ∀ result ∈ results,
      List.Forall₂ (HoldsItsKindAt tagger text) result result.positions ∧
      (∀ entry ∈ result.bindings.entries, ∀ number, entry.2 = .number number →
        number.isFinite = true) ∧
      ∀ rule ∈ result, ¬ rule.WritesNull := by
  intro result member
  have alignment := isAlignment_of_search returned member
  have kinds := alignment.holdsItsKindAt
  have finite := capturesFinite_of_forall₂ kinds
  refine ⟨kinds, ?_, ?_⟩
  · intro entry bound number same
    obtain ⟨rule, isRule, present⟩ := RuleSet.exists_of_mem_bindings bound
    exact finite rule isRule number (same ▸ present)
  · intro rule isRule
    exact Rule.not_writesNull (alignment.populated rule isRule).1 (finite rule isRule)

/-- A tagger whose lexicon lists a word under the numbers. -/
def countingTagger : Tagger := ⟨⟨.ofList [("dozen", ["Number"])], [], []⟩, 2026⟩

def paymentRules : RuleSet :=
  .ofPatterns [⟨some "Pay", "noun", none⟩, ⟨none, "NUMBER", some "count"⟩, ⟨none, "date", none⟩]

theorem search_tokenize_kinds_payment :
    ∃ results, search ⟨.skipToken, .suppress, none⟩
        (countingTagger.tokenize "Pay a dozen, or 12 by 3rd May.") paymentRules = .ok results ∧
      results.map (·.map fun rule => rule.value.map SlotValue.display) =
        [[some "Pay", some "12", some "2026-05-03"]] ∧
      ∀ result ∈ results,
        List.Forall₂ (HoldsItsKindAt countingTagger "Pay a dozen, or 12 by 3rd May.") result
          result.positions ∧
        (∀ entry ∈ result.bindings.entries, ∀ number, entry.2 = .number number →
          number.isFinite = true) ∧
        ∀ rule ∈ result, ¬ rule.WritesNull := by
  have found : (search ⟨.skipToken, .suppress, none⟩
      (countingTagger.tokenize "Pay a dozen, or 12 by 3rd May.") paymentRules).map
        (·.map (·.map fun rule => rule.value.map SlotValue.display)) =
      .ok [[some "Pay", some "12", some "2026-05-03"]] := by
    decide +kernel
  cases returned : search ⟨.skipToken, .suppress, none⟩
      (countingTagger.tokenize "Pay a dozen, or 12 by 3rd May.") paymentRules with
  | error fault =>
    rw [returned] at found
    cases found
  | ok results =>
    rw [returned] at found
    exact ⟨results, rfl, Except.ok.inj found,
      search_tokenize_kinds countingTagger _ _ paymentRules results returned⟩

end SlotFilling
