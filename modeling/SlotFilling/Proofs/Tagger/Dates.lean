import SlotFilling.Proofs.Calendar.Spelling
import SlotFilling.Proofs.Tagger.LongestMatch
import SlotFilling.Proofs.Tagger.Places

/-!
# Dates in a text

Two words that spell a day and a month of the tagger's year are tagged as a date before
anything else is tried, and nothing else carries an entity. So as long as the lexicon does
not use the category of dates for words of its own, three things go together: a token is a
date, it carries an entity, and its words spell a date.
-/
namespace SlotFilling

/-- Two words that spell the day and the month of a date, in either order, and its year. -/
structure SpellsDate (year : Int) (first second : String) (date : Date) : Prop where
  year : date.year = year
  words : SpellsDay first date.day ∧ SpellsMonth second date.month ∨
    SpellsMonth first date.month ∧ SpellsDay second date.day

theorem SpellsDate.swap {year : Int} {first second : String} {date : Date}
    (spelled : SpellsDate year first second date) : SpellsDate year second first date :=
  ⟨spelled.year, spelled.words.symm.imp And.symm And.symm⟩

namespace Tagger

variable {tagger : Tagger} {longest position : Nat} {word first second : String}
  {later rest : List String} {step : Step} {date : Date} {value : SlotValue}

theorem dateOf?_eq_some_iff_spellsDate :
    tagger.dateOf? first second = some date ↔ SpellsDate tagger.year first second date := by
  rw [dateOf?_eq_some_iff, NamesDate]
  simp only [dayNumber?_eq_some_iff, monthNumber?_eq_some_iff]
  exact ⟨fun named => ⟨named.1, named.2⟩, fun spelled => ⟨spelled.year, spelled.words⟩⟩

/-! ## One step -/

/-- A date comes before anything else that could start with its words. -/
theorem next_of_spellsDate (spelled : SpellsDate tagger.year first second date)
    (longest position : Nat) (rest : List String) :
    tagger.next longest position first (second :: rest) = ⟨dateToken first second date, 1⟩ := by
  have found := dateOf?_eq_some_iff_spellsDate.mpr spelled
  simp only [next, dateAt?, found, Option.map_some]

theorem Grouped.spelled_of_entity (grouped : Grouped tagger position word later step)
    (carried : step.token.entity = some value) :
    ∃ second rest date, later = second :: rest ∧ SpellsDate tagger.year word second date ∧
      value = .date date := by
  obtain ⟨second, rest, date, same, dated, isDate⟩ := grouped.dated_of_entity carried
  exact ⟨second, rest, date, same, dateOf?_eq_some_iff_spellsDate.mp dated, isDate⟩

/-- No entry of the lexicon has the category of dates. -/
def ListsNoDate (tagger : Tagger) : Prop :=
  ∀ entry ∈ tagger.lexicon.words.entries, ∀ category ∈ entry.2,
    Text.sameIgnoringCase category "date" = false

theorem not_date_of_categories {text : String} {entry : String × List String}
    (others : ∀ category ∈ entry.1 :: entry.2, Text.sameIgnoringCase category "date" = false) :
    (Token.ofEntry text entry).belongs "date" = false := by
  rw [Bool.eq_false_iff]
  intro belongs
  obtain ⟨category, isCategory, same⟩ := (Token.belongs_ofEntry text entry "date").mp belongs
  rw [others category isCategory] at same
  cases same

theorem not_date_of_entry {text listing : String} {entry : String × List String}
    (undated : tagger.ListsNoDate) (listed : tagger.lexicon.entry? listing = some entry) :
    (Token.ofEntry text entry).belongs "date" = false := by
  rw [Lexicon.entry?_eq_some_iff, Dictionary.get?_eq_some_iff] at listed
  exact not_date_of_categories (undated _ listed)

theorem Tagged.not_date {token : Token} (undated : tagger.ListsNoDate)
    (tagged : Tagged tagger word token) : token.belongs "date" = false := by
  cases tagged with
  | number => exact not_date_of_categories (by decide +kernel)
  | listed listed => exact not_date_of_entry undated listed
  | unlisted entry member =>
    have names : ∀ entry ∈ unlistedEntries, ∀ category ∈ entry.1 :: entry.2,
        Text.sameIgnoringCase category "date" = false := by
      decide +kernel
    exact not_date_of_categories (names entry member)

theorem Grouped.spelled_of_belongs (undated : tagger.ListsNoDate)
    (grouped : Grouped tagger position word later step)
    (belongs : step.token.belongs "date" = true) :
    ∃ second rest date, later = second :: rest ∧ SpellsDate tagger.year word second date := by
  -- Any other kind of token has categories of its own or those of an entry, and none is "date".
  cases grouped with
  | @date second rest date dated =>
    exact ⟨second, rest, date, rfl, dateOf?_eq_some_iff_spellsDate.mp dated⟩
  | phrase listed =>
    rw [not_date_of_entry undated listed] at belongs
    cases belongs
  | infinitive =>
    rw [not_date_of_categories (by decide +kernel)] at belongs
    cases belongs
  | single =>
    rw [(wordToken_tagged tagger position word).not_date undated] at belongs
    cases belongs

theorem belongs_dateToken (first second : String) (date : Date) :
    (dateToken first second date).belongs "date" = true := by
  have named : (Token.of (joinWords [first, second]) "Date").belongs "date" = true := by
    rw [Token.belongs_of]
    decide +kernel
  have both :=
    Token.belongs_withCategory (Token.of (joinWords [first, second]) "Date") "Noun" "date"
  rw [named, Bool.or_true] at both
  exact both

/-! ## Tokens of a text -/

/-- What a token has to do with the dates that its text spells. -/
structure DatesAsSpelled (tagger : Tagger) (text : String) (placed : Placed) : Prop where
  isPrefix : placed.words <+: (strippedWords text).drop placed.start
  date_iff : placed.token.belongs "date" = true ↔ placed.token.entity.isSome = true
  entity_iff : ∀ value, placed.token.entity = some value ↔
    ∃ first second date, placed.words = [first, second] ∧
      SpellsDate tagger.year first second date ∧ value = .date date
  taken : ∀ first second rest date,
    (strippedWords text).drop placed.start = first :: second :: rest →
    SpellsDate tagger.year first second date →
    placed.words = [first, second] ∧ placed.token = dateToken first second date

variable {text : String} {placed : Placed}

theorem PlacedBy.taken (placedBy : tagger.PlacedBy longest first (second :: rest) placed)
    (spelled : SpellsDate tagger.year first second date) :
    placed.words = [first, second] ∧ placed.token = dateToken first second date := by
  have dated := next_of_spellsDate spelled longest placed.start rest
  exact ⟨by rw [placedBy.words, dated]; rfl, by rw [placedBy.token, dated]⟩

theorem PlacedBy.entity_iff (placedBy : tagger.PlacedBy longest word later placed)
    (value : SlotValue) :
    placed.token.entity = some value ↔
      ∃ first second date, placed.words = [first, second] ∧
        SpellsDate tagger.year first second date ∧ value = .date date := by
  constructor
  · intro carried
    rw [placedBy.token] at carried
    have grouped := next_grouped tagger longest placed.start word later
    obtain ⟨second, rest, date, rfl, spelled, rfl⟩ := grouped.spelled_of_entity carried
    exact ⟨word, second, date, (placedBy.taken spelled).1, spelled, rfl⟩
  · rintro ⟨first, second, date, covered, spelled, rfl⟩
    -- The words that the token covers are the first two that were left.
    obtain ⟨beyond, left⟩ := placedBy.isPrefix
    rw [covered] at left
    cases left
    rw [(placedBy.taken spelled).2]
    rfl

theorem PlacedBy.date_iff (undated : tagger.ListsNoDate)
    (placedBy : tagger.PlacedBy longest word later placed) :
    placed.token.belongs "date" = true ↔ placed.token.entity.isSome = true := by
  have grouped := next_grouped tagger longest placed.start word later
  constructor
  · intro belongs
    rw [placedBy.token] at belongs
    obtain ⟨second, rest, date, rfl, spelled⟩ := grouped.spelled_of_belongs undated belongs
    rw [(placedBy.taken spelled).2]
    rfl
  · intro present
    obtain ⟨value, carried⟩ := Option.isSome_iff_exists.mp present
    rw [placedBy.token] at carried
    obtain ⟨second, rest, date, rfl, spelled, rfl⟩ := grouped.spelled_of_entity carried
    rw [(placedBy.taken spelled).2]
    exact belongs_dateToken word second date

theorem datesAsSpelled_of_mem (undated : tagger.ListsNoDate)
    (member : placed ∈ tagger.placedTokens text) : tagger.DatesAsSpelled text placed := by
  obtain ⟨word, later, left, placedBy⟩ := placedBy_of_mem_placedTokens member
  constructor
  case isPrefix =>
    rw [left]
    exact placedBy.isPrefix
  case date_iff => exact placedBy.date_iff undated
  case entity_iff => exact placedBy.entity_iff
  case taken =>
    intro first second rest date here spelled
    rw [left] at here
    cases here
    exact placedBy.taken spelled

/-- A token of a text is a date, or carries an entity, exactly when it was made of two words in a
row that spell a day and a month of the tagger's year, and the entity is that date. Such words
are one token wherever a token starts with them. The same two words in the other order carry
the same entity. -/
theorem tokenize_dates (tagger : Tagger) (undated : tagger.ListsNoDate) (text : String) :
    (tagger.placedTokens text).map (·.token) = tagger.tokenize text ∧
    (∀ placed ∈ tagger.placedTokens text, tagger.DatesAsSpelled text placed) ∧
    ∀ other, ∀ placed ∈ tagger.placedTokens text, ∀ turned ∈ tagger.placedTokens other,
      ∀ first second, placed.words = [first, second] → turned.words = [second, first] →
        placed.token.entity = turned.token.entity := by
  refine ⟨map_token_placedTokens tagger text, fun _ => datesAsSpelled_of_mem undated, ?_⟩
  intro other placed isPlaced turned isTurned first second covered turnedCovered
  apply Option.ext
  intro value
  rw [(datesAsSpelled_of_mem undated isPlaced).entity_iff,
    (datesAsSpelled_of_mem undated isTurned).entity_iff, covered, turnedCovered]
  constructor
  · rintro ⟨_, _, date, ⟨⟩, spelled, same⟩
    exact ⟨second, first, date, rfl, spelled.swap, same⟩
  · rintro ⟨_, _, date, ⟨⟩, spelled, same⟩
    exact ⟨first, second, date, rfl, spelled.swap, same⟩

/-- A listed phrase that spells a date is that date all the same, and a day that April does not
have is no date. -/
theorem tokenize_dates_holiday :
    let tagger : Tagger := ⟨⟨.ofList [("10 january", ["Holiday"])], [], []⟩, 2026⟩
    tagger.ListsNoDate ∧
    (tagger.tokenize "10 January, not 31 april").map (fun token => (token.text, token.entity)) =
      [("10 January", some (.date ⟨2026, 1, 10, by decide⟩)), ("not", none), ("31", none),
        ("april", none)] ∧
    (∀ placed ∈ tagger.placedTokens "10 January, not 31 april",
      tagger.DatesAsSpelled "10 January, not 31 april" placed) ∧
    ∀ placed ∈ tagger.placedTokens "10 January, not 31 april",
      ∀ turned ∈ tagger.placedTokens "January 10", ∀ first second,
        placed.words = [first, second] → turned.words = [second, first] →
          placed.token.entity = turned.token.entity := by
  intro tagger
  have undated : tagger.ListsNoDate := by
    unfold ListsNoDate
    decide +kernel
  obtain ⟨_, spelled, turned⟩ := tokenize_dates tagger undated "10 January, not 31 april"
  exact ⟨undated, by decide +kernel, spelled, turned "January 10"⟩

end Tagger

end SlotFilling
