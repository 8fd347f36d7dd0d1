import SlotFilling.Proofs.Tagger.Dates

/-!
# Taggers of two years

The year of a tagger decides whether the day and the month that two words spell are a date, and
nothing else. The only day that some years have and others do not is 29 February. So two
taggers of one lexicon group the words of a text alike, and their tokens differ in nothing but
the years of dates, unless one of the years is a leap year, the other one is not, and the text
spells 29 February somewhere.
-/
namespace SlotFilling

/-! ## Days of two years -/

def InCalendar (year : Int) : Prop := -262143 ≤ year ∧ year ≤ 262142

/-- Years of the calendar have the same days, up to 29 February. -/
theorem dayExists_congr {year other : Int} (inside : InCalendar year)
    (otherInside : InCalendar other) {month day : Nat}
    (common : (IsLeapYear year ↔ IsLeapYear other) ∨ ¬ (month = 2 ∧ day = 29)) :
    DayExists year month day ↔ DayExists other month day := by
  have days : day ≤ daysInMonth year month ↔ day ≤ daysInMonth other month := by
    unfold daysInMonth
    by_cases february : month = 2
    · rcases common with leap | notLeapDay
      · simp only [leap]
      · -- February has 28 days at least and 29 at most.
        have apart : day ≠ 29 := fun last => notLeapDay ⟨february, last⟩
        simp only [if_pos february]
        split <;> split <;> omega
    · simp only [if_neg february]
  unfold DayExists InCalendar at *
  simp only [inside, otherInside, true_and, days]

/-- One day in the one year and in the other. -/
structure Date.SameButYear (year other : Int) (left right : Date) : Prop where
  year : left.year = year
  otherYear : right.year = other
  month : left.month = right.month
  day : left.day = right.day

inductive SlotValue.SameButYear (year other : Int) : SlotValue → SlotValue → Prop
  | date {left right : Date} : left.SameButYear year other right →
      SameButYear year other (.date left) (.date right)

/-- Tokens that differ in nothing but the year of a date. -/
structure Token.SameButYear (year other : Int) (left right : Token) : Prop where
  text : left.text = right.text
  tag : left.tag = right.tag
  categories : left.categories = right.categories
  entity : Option.Rel (SlotValue.SameButYear year other) left.entity right.entity

theorem Token.SameButYear.of_undated (year other : Int) {token : Token}
    (undated : token.entity = none) : token.SameButYear year other token :=
  ⟨rfl, rfl, rfl, undated ▸ .none⟩

/-! ## 29 February -/

/-- The words of 29 February, in either order. -/
def SpellsLeapDay (first second : String) : Prop :=
  SpellsDay first 29 ∧ SpellsMonth second 2 ∨ SpellsMonth first 2 ∧ SpellsDay second 29

namespace Tagger

theorem spellsLeapDay_iff {first second : String} :
    SpellsLeapDay first second ↔ dayAndMonth? first second = some (29, 2) := by
  simp only [SpellsLeapDay, dayAndMonth?_eq_some_iff, dayNumber?_eq_some_iff,
    monthNumber?_eq_some_iff]

instance (first second : String) : Decidable (SpellsLeapDay first second) :=
  decidable_of_iff _ spellsLeapDay_iff.symm

variable {lexicon : Lexicon} {year other : Int} {longest position : Nat} {word : String}
  {later words : List String}

/-! ## One step -/

/-- Steps that cover the same number of words. -/
structure Step.SameButYear (year other : Int) (left right : Step) : Prop where
  extra : left.extra = right.extra
  token : left.token.SameButYear year other right.token

section

variable (lexicon) (inside : InCalendar year) (otherInside : InCalendar other)
include inside otherInside

/-- Two words are a date of both years or of none. -/
theorem dateOf?_sameButYear {first second : String}
    (common : (IsLeapYear year ↔ IsLeapYear other) ∨ ¬ SpellsLeapDay first second) :
    Option.Rel (Date.SameButYear year other) (dateOf? ⟨lexicon, year⟩ first second)
      (dateOf? ⟨lexicon, other⟩ first second) := by
  unfold dateOf?
  cases named : dayAndMonth? first second with
  | none => exact .none
  | some dayAndMonth =>
    obtain ⟨day, month⟩ := dayAndMonth
    have exists_iff : DayExists year month day ↔ DayExists other month day := by
      apply dayExists_congr inside otherInside
      refine common.imp_right fun notLeapDay leapDay => notLeapDay (spellsLeapDay_iff.mpr ?_)
      rw [named, leapDay.1, leapDay.2]
    simp only [Option.bind_some, Date.of?]
    by_cases present : DayExists year month day
    · rw [dif_pos present, dif_pos (exists_iff.mp present)]
      exact .some ⟨rfl, rfl, rfl, rfl⟩
    · rw [dif_neg present, dif_neg fun elsewhere => present (exists_iff.mpr elsewhere)]
      exact .none

theorem dateAt?_sameButYear
    (common : (IsLeapYear year ↔ IsLeapYear other) ∨
      (word :: later).IsChain fun first second => ¬ SpellsLeapDay first second) :
    Option.Rel (Step.SameButYear year other) (dateAt? ⟨lexicon, year⟩ word later)
      (dateAt? ⟨lexicon, other⟩ word later) := by
  cases later with
  | nil => exact .none
  | cons second rest =>
    have dates := dateOf?_sameButYear lexicon inside otherInside
      (common.imp_right fun chain => (List.isChain_cons_cons.mp chain).1)
    simp only [dateAt?]
    generalize dateOf? ⟨lexicon, year⟩ word second = left at dates
    generalize dateOf? ⟨lexicon, other⟩ word second = right at dates
    cases dates with
    | none => exact .none
    | some same => exact .some ⟨rfl, rfl, rfl, rfl, .some (.date same)⟩

theorem next_sameButYear
    (common : (IsLeapYear year ↔ IsLeapYear other) ∨
      (word :: later).IsChain fun first second => ¬ SpellsLeapDay first second) :
    (next ⟨lexicon, year⟩ longest position word later).SameButYear year other
      (next ⟨lexicon, other⟩ longest position word later) := by
  have dated := dateAt?_sameButYear lexicon inside otherInside common
  generalize isLeft : dateAt? ⟨lexicon, year⟩ word later = left at dated
  generalize isRight : dateAt? ⟨lexicon, other⟩ word later = right at dated
  cases dated with
  | some same => simpa only [next, isLeft, isRight] using same
  | none =>
    -- What is tried next does not read the year, so it is one step, and it carries no entity.
    have step : next ⟨lexicon, other⟩ longest position word later =
        next ⟨lexicon, year⟩ longest position word later := by
      unfold next
      rw [isLeft, isRight]
      rfl
    rw [step]
    refine ⟨rfl, .of_undated year other ?_⟩
    rw [Option.eq_none_iff_forall_ne_some]
    intro value carried
    obtain ⟨second, rest, date, rfl, isDate, _⟩ :=
      (next_grouped ⟨lexicon, year⟩ longest position word later).dated_of_entity carried
    rw [dateAt?, isDate] at isLeft
    cases isLeft

/-! ## All steps -/

theorem tagWords_sameButYear (longest position : Nat) (words : List String)
    (common : (IsLeapYear year ↔ IsLeapYear other) ∨
      words.IsChain fun first second => ¬ SpellsLeapDay first second) :
    List.Forall₂ (Token.SameButYear year other) (tagWords ⟨lexicon, year⟩ longest position words)
      (tagWords ⟨lexicon, other⟩ longest position words) := by
  induction position, words using tagWords.induct ⟨lexicon, year⟩ longest with
  | case1 position =>
    rw [tagWords, tagWords]
    exact .nil
  | case2 position word later step ih =>
    have here : step.SameButYear year other (next ⟨lexicon, other⟩ longest position word later) :=
      next_sameButYear lexicon inside otherInside common
    -- Words next to each other in what is left are next to each other in the text.
    have rest := ih (common.imp_right fun chain => chain.tail.drop step.extra)
    rw [tagWords, tagWords, ← here.extra]
    exact .cons here.token rest

end

/-- Taggers of one lexicon and two years of the calendar give tokens that agree one by one in all
but the year of a date, and each date is of its own tagger's year. The exception are texts with
the words of 29 February next to each other, when only one of the years is a leap year. -/
theorem tokenize_sameButYear (lexicon : Lexicon) (text : String) (year other : Int)
    (inside : InCalendar year) (otherInside : InCalendar other)
    (common : (IsLeapYear year ↔ IsLeapYear other) ∨
      (strippedWords text).IsChain fun first second => ¬ SpellsLeapDay first second) :
    List.Forall₂ (Token.SameButYear year other) (tokenize ⟨lexicon, year⟩ text)
      (tokenize ⟨lexicon, other⟩ text) :=
  tagWords_sameButYear lexicon inside otherInside lexicon.longestPhrase 0 (strippedWords text)
    common

/-- A leap year and another one have no more than 29 February between them. -/
theorem tokenize_sameButYear_march :
    InCalendar 2024 ∧ InCalendar 2025 ∧ IsLeapYear 2024 ∧ ¬ IsLeapYear 2025 ∧
    ((strippedWords "by February 28th, not 29 March").IsChain
      fun first second => ¬ SpellsLeapDay first second) ∧
    (tokenize ⟨.empty, 2024⟩ "by February 28th, not 29 March").map (·.text) =
      ["by", "February 28th", "not", "29 March"] ∧
    List.Forall₂ (Token.SameButYear 2024 2025)
      (tokenize ⟨.empty, 2024⟩ "by February 28th, not 29 March")
      (tokenize ⟨.empty, 2025⟩ "by February 28th, not 29 March") := by
  have apart : (strippedWords "by February 28th, not 29 March").IsChain
      fun first second => ¬ SpellsLeapDay first second := by
    decide +kernel
  have inside : InCalendar 2024 ∧ InCalendar 2025 := by
    unfold InCalendar
    decide
  exact ⟨inside.1, inside.2, by decide, by decide, apart, by decide +kernel,
    tokenize_sameButYear .empty _ 2024 2025 inside.1 inside.2 (.inr apart)⟩

/-- The words of 29 February are one token in the one year and two in the other. -/
example : (tokenize ⟨.empty, 2024⟩ "29 February").length = 1 ∧
    (tokenize ⟨.empty, 2025⟩ "29 February").length = 2 := by
  decide +kernel

end Tagger

end SlotFilling
