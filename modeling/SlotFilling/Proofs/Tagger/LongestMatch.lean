import SlotFilling.Proofs.Tagger.Digits
import SlotFilling.Proofs.Tagger.Segmentation
import SlotFilling.Proofs.Text.Lowercase

/-!
# The longest match

Where a token starts, the words that are left decide what it is: two words that name a date,
otherwise the longest phrase that the lexicon lists, otherwise an infinitive, otherwise one
word. The tagger tries no phrase with more words than the key with the most spaces has room
for. That hides nothing, because lowercasing keeps every space: a phrase of more words has
too many spaces to be a key.
-/
namespace SlotFilling

/-! ## Entries of the lexicon -/

/-- A token with a text and with exactly some categories, the first of them its tag. -/
structure Token.HasEntry (token : Token) (text : String) (categories : List String) : Prop where
  text : token.text = text
  tag : categories.head? = some token.tag
  categories : ∀ category, token.categories.get? category =
    if category ∈ categories then some true else none
  entity : token.entity = none

theorem Token.hasEntry_ofEntry (text : String) (entry : String × List String) :
    (Token.ofEntry text entry).HasEntry text (entry.1 :: entry.2) := by
  obtain ⟨primary, others⟩ := entry
  have folded : ∀ (token : Token) (category : String),
      (others.foldl Token.withCategory token).categories.get? category =
        if category ∈ others then some true else token.categories.get? category := by
    induction others with
    | nil => simp
    | cons other rest ih =>
      intro token category
      rw [List.foldl_cons, ih, withCategory, setCategory, Dictionary.get?_insert]
      by_cases later : category ∈ rest <;> simp [later]
  refine ⟨Token.text_ofEntry text _, ?_, ?_, Token.entity_ofEntry text _⟩
  · rw [Token.ofEntry_frame (·.tag) (fun _ _ => rfl)]
    rfl
  · intro category
    rw [Token.ofEntry, folded, Token.of, Dictionary.get?_insert, Dictionary.get?_empty]
    by_cases later : category ∈ others <;> simp [later]

namespace Lexicon

variable {lexicon : Lexicon} {text : String}

theorem entry?_eq_some_iff {entry : String × List String} :
    lexicon.entry? text = some entry ↔
      lexicon.words.get? (Text.lower text) = some (entry.1 :: entry.2) := by
  unfold entry?
  split
  next primary others found =>
    rw [found]
    simp [Prod.ext_iff]
  next unlisted =>
    simp only [reduceCtorEq, false_iff]
    exact unlisted entry.1 entry.2

theorem isVerb_iff : lexicon.isVerb text = true ↔
    ∃ categories, lexicon.words.get? (Text.lower text) = some categories ∧
      ∃ category ∈ categories, Text.sameIgnoringCase category "verb" = true := by
  unfold isVerb
  split
  next primary others found =>
    rw [entry?_eq_some_iff.mp found, List.any_eq_true]
    simp
  next absent =>
    simp only [Bool.false_eq_true, false_iff]
    rintro ⟨categories, listed, category, member, _⟩
    obtain ⟨primary, others, rfl⟩ := List.exists_cons_of_ne_nil (List.ne_nil_of_mem member)
    have present : lexicon.entry? text = some (primary, others) := entry?_eq_some_iff.mpr listed
    rw [absent] at present
    cases present

/-- No listed phrase has more words than the longest key has pieces. -/
theorem length_le_longestPhrase {words : List String} {categories : List String}
    (listed : lexicon.words.get? (Text.lower (joinWords words)) = some categories) :
    words.length ≤ lexicon.longestPhrase := by
  have isKey : Text.lower (joinWords words) ∈ lexicon.words.keys :=
    List.mem_map_of_mem (f := (·.1)) (Dictionary.mem_of_get? listed)
  have bound : (Text.pieces (· == ' ') (Text.lower (joinWords words)).toList).length ≤
      lexicon.longestPhrase :=
    List.le_max?_getD_of_mem (List.mem_map_of_mem isKey)
  have spaces : (Text.lower (joinWords words)).toList.count ' ' =
      (joinWords words).toList.count ' ' := by
    rw [Text.lower, String.toList_ofList]
    exact (Text.lowered_lowerAfter [] _).count_space
  calc words.length ≤ (joinWords words).toList.count ' ' + 1 := length_le_count_joinWords words
    _ = (Text.pieces (· == ' ') (Text.lower (joinWords words)).toList).length := by
      rw [Text.length_pieces, ← spaces, List.count]
    _ ≤ lexicon.longestPhrase := bound

end Lexicon

/-! ## Words that name a date -/

namespace Tagger

variable {tagger : Tagger} {longest position : Nat} {word : String} {later : List String}

/-- Two words that name the day and the month of a date in the tagger's year, in either order. -/
def NamesDate (tagger : Tagger) (first second : String) (date : Date) : Prop :=
  date.year = tagger.year ∧
    (dayNumber? first = some date.day ∧ monthNumber? second = some date.month ∨
      monthNumber? first = some date.month ∧ dayNumber? second = some date.day)

theorem dateOf?_eq_some_iff {first second : String} {date : Date} :
    tagger.dateOf? first second = some date ↔ tagger.NamesDate first second date := by
  simp only [dateOf?, Option.bind_eq_some_iff, Prod.exists, dayAndMonth?_eq_some_iff,
    Date.of?_eq_some_iff, NamesDate]
  constructor
  · rintro ⟨day, month, named, year, rfl, rfl⟩
    exact ⟨year, named⟩
  · rintro ⟨year, named⟩
    exact ⟨date.day, date.month, named, year, rfl, rfl⟩

/-! ## What the words decide -/

/-- The first two words name a date. -/
def StartsWithDate (tagger : Tagger) : List String → Prop
  | first :: second :: _ => ∃ date, tagger.NamesDate first second date
  | _ => False

/-- The first `count` words are two or more and make a phrase that is listed with some
categories. -/
structure ListsPhrase (tagger : Tagger) (words : List String) (count : Nat)
    (categories : List String) : Prop where
  several : 2 ≤ count
  within : count ≤ words.length
  nonempty : categories ≠ []
  listed : tagger.lexicon.words.get? (Text.lower (joinWords (words.take count))) = some categories

/-- The first word is "to", and the second is listed as a verb. -/
def StartsWithInfinitive (tagger : Tagger) : List String → Prop
  | first :: second :: _ => Text.sameIgnoringCase first "to" = true ∧
      ∃ categories, tagger.lexicon.words.get? (Text.lower second) = some categories ∧
        ∃ category ∈ categories, Text.sameIgnoringCase category "verb" = true
  | _ => False

/-- What the words from a position on decide: how many of them the token there covers, and the
token. -/
inductive Decides (tagger : Tagger) (position : Nat) : List String → Nat → Token → Prop
  | date {first second : String} {rest : List String} {date : Date} :
      tagger.NamesDate first second date →
      Decides tagger position (first :: second :: rest) 2 (dateToken first second date)
  | phrase {words : List String} {count : Nat} {categories : List String} {token : Token} :
      ¬ tagger.StartsWithDate words →
      tagger.ListsPhrase words count categories →
      (∀ longer others, tagger.ListsPhrase words longer others → longer ≤ count) →
      token.HasEntry (joinWords (words.take count)) categories →
      Decides tagger position words count token
  | infinitive {first second : String} {rest : List String} :
      ¬ tagger.StartsWithDate (first :: second :: rest) →
      (∀ count categories, ¬ tagger.ListsPhrase (first :: second :: rest) count categories) →
      tagger.StartsWithInfinitive (first :: second :: rest) →
      Decides tagger position (first :: second :: rest) 2
        (Token.of (joinWords [first, second]) "Verb")
  | single {word : String} {later : List String} :
      ¬ tagger.StartsWithDate (word :: later) →
      (∀ count categories, ¬ tagger.ListsPhrase (word :: later) count categories) →
      ¬ tagger.StartsWithInfinitive (word :: later) →
      Decides tagger position (word :: later) 1 (tagger.wordToken position word)

theorem startsWithDate_iff :
    tagger.StartsWithDate (word :: later) ↔ (tagger.dateAt? word later).isSome = true := by
  cases later with
  | nil => simp [StartsWithDate, dateAt?]
  | cons second rest =>
    simp only [StartsWithDate, dateAt?, Option.isSome_map, Option.isSome_iff_exists,
      dateOf?_eq_some_iff]

theorem startsWithInfinitive_iff :
    tagger.StartsWithInfinitive (word :: later) ↔
      (tagger.infinitiveAt? word later).isSome = true := by
  cases later with
  | nil => simp [StartsWithInfinitive, infinitiveAt?]
  | cons second rest =>
    simp only [StartsWithInfinitive, infinitiveAt?, ← Lexicon.isVerb_iff, ← Bool.and_eq_true]
    split <;> simp_all

/-- The phrases that are tried are all that are listed. -/
theorem listsPhrase_iff {count : Nat} {categories : List String} :
    tagger.ListsPhrase (word :: later) count categories ↔
      ∃ extra entry, count = extra + 1 ∧ categories = entry.1 :: entry.2 ∧
        extra ∈ List.range' 1 (min tagger.lexicon.longestPhrase (later.length + 1) - 1) ∧
        tagger.lexicon.entry? (joinWords (word :: later.take extra)) = some entry := by
  constructor
  · rintro ⟨several, within, nonempty, listed⟩
    obtain ⟨primary, others, rfl⟩ := List.exists_cons_of_ne_nil nonempty
    obtain ⟨extra, rfl⟩ : ∃ extra, count = extra + 1 := ⟨count - 1, by omega⟩
    rw [List.length_cons] at within
    -- What is listed is short enough to be tried.
    have bound := Lexicon.length_le_longestPhrase listed
    rw [List.length_take, List.length_cons] at bound
    refine ⟨extra, (primary, others), rfl, rfl, ?_, Lexicon.entry?_eq_some_iff.mpr listed⟩
    rw [List.mem_range'_1]
    omega
  · rintro ⟨extra, entry, rfl, rfl, tried, listed⟩
    rw [List.mem_range'_1] at tried
    refine ⟨by omega, ?_, List.cons_ne_nil _ _, Lexicon.entry?_eq_some_iff.mp listed⟩
    rw [List.length_cons]
    omega

theorem not_listsPhrase_of_phraseAt?
    (absent : tagger.phraseAt? tagger.lexicon.longestPhrase word later = none) (count : Nat)
    (categories : List String) : ¬ tagger.ListsPhrase (word :: later) count categories := by
  rw [listsPhrase_iff]
  rintro ⟨extra, entry, _, _, tried, listed⟩
  have unlisted := List.findSome?_eq_none_iff.mp absent extra (List.mem_reverse.mpr tried)
  rw [Option.map_eq_none_iff, listed] at unlisted
  cases unlisted

/-- Phrases are tried from the longest down, so the first one listed is the longest. -/
theorem listsPhrase_of_phraseAt? {step : Step}
    (found : tagger.phraseAt? tagger.lexicon.longestPhrase word later = some step) :
    ∃ entry, step.token = Token.ofEntry (joinWords (word :: later.take step.extra)) entry ∧
      tagger.ListsPhrase (word :: later) (step.extra + 1) (entry.1 :: entry.2) ∧
      ∀ longer others, tagger.ListsPhrase (word :: later) longer others →
        longer ≤ step.extra + 1 := by
  obtain ⟨front, extra, back, order, here, passed⟩ := List.findSome?_eq_some_iff.mp found
  obtain ⟨entry, listed, rfl⟩ := Option.map_eq_some_iff.mp here
  have decreasing : (front ++ extra :: back).Pairwise (· > ·) := by
    rw [← order, List.pairwise_reverse]
    exact List.pairwise_lt_range'
  have tried : extra ∈ front ++ extra :: back := by simp
  rw [← order, List.mem_reverse] at tried
  refine ⟨entry, rfl, listsPhrase_iff.mpr ⟨extra, entry, rfl, rfl, tried, listed⟩, ?_⟩
  intro longer others phrase
  obtain ⟨more, other, rfl, _, isTried, isListed⟩ := listsPhrase_iff.mp phrase
  rw [← List.mem_reverse, order, List.mem_append, List.mem_cons] at isTried
  -- What was tried before is not listed, and what would have come next is shorter.
  rcases isTried with before | rfl | after
  · have unlisted := passed more before
    rw [Option.map_eq_none_iff, isListed] at unlisted
    cases unlisted
  · exact Nat.le_refl _
  · have below := List.rel_of_pairwise_cons (List.pairwise_append.mp decreasing).2.1 after
    exact Nat.succ_le_succ (Nat.le_of_lt below)

/-- Each step of the tagger is the one that the words decide. -/
theorem next_decides (tagger : Tagger) (position : Nat) (word : String) (later : List String) :
    tagger.Decides position (word :: later)
      ((tagger.next tagger.lexicon.longestPhrase position word later).extra + 1)
      (tagger.next tagger.lexicon.longestPhrase position word later).token := by
  unfold next
  split
  next step dated =>
    cases later with
    | nil => cases dated
    | cons second rest =>
      obtain ⟨date, named, rfl⟩ := Option.map_eq_some_iff.mp dated
      exact .date (dateOf?_eq_some_iff.mp named)
  next undated =>
    have noDate : ¬ tagger.StartsWithDate (word :: later) := by
      simp [startsWithDate_iff, undated]
    split
    next step found =>
      obtain ⟨entry, same, phrase, longest⟩ := listsPhrase_of_phraseAt? found
      have entered := Token.hasEntry_ofEntry (joinWords (word :: later.take step.extra)) entry
      exact .phrase noDate phrase longest (same ▸ entered)
    next absent =>
      have noPhrase := not_listsPhrase_of_phraseAt? absent
      split
      next step verbal =>
        have infinitive : tagger.StartsWithInfinitive (word :: later) := by
          simp [startsWithInfinitive_iff, verbal]
        cases later with
        | nil => cases verbal
        | cons second rest =>
          simp only [infinitiveAt?, Option.ite_none_right_eq_some, Option.some.injEq] at verbal
          obtain ⟨_, rfl⟩ := verbal
          exact .infinitive noDate noPhrase infinitive
      next other =>
        refine .single noDate noPhrase ?_
        simp [startsWithInfinitive_iff, other]

/-- All along a text the words decide its tokens: a date comes before any phrase, the longest
phrase before an infinitive, and an infinitive before a single word. How long a phrase may be
is bounded by the words that are left alone. -/
theorem tokenize_longest_match (tagger : Tagger) (text : String) :
    Segmented tagger.Decides 0 (strippedWords text) (tagger.tokenize text) :=
  segmented_tagWords (next_decides tagger) 0 (strippedWords text)

end Tagger

end SlotFilling
