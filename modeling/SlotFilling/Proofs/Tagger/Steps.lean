import SlotFilling.Tagger.Basic
import Mathlib.Data.List.Basic

/-!
# The steps of the tagger

A step groups one or more words into a token: the two words of a date, a phrase of the
lexicon, an infinitive, or a single word. Every token of a tagged text comes from a step,
and every word is covered by one, so a property of all tokens or of all words follows from
a property of steps.
-/
namespace SlotFilling

/-- A token belongs to the categories of the entry that it was made from. -/
theorem Token.belongs_ofEntry (text : String) (entry : String × List String) (category : String) :
    (Token.ofEntry text entry).belongs category = true ↔
      ∃ listed ∈ entry.1 :: entry.2, Text.sameIgnoringCase listed category = true := by
  obtain ⟨primary, others⟩ := entry
  have folded : ∀ token : Token, (others.foldl Token.withCategory token).belongs category = true ↔
      token.belongs category = true ∨
        ∃ listed ∈ others, Text.sameIgnoringCase listed category = true := by
    induction others with
    | nil => simp
    | cons other rest ih =>
      intro token
      rw [List.foldl_cons, ih, belongs_withCategory, Bool.or_eq_true]
      simp only [List.mem_cons, exists_eq_or_imp, or_assoc, or_left_comm]
  rw [Token.ofEntry, folded, belongs_of]
  simp only [List.mem_cons, exists_eq_or_imp]

/-- Categories are all that an entry adds to a token. -/
theorem Token.ofEntry_frame {α : Type} (read : Token → α)
    (kept : ∀ token category, read (token.withCategory category) = read token)
    (text : String) (entry : String × List String) :
    read (Token.ofEntry text entry) = read (Token.of text entry.1) := by
  have folded : ∀ (others : List String) (token : Token),
      read (others.foldl Token.withCategory token) = read token := by
    intro others
    induction others with
    | nil => exact fun _ => rfl
    | cons other rest ih => exact fun token => (ih _).trans (kept token other)
  exact folded entry.2 _

theorem Token.text_ofEntry (text : String) (entry : String × List String) :
    (Token.ofEntry text entry).text = text :=
  Token.ofEntry_frame (·.text) (fun _ _ => rfl) text entry

theorem Token.entity_ofEntry (text : String) (entry : String × List String) :
    (Token.ofEntry text entry).entity = none :=
  Token.ofEntry_frame (·.entity) (fun _ _ => rfl) text entry

/-! ## The words of a text -/

theorem not_isBlank_of_mem_strippedWords {text word : String} (member : word ∈ strippedWords text) :
    ∀ character ∈ word.toList, Text.isBlank character = false := by
  obtain ⟨piece, isPiece, rfl⟩ := List.mem_map.mp member
  have clear := Text.separator_of_mem_pieces _ _ _ (List.mem_filter.mp isPiece).1
  intro character inside
  rw [String.toList_ofList, stripWord] at inside
  split at inside
  · exact clear character inside
  · apply clear
    rw [Text.dropTrailing, List.mem_reverse] at inside
    exact List.mem_reverse.mp ((List.dropWhile_sublist _).mem inside)

theorem toList_ne_nil_of_mem_strippedWords {text word : String}
    (member : word ∈ strippedWords text) : word.toList ≠ [] := by
  obtain ⟨piece, isPiece, rfl⟩ := List.mem_map.mp member
  have nonempty := (List.mem_filter.mp isPiece).2
  rw [String.toList_ofList, stripWord]
  split
  · simpa using nonempty
  next kept => exact kept

namespace Text

theorem unpadded_of_not_isBlank {text : List Char}
    (clear : ∀ character ∈ text, isBlank character = false) : Unpadded text :=
  ⟨fun character first => clear character (List.mem_of_head? first),
    fun character last => clear character (List.mem_of_getLast? last)⟩

/-- Whatever stands between two texts, the ends are theirs. -/
theorem Unpadded.append {left right : List Char} (unpaddedLeft : Unpadded left)
    (unpaddedRight : Unpadded right) (leftNonempty : left ≠ []) (rightNonempty : right ≠ [])
    (between : List Char) : Unpadded (left ++ between ++ right) := by
  constructor
  · rw [List.append_assoc, List.head?_append_of_ne_nil left leftNonempty]
    exact unpaddedLeft.1
  · rw [List.getLast?_append_of_ne_nil (left ++ between) rightNonempty]
    exact unpaddedRight.2

end Text

/-- Solid words with spaces between them make a text that neither is empty nor has a blank at
an end. -/
theorem unpadded_joinWords {word : String} {later : List String}
    (solid : ∀ each ∈ word :: later, each.toList ≠ [])
    (clear : ∀ each ∈ word :: later, ∀ character ∈ each.toList, Text.isBlank character = false) :
    (joinWords (word :: later)).toList ≠ [] ∧ Text.Unpadded (joinWords (word :: later)).toList := by
  rw [joinWords, String.toList_ofList]
  induction later generalizing word with
  | nil =>
    have first := Text.unpadded_of_not_isBlank (clear word List.mem_cons_self)
    simpa using ⟨by simpa using solid word List.mem_cons_self, first⟩
  | cons second rest ih =>
    obtain ⟨nonempty, unpadded⟩ :=
      ih (fun each member => solid each (List.mem_cons_of_mem word member))
        (fun each member => clear each (List.mem_cons_of_mem word member))
    have first := Text.unpadded_of_not_isBlank (clear word List.mem_cons_self)
    have joined := first.append unpadded (solid word List.mem_cons_self) nonempty [' ']
    rw [List.map_cons, List.map_cons, List.intercalate_cons_cons]
    exact ⟨by simp, joined⟩

namespace Tagger

variable {tagger : Tagger} {longest position : Nat}

/-! ## One step -/

/-- The words at the start of `word :: later` that make up one token. -/
inductive Grouped (tagger : Tagger) (position : Nat) (word : String) :
    List String → Step → Prop
  | date {second : String} {rest : List String} {date : Date} :
      tagger.dateOf? word second = some date →
      Grouped tagger position word (second :: rest) ⟨dateToken word second date, 1⟩
  | phrase {later : List String} {extra : Nat} {entry : String × List String} :
      tagger.lexicon.entry? (joinWords (word :: later.take extra)) = some entry →
      Grouped tagger position word later
        ⟨Token.ofEntry (joinWords (word :: later.take extra)) entry, extra⟩
  | infinitive {second : String} {rest : List String} :
      Text.sameIgnoringCase word "to" = true → tagger.lexicon.isVerb second = true →
      Grouped tagger position word (second :: rest)
        ⟨Token.ofEntry (joinWords [word, second]) ("Verb", []), 1⟩
  | single {later : List String} :
      Grouped tagger position word later ⟨tagger.wordToken position word, 0⟩

theorem grouped_of_dateAt? {word : String} {later : List String} {step : Step}
    (found : tagger.dateAt? word later = some step) : Grouped tagger position word later step := by
  cases later with
  | nil => cases found
  | cons second rest =>
    obtain ⟨date, dated, rfl⟩ := Option.map_eq_some_iff.mp found
    exact .date dated

theorem grouped_of_phraseAt? {word : String} {later : List String} {step : Step}
    (found : tagger.phraseAt? longest word later = some step) :
    Grouped tagger position word later step := by
  obtain ⟨extra, _, listed⟩ := List.exists_of_findSome?_eq_some found
  obtain ⟨entry, present, rfl⟩ := Option.map_eq_some_iff.mp listed
  exact .phrase present

theorem grouped_of_infinitiveAt? {word : String} {later : List String} {step : Step}
    (found : tagger.infinitiveAt? word later = some step) :
    Grouped tagger position word later step := by
  cases later with
  | nil => cases found
  | cons second rest =>
    simp only [infinitiveAt?] at found
    split at found
    next both =>
      cases found
      rw [Bool.and_eq_true] at both
      exact .infinitive both.1 both.2
    next => cases found

theorem next_grouped (tagger : Tagger) (longest position : Nat) (word : String)
    (later : List String) :
    Grouped tagger position word later (tagger.next longest position word later) := by
  unfold next
  split
  next dated => exact grouped_of_dateAt? dated
  next =>
    split
    next listed => exact grouped_of_phraseAt? listed
    next =>
      split
      next verbal => exact grouped_of_infinitiveAt? verbal
      next => exact .single

/-! ## A single word -/

/-- The token of a word in the form of a number. -/
def numberToken (word : String) : Token := Token.ofEntry word ("Value", ["Number"])

/-- The token of a word in the form of an email address. -/
def emailToken (word : String) : Token := Token.ofEntry word ("Email", ["Noun"])

/-- The categories of the words in neither form that no lexicon lists. -/
def plainEntries : List (String × List String) :=
  [("Noun", ["Currency"]), ("Currency", []), ("Person", ["Noun"]), ("Noun", [])]

/-- The form of a word comes first. A word in neither form has the categories of its entry, or
plain ones. -/
theorem wordToken_cases (tagger : Tagger) (position : Nat) (word : String) :
    isEmail word.toList = true ∧ tagger.wordToken position word = emailToken word ∨
      isEmail word.toList = false ∧ isNumber word.toList = true ∧
        tagger.wordToken position word = numberToken word ∨
      isEmail word.toList = false ∧ isNumber word.toList = false ∧
        ∃ entry, tagger.wordToken position word = Token.ofEntry word entry ∧
          (tagger.lexicon.entry? word = some entry ∨ entry ∈ plainEntries) := by
  unfold wordToken
  simp only
  split
  next email => exact .inl ⟨email, rfl⟩
  next noEmail =>
    rw [Bool.not_eq_true] at noEmail
    right
    split
    next number => exact .inl ⟨noEmail, number, rfl⟩
    next noNumber =>
      rw [Bool.not_eq_true] at noNumber
      refine .inr ⟨noEmail, noNumber, ?_⟩
      split
      · split
        · exact ⟨("Noun", ["Currency"]), rfl, .inr (by simp [plainEntries])⟩
        · exact ⟨("Currency", []), rfl, .inr (by simp [plainEntries])⟩
      split
      next entry present => exact ⟨entry, rfl, .inl present⟩
      split
      · exact ⟨("Person", ["Noun"]), rfl, .inr (by simp [plainEntries])⟩
      · exact ⟨("Noun", []), rfl, .inr (by simp [plainEntries])⟩

/-- The categories of the words that no lexicon lists and that are not numbers: email
addresses, currencies, persons and nouns. -/
def unlistedEntries : List (String × List String) :=
  [("Email", ["Noun"]), ("Noun", ["Currency"]), ("Currency", []), ("Person", ["Noun"]),
   ("Noun", [])]

/-- What the token of a single word rests on. -/
inductive Tagged (tagger : Tagger) (word : String) : Token → Prop
  | number : isNumber word.toList = true → Tagged tagger word (numberToken word)
  | listed {entry : String × List String} : tagger.lexicon.entry? word = some entry →
      Tagged tagger word (Token.ofEntry word entry)
  | unlisted (entry : String × List String) : entry ∈ unlistedEntries →
      Tagged tagger word (Token.ofEntry word entry)

theorem wordToken_tagged (tagger : Tagger) (position : Nat) (word : String) :
    Tagged tagger word (tagger.wordToken position word) := by
  rcases wordToken_cases tagger position word with
    ⟨_, token⟩ | ⟨_, number, token⟩ | ⟨_, _, entry, token, present | plain⟩ <;> rw [token]
  · exact .unlisted ("Email", ["Noun"]) List.mem_cons_self
  · exact .number number
  · exact .listed present
  · exact .unlisted entry (List.mem_cons_of_mem _ plain)

theorem Tagged.text {word : String} {token : Token} (tagged : Tagged tagger word token) :
    token.text = word := by
  cases tagged with
  | number => exact Token.text_ofEntry word _
  | listed => exact Token.text_ofEntry word _
  | unlisted => exact Token.text_ofEntry word _

theorem Tagged.entity {word : String} {token : Token} (tagged : Tagged tagger word token) :
    token.entity = none := by
  cases tagged with
  | number => exact Token.entity_ofEntry word _
  | listed => exact Token.entity_ofEntry word _
  | unlisted => exact Token.entity_ofEntry word _

/-! ## Texts and entities -/

section

variable {word : String} {later : List String} {step : Step}

/-- The text of a token is that of the words it covers. -/
theorem Grouped.text (grouped : Grouped tagger position word later step) :
    step.token.text = joinWords (word :: later.take step.extra) := by
  cases grouped with
  | date => rfl
  | phrase => exact Token.text_ofEntry _ _
  | infinitive => exact Token.text_ofEntry _ _
  | single =>
    rw [(wordToken_tagged tagger position word).text]
    simp [joinWords]

/-- Only dates carry an entity. -/
theorem Grouped.dated_of_entity {value : SlotValue}
    (grouped : Grouped tagger position word later step)
    (carried : step.token.entity = some value) :
    ∃ second rest date, later = second :: rest ∧ tagger.dateOf? word second = some date ∧
      value = .date date := by
  cases grouped with
  | @date second rest date dated =>
    exact ⟨second, rest, date, rfl, dated, (Option.some.inj carried).symm⟩
  | phrase =>
    rw [Token.entity_ofEntry] at carried
    cases carried
  | infinitive =>
    rw [Token.entity_ofEntry] at carried
    cases carried
  | single =>
    rw [(wordToken_tagged tagger position word).entity] at carried
    cases carried

/-- The year of an entity is that of the tagger. -/
theorem Grouped.entity {value : SlotValue} (grouped : Grouped tagger position word later step)
    (carried : step.token.entity = some value) :
    ∃ date, value = .date date ∧ date.year = tagger.year := by
  obtain ⟨second, rest, date, _, dated, rfl⟩ := grouped.dated_of_entity carried
  obtain ⟨named, _, found⟩ := Option.bind_eq_some_iff.mp dated
  exact ⟨date, rfl, ((Date.of?_eq_some_iff _ _ _ _).mp found).1⟩

end

/-! ## Whole texts -/

/-- Every token comes from a step at some place in the words. -/
theorem grouped_of_mem_tagWords {words : List String} {token : Token}
    (member : token ∈ tagger.tagWords longest position words) :
    ∃ place word later step, word :: later <:+ words ∧ Grouped tagger place word later step ∧
      token = step.token := by
  induction position, words using tagWords.induct tagger longest with
  | case1 => simp [tagWords] at member
  | case2 position word later step ih =>
    rw [tagWords, List.mem_cons] at member
    rcases member with rfl | after
    · exact ⟨position, word, later, _, List.suffix_refl _,
        next_grouped tagger longest position word later, rfl⟩
    · obtain ⟨place, first, rest, found, within, grouped, same⟩ := ih after
      have further : later.drop step.extra <:+ word :: later :=
        (List.drop_suffix step.extra later).trans (List.suffix_cons word later)
      exact ⟨place, first, rest, found, within.trans further, grouped, same⟩

/-- The text of a token is made of words of the text that was tagged. -/
theorem exists_words_of_mem_tokenize {text : String} {token : Token}
    (member : token ∈ tagger.tokenize text) :
    ∃ word later, token.text = joinWords (word :: later) ∧
      ∀ each ∈ word :: later, each ∈ strippedWords text := by
  obtain ⟨place, word, later, step, within, grouped, rfl⟩ := grouped_of_mem_tagWords member
  refine ⟨word, later.take step.extra, grouped.text, ?_⟩
  intro each inside
  have sublist := (List.take_sublist step.extra later).cons_cons word
  exact within.subset (sublist.subset inside)

/-- Every word is covered by a step whose token is in the result. -/
theorem covered_of_mem {words : List String} {covered : String} (member : covered ∈ words) :
    ∃ place word later step, Grouped tagger place word later step ∧
      covered ∈ word :: later.take step.extra ∧
      step.token ∈ tagger.tagWords longest position words := by
  induction position, words using tagWords.induct tagger longest with
  | case1 => cases member
  | case2 position word later step ih =>
    rw [tagWords]
    by_cases here : covered ∈ word :: later.take step.extra
    · exact ⟨position, word, later, step, next_grouped tagger longest position word later, here,
        List.mem_cons_self⟩
    · -- The tagger goes on after the words of this step.
      have after : covered ∈ later.drop step.extra := by
        rw [← List.take_append_drop step.extra later, ← List.cons_append] at member
        exact (List.mem_append.mp member).resolve_left here
      obtain ⟨place, first, rest, found, grouped, inside, present⟩ := ih after
      exact ⟨place, first, rest, found, grouped, inside, List.mem_cons_of_mem _ present⟩

end Tagger

end SlotFilling
