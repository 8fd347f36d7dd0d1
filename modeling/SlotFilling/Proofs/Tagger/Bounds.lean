import SlotFilling.Sequence
import SlotFilling.Proofs.Tagger.Segmentation

/-!
# The bounds of the tagging loop

Here the tagger is a loop over positions that looks into the words and into the entries of the
lexicon by index. An index out of bounds ends it with a fault, and nothing but the number of
words that an iteration takes brings it forward. The entries without categories are left out
before the loop, the bound on the length of a phrase is not corrected for them. Still no
iteration meets a fault, each takes one or more of the words that are left, and the loop ends
behind the last word with the tokens of the text.
-/
namespace SlotFilling

namespace Sequence

variable {α : Type}

/-- The first items, if there are that many. -/
def leading (items : List α) (count : Nat) : Except Fault (List α) :=
  if count ≤ items.length then .ok (items.take count) else .error (.outOfRange count items.length)

/-- The items from an index on, which may be the end. -/
def following (items : List α) (index : Nat) : Except Fault (List α) :=
  if index ≤ items.length then .ok (items.drop index) else .error (.outOfRange index items.length)

end Sequence

namespace Checked

/-- A token, and how many words it takes. -/
structure Taken where
  token : Token
  used : Nat

/-- The entries that a tagger keeps. -/
def keptWords (tagger : Tagger) : Dictionary (List String) :=
  tagger.lexicon.words.filter fun _ categories => !categories.isEmpty

def categories? (tagger : Tagger) (text : String) : Option (List String) :=
  (keptWords tagger).get? (Text.lower text)

def isVerb (tagger : Tagger) (word : String) : Bool :=
  (categories? tagger word).any fun categories => categories.any (Text.sameIgnoringCase · "verb")

/-- A token with some categories. The first one is its tag, so there has to be one. -/
def tokenWith (text : String) (categories : List String) : Except Fault Token := do
  let others ← Sequence.following categories 1
  let primary ← Sequence.fetch categories 0
  return others.foldl Token.withCategory (Token.of text primary)

def dateAt (tagger : Tagger) : List String → Option Taken
  | first :: second :: _ =>
    (tagger.dateOf? first second).map fun date => ⟨Tagger.dateToken first second date, 2⟩
  | _ => none

/-- The longest phrase of at most some number of words. -/
def phraseUpTo (tagger : Tagger) (rest : List String) : Nat → Except Fault (Option Taken)
  | 0 | 1 => .ok none
  | count + 2 => do
    let text := joinWords (← Sequence.leading rest (count + 2))
    match categories? tagger text with
    | some categories =>
      let token ← tokenWith text categories
      return some ⟨token, count + 2⟩
    | none => phraseUpTo tagger rest (count + 1)

def phraseAt (tagger : Tagger) (rest : List String) : Except Fault (Option Taken) :=
  phraseUpTo tagger rest (min tagger.lexicon.longestPhrase rest.length)

def infinitiveAt (tagger : Tagger) (rest : List String) : Except Fault (Option Taken) :=
  if 2 ≤ rest.length then do
    let first ← Sequence.fetch rest 0
    if Text.sameIgnoringCase first "to" then
      let second ← Sequence.fetch rest 1
      if isVerb tagger second then
        return some ⟨Token.of (joinWords [first, second]) "Verb", 2⟩
      else return none
    else return none
  else return none

def wordToken (tagger : Tagger) (position : Nat) (word : String) : Except Fault Token :=
  let lower := Text.lower word
  if isEmail word.toList then .ok ((Token.of word "Email").withCategory "Noun")
  else if isNumber word.toList then .ok ((Token.of word "Value").withCategory "Number")
  else if tagger.lexicon.currencies.contains lower then
    if word.toList.all Text.isAlphabetic then .ok ((Token.of word "Noun").withCategory "Currency")
    else .ok (Token.of word "Currency")
  else match (keptWords tagger).get? lower with
    | some categories => tokenWith word categories
    | none =>
      if tagger.lexicon.names.contains lower ||
          (word.toList.head?.any Text.isUppercase && decide (0 < position)) then
        .ok ((Token.of word "Person").withCategory "Noun")
      else .ok (Token.of word "Noun")

/-- The token at a position. -/
def tokenAt (tagger : Tagger) (words : List String) (position : Nat) : Except Fault Taken := do
  let rest ← Sequence.following words position
  match dateAt tagger rest with
  | some taken => return taken
  | none => match ← phraseAt tagger rest with
    | some taken => return taken
    | none => match ← infinitiveAt tagger rest with
      | some taken => return taken
      | none =>
        let word ← Sequence.fetch rest 0
        let token ← wordToken tagger position word
        return ⟨token, 1⟩

/-- The loop under way: the words taken so far, by their number, and their tokens. -/
structure State where
  position : Nat
  tokens : List Token

/-- One iteration. -/
def iterate (tagger : Tagger) (words : List String) (state : State) : Except Fault State := do
  let taken ← tokenAt tagger words state.position
  return ⟨state.position + taken.used, state.tokens ++ [taken.token]⟩

/-- The states of the loop, with the number of iterations to them. It goes on as long as there
are words left. -/
inductive Reaches (tagger : Tagger) (words : List String) : (iterations : Nat) → State → Prop
  | start : Reaches tagger words 0 ⟨0, []⟩
  | step {iterations : Nat} {state next : State} :
      Reaches tagger words iterations state → state.position < words.length →
      iterate tagger words state = .ok next → Reaches tagger words (iterations + 1) next

variable {tagger : Tagger} {words : List String} {word : String} {later : List String}
  {state : State} {iterations position : Nat}

/-! ## Each part is the one without checks -/

/-- The entries left out are those that count as absent. -/
theorem get?_keptWords (tagger : Tagger) (text : String) :
    (keptWords tagger).get? (Text.lower text) =
      (tagger.lexicon.entry? text).map fun entry => entry.1 :: entry.2 := by
  rw [keptWords, Dictionary.get?_filter, Lexicon.entry?]
  cases tagger.lexicon.words.get? (Text.lower text) with
  | none => rfl
  | some categories => cases categories <;> rfl

theorem isVerb_eq (tagger : Tagger) (word : String) :
    isVerb tagger word = tagger.lexicon.isVerb word := by
  rw [isVerb, categories?, get?_keptWords, Lexicon.isVerb]
  cases tagger.lexicon.entry? word <;> rfl

theorem tokenWith_cons (text primary : String) (others : List String) :
    tokenWith text (primary :: others) = .ok (Token.ofEntry text (primary, others)) := by
  simp [tokenWith, Sequence.following, Sequence.fetch, Token.ofEntry, bind, Except.bind, pure,
    Except.pure]

/-- A step with the words that it takes, the first one included. -/
def Taken.ofStep (step : Tagger.Step) : Taken := ⟨step.token, step.extra + 1⟩

theorem dateAt_cons (tagger : Tagger) (word : String) (later : List String) :
    dateAt tagger (word :: later) = (tagger.dateAt? word later).map Taken.ofStep := by
  cases later with
  | nil => rfl
  | cons second rest =>
    rw [dateAt, Tagger.dateAt?, Option.map_map]
    rfl

theorem phraseUpTo_eq (tagger : Tagger) (word : String) (later : List String) {count : Nat}
    (within : count ≤ (word :: later).length) :
    phraseUpTo tagger (word :: later) count =
      .ok (((List.range' 1 (count - 1)).reverse.findSome? fun extra =>
        (tagger.lexicon.entry? (joinWords (word :: later.take extra))).map fun entry =>
          (⟨Token.ofEntry (joinWords (word :: later.take extra)) entry, extra⟩ : Tagger.Step)).map
        Taken.ofStep) := by
  fun_induction phraseUpTo tagger (word :: later) count with
  | case1 => rfl
  | case2 => rfl
  | case3 count ih =>
    -- The longest phrase is tried first. Its words are there, so this is the first one in the list.
    have descending : (List.range' 1 (count + 2 - 1)).reverse =
        (count + 1) :: (List.range' 1 (count + 1 - 1)).reverse := by
      rw [Nat.add_sub_cancel, show count + 2 - 1 = count + 1 from rfl, List.range'_1_concat,
        List.reverse_append, Nat.add_comm 1 count]
      rfl
    have leading : Sequence.leading (word :: later) (count + 2) =
        .ok (word :: later.take (count + 1)) := if_pos within
    rw [descending, List.findSome?_cons, leading]
    simp only [bind, Except.bind, categories?, get?_keptWords]
    cases tagger.lexicon.entry? (joinWords (word :: later.take (count + 1))) with
    | some entry =>
      simp only [Option.map_some, tokenWith_cons]
      rfl
    | none =>
      simp only [Option.map_none]
      exact ih (Nat.le_of_succ_le within)

theorem phraseAt_cons (tagger : Tagger) (word : String) (later : List String) :
    phraseAt tagger (word :: later) =
      .ok ((tagger.phraseAt? tagger.lexicon.longestPhrase word later).map Taken.ofStep) :=
  phraseUpTo_eq tagger word later (Nat.min_le_right _ _)

theorem infinitiveAt_cons (tagger : Tagger) (word : String) (later : List String) :
    infinitiveAt tagger (word :: later) =
      .ok ((tagger.infinitiveAt? word later).map Taken.ofStep) := by
  cases later with
  | nil => rfl
  | cons second rest =>
    have several : 2 ≤ (word :: second :: rest).length := by simp
    rw [infinitiveAt, if_pos several, Tagger.infinitiveAt?]
    simp only [Sequence.fetch, List.getElem?_cons_zero, List.getElem?_cons_succ, bind, Except.bind,
      isVerb_eq, pure, Except.pure]
    by_cases particle : Text.sameIgnoringCase word "to" = true
    · by_cases verb : tagger.lexicon.isVerb second = true
      · simp [particle, verb, Taken.ofStep]
      · simp [particle, verb]
    · simp [particle]

theorem wordToken_eq (tagger : Tagger) (position : Nat) (word : String) :
    wordToken tagger position word = .ok (tagger.wordToken position word) := by
  unfold wordToken Tagger.wordToken
  simp only [get?_keptWords]
  cases tagger.lexicon.entry? word with
  | some entry =>
    simp only [Option.map_some, tokenWith_cons]
    split_ifs <;> rfl
  | none =>
    simp only [Option.map_none]
    split_ifs <;> rfl

/-- Where words are left there is a token, and it is the one of the tagger. -/
theorem tokenAt_eq (left : words.drop position = word :: later) :
    tokenAt tagger words position =
      .ok (.ofStep (tagger.next tagger.lexicon.longestPhrase position word later)) := by
  have inside : position ≤ words.length := by
    by_contra beyond
    rw [List.drop_eq_nil_of_le (Nat.le_of_not_le beyond)] at left
    cases left
  have rest : Sequence.following words position = .ok (word :: later) := by
    rw [Sequence.following, if_pos inside, left]
  unfold tokenAt Tagger.next
  -- What finds nothing here finds nothing there, and the next kind of token is tried in both.
  simp only [rest, bind, Except.bind, dateAt_cons, phraseAt_cons, infinitiveAt_cons]
  cases tagger.dateAt? word later with
  | some step => rfl
  | none =>
    cases tagger.phraseAt? tagger.lexicon.longestPhrase word later with
    | some step => rfl
    | none =>
      cases tagger.infinitiveAt? word later with
      | some step => rfl
      | none =>
        simp only [Option.map_none, Sequence.fetch, List.getElem?_cons_zero, wordToken_eq]
        rfl

/-! ## The loop -/

theorem iterate_eq (left : words.drop state.position = word :: later) :
    iterate tagger words state =
      let step := tagger.next tagger.lexicon.longestPhrase state.position word later
      .ok ⟨state.position + (step.extra + 1), state.tokens ++ [step.token]⟩ := by
  rw [iterate, tokenAt_eq left]
  rfl

/-- An iteration takes no words beyond the last one. -/
theorem end_next_le (tagger : Tagger) (left : words.drop position = word :: later) :
    position + ((tagger.next tagger.lexicon.longestPhrase position word later).extra + 1) ≤
      words.length := by
  have within := Tagger.extra_next_le tagger tagger.lexicon.longestPhrase position word later
  have count := congrArg List.length left
  rw [List.length_drop, List.length_cons] at count
  omega

/-- Where the loop is: the words taken so far have their tokens, and the tokens of the words
that are left would make up those of the whole text. Each iteration has taken a word. -/
structure InBounds (tagger : Tagger) (words : List String) (iterations : Nat) (state : State) :
    Prop where
  position_le : state.position ≤ words.length
  iterations_le : iterations ≤ state.position
  tokens : state.tokens ++ tagger.tagWords tagger.lexicon.longestPhrase state.position
      (words.drop state.position) =
    tagger.tagWords tagger.lexicon.longestPhrase 0 words

theorem exists_left (inside : position < words.length) :
    ∃ word later, words.drop position = word :: later :=
  ⟨_, _, List.drop_eq_getElem_cons inside⟩

theorem InBounds.step {next : State} (bounds : InBounds tagger words iterations state)
    (inside : state.position < words.length) (made : iterate tagger words state = .ok next) :
    InBounds tagger words (iterations + 1) next := by
  obtain ⟨word, later, left⟩ := exists_left inside
  have within := end_next_le tagger left
  have tokens := bounds.tokens
  have iterations_le := bounds.iterations_le
  rw [iterate_eq left] at made
  cases made
  rw [left, Tagger.tagWords] at tokens
  generalize tagger.next tagger.lexicon.longestPhrase state.position word later = step at *
  have rest : words.drop (state.position + (step.extra + 1)) = later.drop step.extra := by
    rw [← List.drop_drop, left, List.drop_succ_cons]
  constructor
  case position_le => exact within
  case iterations_le => dsimp only; omega
  case tokens =>
    -- The token of this iteration comes first among those of the words that were left.
    dsimp only at *
    rw [← tokens, rest, List.append_assoc, List.singleton_append, Nat.add_assoc]

theorem Reaches.inBounds (reached : Reaches tagger words iterations state) :
    InBounds tagger words iterations state := by
  induction reached with
  | start => exact ⟨Nat.zero_le _, Nat.le_refl 0, rfl⟩
  | step _ inside made ih => exact ih.step inside made

/-- What an iteration relies on, and what it does. -/
structure Proceeds (tagger : Tagger) (words : List String) (position : Nat) : Prop where
  /-- There are words enough for every phrase that is tried. -/
  phrases : ∀ count, 2 ≤ count →
    count ≤ min tagger.lexicon.longestPhrase (words.drop position).length →
      Sequence.leading (words.drop position) count = .ok ((words.drop position).take count)
  /-- No categories that are found are empty, so they make a token. -/
  categories : ∀ key found text, (keptWords tagger).get? key = some found →
    found ≠ [] ∧ ∃ token, tokenWith text found = .ok token
  /-- One word or more is taken, and no more words than there are. -/
  taken : ∃ taken, tokenAt tagger words position = .ok taken ∧
    1 ≤ taken.used ∧ position + taken.used ≤ words.length

theorem ne_nil_of_get?_keptWords {key : String} {found : List String}
    (listed : (keptWords tagger).get? key = some found) : found ≠ [] := by
  rw [keptWords, Dictionary.get?_filter, Option.filter_eq_some_iff] at listed
  simpa using listed.2

theorem proceeds_of_lt (tagger : Tagger) (inside : position < words.length) :
    Proceeds tagger words position := by
  constructor
  case phrases =>
    intro count _ within
    exact if_pos (Nat.le_trans within (Nat.min_le_right _ _))
  case categories =>
    intro key found text listed
    have nonempty := ne_nil_of_get?_keptWords listed
    obtain ⟨primary, others, rfl⟩ := List.exists_cons_of_ne_nil nonempty
    exact ⟨nonempty, _, tokenWith_cons text primary others⟩
  case taken =>
    obtain ⟨word, later, left⟩ := exists_left inside
    exact ⟨_, tokenAt_eq left, Nat.succ_pos _, end_next_le tagger left⟩

/-- From every state the loop comes to the end of the words. -/
theorem Reaches.exists_end (reached : Reaches tagger words iterations state) :
    ∃ total last, Reaches tagger words total last ∧ last.position = words.length := by
  -- Each iteration takes a word, so the induction is on how many are left.
  generalize left : words.length - state.position = wordsLeft
  induction wordsLeft using Nat.strongRecOn generalizing iterations state with
  | ind wordsLeft ih =>
    by_cases inside : state.position < words.length
    · obtain ⟨taken, found, positive, _⟩ := (proceeds_of_lt tagger inside).taken
      have made : iterate tagger words state =
          .ok ⟨state.position + taken.used, state.tokens ++ [taken.token]⟩ := by
        rw [iterate, found]
        rfl
      have fewer : words.length - (state.position + taken.used) < wordsLeft := by omega
      exact ih _ fewer (reached.step inside made) rfl
    · exact ⟨iterations, state, reached,
        Nat.le_antisymm reached.inBounds.position_le (Nat.le_of_not_lt inside)⟩

theorem Reaches.tokens_of_end (reached : Reaches tagger words iterations state)
    (ended : state.position = words.length) :
    state.tokens = tagger.tagWords tagger.lexicon.longestPhrase 0 words := by
  have tokens := reached.inBounds.tokens
  rw [ended, List.drop_length, Tagger.tagWords, List.append_nil] at tokens
  exact tokens

end Checked

namespace Tagger

/-- Tagging ends with the tokens of the text, whatever the lexicon holds, also where it was put
together by hand or merged over another one. In every state of the loop with words left, all
phrases to try are within the words, all entries that can be found have categories, and the
iteration takes one or more of the words that are left. So after no more iterations than there
are words the loop has taken all of them, and no more. -/
theorem tokenize_safe (tagger : Tagger) (text : String) :
    (∀ iterations state, Checked.Reaches tagger (strippedWords text) iterations state →
      iterations ≤ state.position ∧ state.position ≤ (strippedWords text).length ∧
      (state.position < (strippedWords text).length →
        Checked.Proceeds tagger (strippedWords text) state.position ∧
        ∃ next, Checked.iterate tagger (strippedWords text) state = .ok next) ∧
      (state.position = (strippedWords text).length → state.tokens = tagger.tokenize text)) ∧
    ∃ iterations, iterations ≤ (strippedWords text).length ∧
      Checked.Reaches tagger (strippedWords text) iterations
        ⟨(strippedWords text).length, tagger.tokenize text⟩ := by
  constructor
  · intro iterations state reached
    have bounds := reached.inBounds
    refine ⟨bounds.iterations_le, bounds.position_le, fun inside => ⟨?_, ?_⟩,
      reached.tokens_of_end⟩
    · exact Checked.proceeds_of_lt tagger inside
    · obtain ⟨word, later, left⟩ := Checked.exists_left inside
      exact ⟨_, Checked.iterate_eq left⟩
  · have begun : Checked.Reaches tagger (strippedWords text) 0 ⟨0, []⟩ := .start
    obtain ⟨total, last, reached, ended⟩ := begun.exists_end
    have counted := ended ▸ reached.inBounds.iterations_le
    have tokens := reached.tokens_of_end ended
    -- The last state is the given one, as both of its fields are known.
    obtain ⟨position, found⟩ := last
    cases ended
    cases tokens
    exact ⟨total, counted, reached⟩

/-- An entry without categories lets phrases of four words be tried, of which a text of three
words has none. -/
theorem tokenize_safe_tea :
    let tagger : Tagger :=
      ⟨⟨.ofList [("", ["Noun"]), ("ice  cream", ["Dessert"]), ("tea for two now", [])], [], []⟩,
        2026⟩
    tagger.lexicon.longestPhrase = 4 ∧ strippedWords "tea for two" = ["tea", "for", "two"] ∧
    Checked.Proceeds tagger (strippedWords "tea for two") 0 ∧
    ∃ iterations, iterations ≤ 3 ∧
      Checked.Reaches tagger (strippedWords "tea for two") iterations
        ⟨3, [.of "tea" "Noun", .of "for" "Noun", .of "two" "Noun"]⟩ := by
  intro tagger
  have words : strippedWords "tea for two" = ["tea", "for", "two"] := by decide +kernel
  have tokens : tagger.tokenize "tea for two" =
      [.of "tea" "Noun", .of "for" "Noun", .of "two" "Noun"] := by decide +kernel
  obtain ⟨each, ends⟩ := tokenize_safe tagger "tea for two"
  have begins := (each 0 ⟨0, []⟩ .start).2.2.1
  rw [words] at begins ends ⊢
  rw [tokens] at ends
  exact ⟨by decide +kernel, rfl, (begins (by decide)).1, ends⟩

end Tagger

end SlotFilling
