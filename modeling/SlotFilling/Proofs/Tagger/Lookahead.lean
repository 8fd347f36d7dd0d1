import SlotFilling.Proofs.Tagger.Places

/-!
# How far the tagger looks ahead

The token at a word is decided by that word and the ones right after it: two words for a date
or an infinitive, and as many as the longest phrase of the lexicon has. So a text that goes on
after its words keeps all tokens for which there were enough words. Where one token ends the
next one starts, which is why all tokens before it have to be the same first.
-/
namespace SlotFilling

theorem strippedWords_append {between : String} (nonempty : between ≠ "")
    (blanks : ∀ character ∈ between.toList, Text.isBlank character = true) (text more : String) :
    strippedWords (text ++ between ++ more) = strippedWords text ++ strippedWords more := by
  cases start : between.toList with
  | nil => exact absurd (String.toList_eq_nil_iff.mp start) nonempty
  | cons blank rest =>
    rw [start] at blanks
    obtain ⟨here, later⟩ := List.forall_mem_cons.mp blanks
    rw [strippedWords, String.toList_append, String.toList_append, start, List.append_assoc,
      List.cons_append, Text.words_append_cons here, Text.words_append_of_isBlank later,
      List.map_append]
    rfl

namespace Tagger

variable {tagger : Tagger} {longest position : Nat} {word : String} {later : List String}

/-! ## One step -/

theorem dateAt?_append (nonempty : later ≠ []) (more : List String) :
    tagger.dateAt? word (later ++ more) = tagger.dateAt? word later := by
  obtain ⟨second, rest, rfl⟩ := List.exists_cons_of_ne_nil nonempty
  rfl

theorem infinitiveAt?_append (nonempty : later ≠ []) (more : List String) :
    tagger.infinitiveAt? word (later ++ more) = tagger.infinitiveAt? word later := by
  obtain ⟨second, rest, rfl⟩ := List.exists_cons_of_ne_nil nonempty
  rfl

/-- With words enough for the longest phrase, more words add no phrase to try. -/
theorem phraseAt?_append (enough : longest ≤ later.length + 1) (more : List String) :
    tagger.phraseAt? longest word (later ++ more) = tagger.phraseAt? longest word later := by
  have tried : min longest ((later ++ more).length + 1) = min longest (later.length + 1) := by
    rw [List.length_append]
    omega
  rw [phraseAt?, phraseAt?, tried, ← List.head?_filterMap, ← List.head?_filterMap]
  refine congrArg List.head? (List.filterMap_congr fun extra member => ?_)
  rw [List.mem_reverse, List.mem_range'_1] at member
  have within : extra ≤ later.length := by omega
  rw [List.take_append_of_le_length within]

theorem next_append (enough : max 2 longest ≤ (word :: later).length) (more : List String) :
    tagger.next longest position word (later ++ more) =
      tagger.next longest position word later := by
  rw [List.length_cons] at enough
  have nonempty : later ≠ [] := by
    rw [← List.length_pos_iff]
    omega
  rw [next, next, dateAt?_append nonempty, phraseAt?_append (by omega),
    infinitiveAt?_append nonempty]

/-! ## All steps -/

theorem start_ge_of_mem_placeWords {words : List String} {placed : Placed}
    (member : placed ∈ tagger.placeWords longest position words) : position ≤ placed.start := by
  obtain ⟨skipped, _, _, start, _⟩ := placedBy_of_mem member
  omega

/-- Tagging the same words with more after them starts with the same tokens, as long as each
has enough words to be decided. -/
theorem placeWords_append (tagger : Tagger) (longest position : Nat) (words more : List String) :
    ∃ kept ended continued,
      tagger.placeWords longest position words = kept ++ ended ∧
      tagger.placeWords longest position (words ++ more) = kept ++ continued ∧
      (∀ placed ∈ kept, placed.start + max 2 longest ≤ position + words.length) ∧
      ∀ placed ∈ ended ++ continued, position + words.length < placed.start + max 2 longest := by
  -- As soon as there are too few words for a step, this holds for all steps after it too.
  have undecided : ∀ position words, words.length < max 2 longest →
      ∀ placed ∈ tagger.placeWords longest position words ++
          tagger.placeWords longest position (words ++ more),
        position + words.length < placed.start + max 2 longest := by
    intro position words few placed member
    have start : position ≤ placed.start := by
      rcases List.mem_append.mp member with here | there
      · exact start_ge_of_mem_placeWords here
      · exact start_ge_of_mem_placeWords there
    omega
  induction position, words using placeWords.induct tagger longest with
  | case1 position =>
    exact ⟨[], _, _, rfl, rfl, by simp,
      undecided position [] (Nat.lt_of_lt_of_le Nat.two_pos (Nat.le_max_left 2 longest))⟩
  | case2 position word later step ih =>
    by_cases few : (word :: later).length < max 2 longest
    · exact ⟨[], _, _, rfl, rfl, by simp, undecided position (word :: later) few⟩
    · have enough := Nat.le_of_not_lt few
      obtain ⟨kept, ended, continued, whole, longer, decided, later_undecided⟩ := ih
      have within : step.extra ≤ later.length := extra_next_le tagger longest position word later
      have count : position + step.extra + 1 + (later.drop step.extra).length =
          position + (word :: later).length := by
        rw [List.length_drop, List.length_cons]
        omega
      rw [count] at decided later_undecided
      have here : position + max 2 longest ≤ position + (word :: later).length :=
        Nat.add_le_add_left enough position
      refine ⟨⟨position, word :: later.take step.extra, step.token⟩ :: kept, ended, continued,
        ?_, ?_, List.forall_mem_cons.mpr ⟨here, decided⟩, later_undecided⟩
      · rw [placeWords, whole, List.cons_append]
      · -- The words of this step are the same ones, and the induction is for what they leave.
        rw [List.cons_append, placeWords, next_append enough,
          List.take_append_of_le_length within, List.drop_append_of_le_length within, longer,
          List.cons_append]

/-! ## Texts that go on -/

/-- So many words, from the first one of a token on, decide the token. -/
def lookahead (tagger : Tagger) : Nat := max 2 tagger.lexicon.longestPhrase

/-- The tokens that a number of words decides. -/
def decidedBy (tagger : Tagger) (count : Nat) (placed : List Placed) : List Placed :=
  placed.filter fun each => decide (each.start + tagger.lookahead ≤ count)

theorem decidedBy_append {count : Nat} {kept rest : List Placed}
    (decided : ∀ placed ∈ kept, placed.start + tagger.lookahead ≤ count)
    (undecided : ∀ placed ∈ rest, count < placed.start + tagger.lookahead) :
    tagger.decidedBy count (kept ++ rest) = kept := by
  have all : kept.filter (fun each => decide (each.start + tagger.lookahead ≤ count)) = kept := by
    rw [List.filter_eq_self]
    exact fun placed member => decide_eq_true (decided placed member)
  have none : rest.filter (fun each => decide (each.start + tagger.lookahead ≤ count)) = [] := by
    rw [List.filter_eq_nil_iff]
    intro placed member
    simpa using undecided placed member
  rw [decidedBy, List.filter_append, all, none, List.append_nil]

theorem decidedBy_placeWords_append (tagger : Tagger) (words more : List String) :
    tagger.decidedBy words.length
        (tagger.placeWords tagger.lexicon.longestPhrase 0 (words ++ more)) =
      tagger.decidedBy words.length (tagger.placeWords tagger.lexicon.longestPhrase 0 words) := by
  obtain ⟨kept, ended, continued, whole, longer, decided, undecided⟩ :=
    placeWords_append tagger tagger.lexicon.longestPhrase 0 words more
  rw [Nat.zero_add] at decided undecided
  obtain ⟨endedLate, continuedLate⟩ := List.forall_mem_append.mp undecided
  rw [whole, longer, decidedBy_append decided endedLate, decidedBy_append decided continuedLate]

/-- Words that are added to a text change no token for which there were as many words as the
tagger looks at: the tokens that start at least that far from the end of the text are the same
ones, over the same words. -/
theorem tokenize_lookahead (tagger : Tagger) :
    (∀ text, (tagger.placedTokens text).map (·.token) = tagger.tokenize text) ∧
    (∀ words more : List String,
      tagger.decidedBy words.length
          (tagger.placeWords tagger.lexicon.longestPhrase 0 (words ++ more)) =
        tagger.decidedBy words.length
          (tagger.placeWords tagger.lexicon.longestPhrase 0 words)) ∧
    ∀ text between more : String, between ≠ "" →
      (∀ character ∈ between.toList, Text.isBlank character = true) →
      tagger.decidedBy (strippedWords text).length
          (tagger.placedTokens (text ++ between ++ more)) =
        tagger.decidedBy (strippedWords text).length (tagger.placedTokens text) := by
  refine ⟨map_token_placedTokens tagger, decidedBy_placeWords_append tagger, ?_⟩
  intro text between more nonempty blanks
  rw [placedTokens, strippedWords_append nonempty blanks]
  exact decidedBy_placeWords_append tagger (strippedWords text) (strippedWords more)

/-- A third word makes a phrase of the last two, and leaves the first token as it is. -/
theorem tokenize_lookahead_new_york :
    let tagger : Tagger := ⟨⟨.ofList [("new york city", ["City"])], [], []⟩, 2026⟩
    (" " ≠ "" ∧ ∀ character ∈ " ".toList, Text.isBlank character = true) ∧
    (tagger.tokenize "near new york").map (·.text) = ["near", "new", "york"] ∧
    (tagger.tokenize ("near new york" ++ " " ++ "city")).map (·.text) =
      ["near", "new york city"] ∧
    tagger.decidedBy 3 (tagger.placedTokens "near new york") =
      [⟨0, ["near"], .of "near" "Noun"⟩] ∧
    tagger.decidedBy (strippedWords "near new york").length
        (tagger.placedTokens ("near new york" ++ " " ++ "city")) =
      tagger.decidedBy (strippedWords "near new york").length
        (tagger.placedTokens "near new york") := by
  intro tagger
  have blanks : ∀ character ∈ " ".toList, Text.isBlank character = true := by
    intro character member
    obtain rfl : character = ' ' := List.mem_singleton.mp member
    decide
  exact ⟨⟨by decide, blanks⟩, by decide +kernel, by decide +kernel, by decide +kernel,
    (tokenize_lookahead tagger).2.2 "near new york" " " "city" (by decide) blanks⟩

end Tagger

end SlotFilling
