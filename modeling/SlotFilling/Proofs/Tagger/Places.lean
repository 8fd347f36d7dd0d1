import SlotFilling.Proofs.Tagger.Segmentation

/-!
# Where tokens stand

A token alone does not tell which of the words it covers, as words may occur more than once.
Here each token is kept with its words and with the position of the first of them. The
positions are those of the words in the text, and the words of all tokens in a row are the
words of the text.
-/
namespace SlotFilling

/-- A token with the words that it covers, the first of which stands at `start`. -/
structure Placed where
  start : Nat
  words : List String
  token : Token
  deriving DecidableEq

namespace Tagger

/-- Tag words from a position on, and keep the words with their tokens. -/
def placeWords (tagger : Tagger) (longest position : Nat) : List String → List Placed
  | [] => []
  | word :: later =>
    let step := tagger.next longest position word later
    ⟨position, word :: later.take step.extra, step.token⟩ ::
      tagger.placeWords longest (position + step.extra + 1) (later.drop step.extra)
termination_by words => words.length
decreasing_by
  simp only [List.length_drop, List.length_cons]
  omega

/-- The tokens of a text with the words that they cover. -/
def placedTokens (tagger : Tagger) (text : String) : List Placed :=
  tagger.placeWords tagger.lexicon.longestPhrase 0 (strippedWords text)

variable {tagger : Tagger} {longest position : Nat}

theorem map_token_placeWords (tagger : Tagger) (longest position : Nat) (words : List String) :
    (tagger.placeWords longest position words).map (·.token) =
      tagger.tagWords longest position words := by
  induction position, words using placeWords.induct tagger longest with
  | case1 => rw [placeWords, tagWords, List.map_nil]
  | case2 position word later step ih => rw [placeWords, tagWords, List.map_cons, ih]

theorem map_token_placedTokens (tagger : Tagger) (text : String) :
    (tagger.placedTokens text).map (·.token) = tagger.tokenize text :=
  map_token_placeWords tagger tagger.lexicon.longestPhrase 0 (strippedWords text)

theorem flatMap_words_placeWords (tagger : Tagger) (longest position : Nat)
    (words : List String) :
    (tagger.placeWords longest position words).flatMap (·.words) = words := by
  induction position, words using placeWords.induct tagger longest with
  | case1 => rw [placeWords, List.flatMap_nil]
  | case2 position word later step ih =>
    rw [placeWords, List.flatMap_cons, ih, List.cons_append, List.take_append_drop]

/-- A token stands where a step was made, and covers the words of that step. -/
structure PlacedBy (tagger : Tagger) (longest : Nat) (word : String) (later : List String)
    (placed : Placed) : Prop where
  words : placed.words =
    word :: later.take (tagger.next longest placed.start word later).extra
  token : placed.token = (tagger.next longest placed.start word later).token

theorem placedBy_of_mem {words : List String} {placed : Placed}
    (member : placed ∈ tagger.placeWords longest position words) :
    ∃ skipped word later, placed.start = position + skipped ∧
      words.drop skipped = word :: later ∧ tagger.PlacedBy longest word later placed := by
  induction position, words using placeWords.induct tagger longest with
  | case1 => simp [placeWords] at member
  | case2 position word later step ih =>
    rw [placeWords, List.mem_cons] at member
    rcases member with rfl | after
    · exact ⟨0, word, later, rfl, rfl, rfl, rfl⟩
    · -- The words of this step are skipped as well.
      obtain ⟨skipped, first, rest, start, left, placedBy⟩ := ih after
      refine ⟨step.extra + 1 + skipped, first, rest, by omega, ?_, placedBy⟩
      rw [← left, List.drop_drop, Nat.add_right_comm, List.drop_succ_cons]

/-- What a text has at the position of one of its tokens. -/
theorem placedBy_of_mem_placedTokens {text : String} {placed : Placed}
    (member : placed ∈ tagger.placedTokens text) :
    ∃ word later, (strippedWords text).drop placed.start = word :: later ∧
      tagger.PlacedBy tagger.lexicon.longestPhrase word later placed := by
  obtain ⟨skipped, word, later, start, left, placedBy⟩ := placedBy_of_mem member
  rw [Nat.zero_add] at start
  exact ⟨word, later, start ▸ left, placedBy⟩

theorem PlacedBy.isPrefix {word : String} {later : List String} {placed : Placed}
    (placedBy : tagger.PlacedBy longest word later placed) : placed.words <+: word :: later := by
  rw [placedBy.words, List.cons_prefix_cons]
  exact ⟨rfl, List.take_prefix _ later⟩

end Tagger

end SlotFilling
