import SlotFilling.Proofs.Tagger.Steps
import SlotFilling.Proofs.Text.Words
import Mathlib.Data.List.DropRight
import Mathlib.Data.List.Forall2

/-!
# The words that tokens cover

Each token covers one or more of the words that are left, from the first of them on, and the
next token goes on where it stops. So the tokens deal out all words of a text, in order, and
their texts joined with spaces are the words joined with spaces. Tagging that text again
changes nothing, since the tagger sees the same words.
-/
namespace SlotFilling

/-! ## Words as the tagger sees them -/

theorem stripWord_stripWord (word : List Char) : stripWord (stripWord word) = stripWord word := by
  by_cases nothing : Text.dropTrailing isTrailingPunctuation word = []
  · have kept : stripWord word = word := if_pos nothing
    rw [kept, kept]
  · have taken : stripWord word = Text.dropTrailing isTrailingPunctuation word := if_neg nothing
    have again : Text.dropTrailing isTrailingPunctuation (stripWord word) = stripWord word := by
      rw [taken]
      exact List.rdropWhile_idempotent isTrailingPunctuation word
    rw [stripWord, again]
    exact ite_self _

theorem solid_of_mem_strippedWords {text word : String} (member : word ∈ strippedWords text) :
    Text.Solid word.toList :=
  ⟨toList_ne_nil_of_mem_strippedWords member, not_isBlank_of_mem_strippedWords member⟩

theorem words_joinWords {words : List String} (solid : ∀ word ∈ words, Text.Solid word.toList) :
    Text.words (joinWords words).toList = words.map String.toList := by
  rw [joinWords, String.toList_ofList, Text.words_intercalate]
  exact List.forall_mem_map.mpr solid

/-- The words that the tagger sees, joined with single spaces, are seen as the same words. -/
theorem strippedWords_joinWords (text : String) :
    strippedWords (joinWords (strippedWords text)) = strippedWords text := by
  -- Splitting gives the words back, and they have no more punctuation to lose.
  have stripped : ∀ word ∈ strippedWords text, String.ofList (stripWord word.toList) = word := by
    intro word member
    obtain ⟨piece, _, rfl⟩ := List.mem_map.mp member
    rw [String.toList_ofList, stripWord_stripWord]
  have again : strippedWords (joinWords (strippedWords text)) =
      (strippedWords text).map fun word => String.ofList (stripWord word.toList) := by
    conv_lhs => rw [strippedWords, words_joinWords (fun _ => solid_of_mem_strippedWords)]
    exact List.map_map
  rw [again, List.map_congr_left stripped, List.map_id']

theorem count_joinWords {words : List String} (solid : ∀ word ∈ words, Text.Solid word.toList)
    (nonempty : words ≠ []) : (joinWords words).toList.count ' ' + 1 = words.length := by
  have spaceless : (words.map String.toList).flatten.count ' ' = 0 := by
    rw [List.count_eq_zero, List.mem_flatten]
    rintro ⟨_, isWord, inside⟩
    obtain ⟨word, member, rfl⟩ := List.mem_map.mp isWord
    exact absurd ((solid word member).2 ' ' inside) (by decide)
  rw [joinWords, String.toList_ofList, Text.count_intercalate (by simpa using nonempty),
    List.length_map, spaceless, Nat.add_zero]

theorem length_le_count_joinWords (words : List String) :
    words.length ≤ (joinWords words).toList.count ' ' + 1 := by
  cases words with
  | nil => exact Nat.zero_le _
  | cons word later =>
    rw [joinWords, String.toList_ofList, Text.count_intercalate (by simp), List.length_map]
    exact Nat.le_add_right _ _

/-- Joining the joins of groups joins all their words. -/
theorem joinWords_map_joinWords {groups : List (List String)}
    (filled : ∀ group ∈ groups, group ≠ []) :
    joinWords (groups.map joinWords) = joinWords groups.flatten := by
  have chars : (groups.map joinWords).map String.toList =
      (groups.map (·.map String.toList)).map [' '].intercalate := by
    simp [joinWords]
  have each : ∀ parts ∈ groups.map (·.map String.toList), parts ≠ [] := by
    simpa using filled
  rw [joinWords, joinWords, chars, Text.intercalate_flatten each, List.map_flatten]

namespace Tagger

variable {tagger : Tagger} {longest position : Nat}

/-! ## Steps in a row -/

/-- Tokens that cover the words from a position on, one after another. For each token, `covers`
relates the position where it starts, the words that are left there, and how many of them the
token covers. -/
inductive Segmented (covers : Nat → List String → Nat → Token → Prop) :
    Nat → List String → List Token → Prop
  | done {position : Nat} : Segmented covers position [] []
  | next {position count : Nat} {words : List String} {token : Token} {later : List Token} :
      0 < count → count ≤ words.length → covers position words count token →
      Segmented covers (position + count) (words.drop count) later →
      Segmented covers position words (token :: later)

theorem extra_le_of_dateAt? {word : String} {later : List String} {step : Step}
    (found : tagger.dateAt? word later = some step) : step.extra ≤ later.length := by
  cases later with
  | nil => cases found
  | cons second rest =>
    obtain ⟨_, _, rfl⟩ := Option.map_eq_some_iff.mp found
    exact Nat.succ_le_succ (Nat.zero_le _)

theorem extra_le_of_infinitiveAt? {word : String} {later : List String} {step : Step}
    (found : tagger.infinitiveAt? word later = some step) : step.extra ≤ later.length := by
  cases later with
  | nil => cases found
  | cons second rest =>
    simp only [infinitiveAt?, Option.ite_none_right_eq_some, Option.some.injEq] at found
    obtain ⟨_, rfl⟩ := found
    exact Nat.succ_le_succ (Nat.zero_le _)

theorem extra_le_of_phraseAt? {word : String} {later : List String} {step : Step}
    (found : tagger.phraseAt? longest word later = some step) : step.extra ≤ later.length := by
  obtain ⟨extra, tried, listed⟩ := List.exists_of_findSome?_eq_some found
  obtain ⟨_, _, rfl⟩ := Option.map_eq_some_iff.mp listed
  rw [List.mem_reverse, List.mem_range'_1] at tried
  show extra ≤ later.length
  omega

/-- A step covers no more words than there are. -/
theorem extra_next_le (tagger : Tagger) (longest position : Nat) (word : String)
    (later : List String) : (tagger.next longest position word later).extra ≤ later.length := by
  unfold next
  split
  next dated => exact extra_le_of_dateAt? dated
  next =>
    split
    next listed => exact extra_le_of_phraseAt? listed
    next =>
      split
      next verbal => exact extra_le_of_infinitiveAt? verbal
      next => exact Nat.zero_le _

/-- What holds of every step holds all along the words. -/
theorem segmented_tagWords {covers : Nat → List String → Nat → Token → Prop}
    (each : ∀ position word later, covers position (word :: later)
      ((tagger.next longest position word later).extra + 1)
      (tagger.next longest position word later).token)
    (position : Nat) (words : List String) :
    Segmented covers position words (tagger.tagWords longest position words) := by
  induction position, words using tagWords.induct tagger longest with
  | case1 =>
    rw [tagWords]
    exact .done
  | case2 position word later step ih =>
    rw [tagWords]
    have within := extra_next_le tagger longest position word later
    exact .next (Nat.succ_pos _) (Nat.succ_le_succ within) (each position word later) ih

/-- The words dealt out in groups, one group to a token. -/
theorem Segmented.exists_groups {covers : Nat → List String → Nat → Token → Prop}
    (relates : List String → Token → Prop)
    (taken : ∀ position words count token, covers position words count token →
      relates (words.take count) token)
    {words : List String} {tokens : List Token}
    (segmented : Segmented covers position words tokens) :
    ∃ groups : List (List String), groups.flatten = words ∧ (∀ group ∈ groups, group ≠ []) ∧
      List.Forall₂ relates groups tokens := by
  induction segmented with
  | done => exact ⟨[], rfl, by simp, .nil⟩
  | @next position count words token later positive within covered _ ih =>
    obtain ⟨groups, whole, filled, related⟩ := ih
    have nonempty : words.take count ≠ [] := by
      rw [← List.length_pos_iff, List.length_take]
      omega
    refine ⟨words.take count :: groups, ?_, ?_, .cons (taken _ _ _ _ covered) related⟩
    · rw [List.flatten_cons, whole, List.take_append_drop]
    · exact List.forall_mem_cons.mpr ⟨nonempty, filled⟩

/-! ## No word is lost -/

/-- A token has the text of a group of words, with one space fewer than there are words. -/
structure Spells (group : List String) (token : Token) : Prop where
  nonempty : group ≠ []
  text : token.text = joinWords group
  spaces : token.text.toList.count ' ' + 1 = group.length

theorem exists_groups_tokenize (tagger : Tagger) (text : String) :
    ∃ groups : List (List String), groups.flatten = strippedWords text ∧
      List.Forall₂ Spells groups (tagger.tokenize text) := by
  have segmented :
      Segmented (fun _ words count token => token.text = joinWords (words.take count)) 0
        (strippedWords text) (tagger.tokenize text) :=
    segmented_tagWords (fun position word later => (next_grouped _ _ position word later).text) 0 _
  obtain ⟨groups, whole, filled, texts⟩ :=
    segmented.exists_groups (fun group token => token.text = joinWords group)
      (fun _ _ _ _ => id)
  -- The groups hold words of the text, and these have no spaces of their own.
  have solid : ∀ group ∈ groups, ∀ word ∈ group, Text.Solid word.toList := by
    intro group isGroup word member
    exact solid_of_mem_strippedWords (whole ▸ List.mem_flatten_of_mem isGroup member)
  have facts : ∀ group ∈ groups, group ≠ [] ∧
      (joinWords group).toList.count ' ' + 1 = group.length := by
    intro group member
    have nonempty := filled group member
    exact ⟨nonempty, count_joinWords (solid group member) nonempty⟩
  refine ⟨groups, whole, ((List.forall₂_and_left _ _).mpr ⟨facts, texts⟩).imp ?_⟩
  rintro group token ⟨⟨nonempty, spaces⟩, spelled⟩
  exact ⟨nonempty, spelled, spelled ▸ spaces⟩

theorem joinWords_texts {groups : List (List String)} {tokens : List Token}
    (spelled : List.Forall₂ Spells groups tokens) :
    joinWords (tokens.map (·.text)) = joinWords groups.flatten := by
  have facts : tokens.map (·.text) = groups.map joinWords ∧ ∀ group ∈ groups, group ≠ [] := by
    induction spelled with
    | nil => simp
    | cons here _ ih =>
      rw [List.map_cons, List.map_cons, here.text, ih.1]
      exact ⟨rfl, List.forall_mem_cons.mpr ⟨here.nonempty, ih.2⟩⟩
  rw [facts.1, joinWords_map_joinWords facts.2]

/-- The tokens of a text deal out its words in order, each word to one token and each token
with one space fewer than its words. Joined with spaces they spell the words, and the text
that they spell has the same tokens. -/
theorem tokenize_keeps_words (tagger : Tagger) (text : String) :
    (∃ groups : List (List String), groups.flatten = strippedWords text ∧
      List.Forall₂ Spells groups (tagger.tokenize text)) ∧
    joinWords ((tagger.tokenize text).map (·.text)) = joinWords (strippedWords text) ∧
    tagger.tokenize (joinWords ((tagger.tokenize text).map (·.text))) = tagger.tokenize text := by
  obtain ⟨groups, whole, spelled⟩ := exists_groups_tokenize tagger text
  have joined := joinWords_texts spelled
  rw [whole] at joined
  refine ⟨⟨groups, whole, spelled⟩, joined, ?_⟩
  rw [joined, tokenize, tokenize, strippedWords_joinWords]

end Tagger

end SlotFilling
