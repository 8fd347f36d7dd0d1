import SlotFilling.Lexicon.Yaml
import SlotFilling.Proofs.Tagger.LongestMatch

/-!
# Reachable entries

A loaded lexicon lists its phrases in their normal form, with single spaces and in lower
case. The tagger takes punctuation off the end of each word before it looks up a phrase. So
the key of an entry is tagged as that entry exactly when none of its words ends in
punctuation, and an entry with such a word is out of reach of every text.
-/
namespace SlotFilling

/-! ## Punctuation and lower case -/

def punctuationSpans : List Text.Span :=
  [⟨0x21, 0x21⟩, ⟨0x2C, 0x2C⟩, ⟨0x2E, 0x2E⟩, ⟨0x3A, 0x3B⟩, ⟨0x3F, 0x3F⟩]

theorem caseless_punctuationSpans : Text.Caseless punctuationSpans :=
  ⟨by decide +kernel, by decide +kernel⟩

theorem inSpans_of_isTrailingPunctuation {character : Char}
    (punctuation : isTrailingPunctuation character = true) :
    Text.inSpans punctuationSpans character = true := by
  have each : [',', '.', '!', '?', ';', ':'].all (Text.inSpans punctuationSpans) = true := by
    decide +kernel
  exact List.all_eq_true.mp each character (List.contains_iff_mem.mp punctuation)

/-- A word keeps its end if that is no punctuation, or if there is nothing else to it. -/
theorem stripWord_eq_self_iff (word : List Char) :
    stripWord word = word ↔
      (∀ character ∈ word, isTrailingPunctuation character = true) ∨
        ∀ character ∈ word.getLast?, isTrailingPunctuation character = false := by
  have nothing : Text.dropTrailing isTrailingPunctuation word = [] ↔
      ∀ character ∈ word, isTrailingPunctuation character = true :=
    List.rdropWhile_eq_nil_iff
  have whole : Text.dropTrailing isTrailingPunctuation word = word ↔
      ∀ character ∈ word.getLast?, isTrailingPunctuation character = false := by
    refine List.rdropWhile_eq_self_iff.trans ?_
    by_cases empty : word = []
    · simp [empty]
    · simp [empty, List.getLast?_eq_some_getLast]
  rw [← nothing, ← whole, stripWord]
  by_cases empty : Text.dropTrailing isTrailingPunctuation word = []
  · simp [empty]
  · simp [empty]

theorem stripWord_of_lowered {word lowered : List Char} (isLowered : Text.Lowered word lowered)
    (kept : stripWord word = word) : stripWord lowered = lowered := by
  rw [stripWord_eq_self_iff] at kept ⊢
  -- Punctuation in a small form is punctuation in the word, at the same place.
  rcases kept with punctuation | solidEnd
  · left
    intro small member
    obtain ⟨character, isCharacter, before, after, inside⟩ := isLowered.exists_of_mem member
    have mark := punctuation character isCharacter
    rw [caseless_punctuationSpans.smallForm_eq (inSpans_of_isTrailingPunctuation mark),
      List.mem_singleton] at inside
    rwa [inside]
  · right
    intro small last
    obtain ⟨character, isLast, before, after, inside⟩ := isLowered.exists_of_mem_getLast? last
    by_contra punctuation
    rw [Bool.not_eq_false] at punctuation
    have same := caseless_punctuationSpans.eq_of_mem_smallForm inside
      (inSpans_of_isTrailingPunctuation punctuation)
    rw [same, solidEnd character isLast] at punctuation
    cases punctuation

/-! ## Keys in their normal form -/

namespace Lexicon

theorem lower_normalPhrase (phrase : String) :
    Text.lower (normalPhrase phrase) = normalPhrase phrase := by
  have isLower : normalPhrase phrase =
      Text.lower (String.ofList ([' '].intercalate (Text.words phrase.toList))) := by
    rw [Text.lower, String.toList_ofList]
    rfl
  rw [isLower, Text.lower_lower]

/-- A phrase in its normal form is its words with single spaces between them. -/
theorem intercalate_words_normalPhrase (phrase : String) :
    [' '].intercalate (Text.words (normalPhrase phrase).toList) = (normalPhrase phrase).toList := by
  have solid : ∀ part ∈ Text.words phrase.toList, Text.Solid part :=
    fun _ => Text.solid_of_mem_words
  rw [normalPhrase, String.toList_ofList, Text.lowerChars]
  generalize Text.words phrase.toList = parts at solid
  have isLowered := Text.lowered_lowerAfter [] ([' '].intercalate parts)
  by_cases empty : parts = []
  · rw [empty]
    rfl
  · apply Text.intercalate_words
    · intro small member blank
      obtain ⟨character, inside, _, _, isForm⟩ := isLowered.exists_of_mem member
      have same := Text.caseless_blankSpans.eq_of_mem_smallForm isForm blank
      rw [same] at blank ⊢
      exact Text.eq_space_of_mem_intercalate solid inside blank
    · -- The pieces are the words, lowercased one by one.
      have pieces := isLowered.pieces
      rw [Text.pieces_intercalate solid empty] at pieces
      intro small member
      obtain ⟨part, isPart, form⟩ := Text.exists_lowered_of_mem pieces member
      exact fun nothing => (solid part isPart).1 (form.eq_nil_iff.mp nothing)

/-- The entries of a normal form have categories and are listed under normal forms. -/
theorem normal_of_mem_normalize {lexicon normal : Lexicon}
    (normalized : lexicon.normalize = .ok normal) {entry : String × List String}
    (member : entry ∈ normal.words.entries) :
    entry.2 ≠ [] ∧ ∃ phrase, entry.1 = normalPhrase phrase := by
  unfold normalize at normalized
  split at normalized
  next => cases normalized
  next all =>
    cases normalized
    obtain ⟨raw, isRaw, rfl⟩ := List.mem_map.mp (Dictionary.mem_ofList member)
    have filled := List.find?_eq_none.mp all raw isRaw
    exact ⟨by simpa using filled, raw.1, rfl⟩

theorem exists_normalize_of_ofYaml {bytes : List UInt8} {lexicon : Lexicon}
    (loaded : ofYaml bytes = .ok lexicon) : ∃ raw : Lexicon, raw.normalize = .ok lexicon := by
  unfold ofYaml at loaded
  split at loaded
  next raw _ => exact ⟨raw, loaded⟩
  next => cases loaded

end Lexicon

/-! ## Tagging a key -/

theorem joinWords_map_ofList (parts : List (List Char)) :
    joinWords (parts.map String.ofList) = String.ofList ([' '].intercalate parts) := by
  simp [joinWords, Function.comp_def]

theorem stripWord_of_mem_strippedWords {text word : String} (member : word ∈ strippedWords text) :
    stripWord word.toList = word.toList := by
  obtain ⟨piece, _, rfl⟩ := List.mem_map.mp member
  rw [String.toList_ofList, stripWord_stripWord]

namespace Tagger

variable {tagger : Tagger} {text : String} {token : Token}

/-- A phrase that the lexicon lists as a whole and that starts with no date is one token. -/
theorem Segmented.eq_singleton {position : Nat} {words categories : List String}
    {tokens : List Token} (segmented : Segmented tagger.Decides position words tokens)
    (undated : ¬ tagger.StartsWithDate words)
    (phrase : tagger.ListsPhrase words words.length categories) :
    ∃ token, tokens = [token] ∧ token.HasEntry (joinWords words) categories := by
  cases segmented with
  | done => exact absurd phrase.several (by simp)
  | @next _ count _ token later _ within decides rest =>
    cases decides with
    | date named => exact absurd ⟨_, named⟩ undated
    | @phrase _ _ listed _ _ chosen longest entered =>
      -- No phrase is longer than all words.
      have all : count = words.length := Nat.le_antisymm within (longest _ _ phrase)
      subst all
      have same : listed = categories := Option.some.inj (chosen.listed.symm.trans phrase.listed)
      rw [List.take_length, same] at entered
      rw [List.drop_length] at rest
      cases rest with
      | done => exact ⟨token, rfl, entered⟩
      | next positive none => exact absurd none (Nat.not_le.mpr positive)
    | infinitive _ unlisted => exact absurd phrase (unlisted _ _)
    | single _ unlisted => exact absurd phrase (unlisted _ _)

/-- A key in its normal form, none of whose words loses its end, is tagged as its entry. -/
theorem tokenize_key_of_kept {phrase : String} {categories : List String}
    (listed : (Lexicon.normalPhrase phrase, categories) ∈ tagger.lexicon.words.entries)
    (filled : categories ≠ [])
    (several : 2 ≤ (Text.words (Lexicon.normalPhrase phrase).toList).length)
    (undated : ¬ tagger.StartsWithDate
      ((Text.words (Lexicon.normalPhrase phrase).toList).map String.ofList))
    (kept : ∀ word ∈ Text.words (Lexicon.normalPhrase phrase).toList, stripWord word = word) :
    ∃ token, tagger.tokenize (Lexicon.normalPhrase phrase) = [token] ∧
      token.HasEntry (Lexicon.normalPhrase phrase) categories := by
  have seen : strippedWords (Lexicon.normalPhrase phrase) =
      (Text.words (Lexicon.normalPhrase phrase).toList).map String.ofList :=
    List.map_congr_left fun word member => congrArg String.ofList (kept word member)
  have joined : joinWords (strippedWords (Lexicon.normalPhrase phrase)) =
      Lexicon.normalPhrase phrase := by
    rw [seen, joinWords_map_ofList, Lexicon.intercalate_words_normalPhrase, String.ofList_toList]
  have phraseListed : tagger.ListsPhrase (strippedWords (Lexicon.normalPhrase phrase))
      (strippedWords (Lexicon.normalPhrase phrase)).length categories := by
    refine ⟨?_, Nat.le_refl _, filled, ?_⟩
    · rwa [seen, List.length_map]
    · rw [List.take_length, joined, Lexicon.lower_normalPhrase, Dictionary.get?_eq_some_iff]
      exact listed
  rw [← seen] at undated
  have segmented : Segmented tagger.Decides 0 (strippedWords (Lexicon.normalPhrase phrase))
      (tagger.tokenize (Lexicon.normalPhrase phrase)) :=
    segmented_tagWords (next_decides tagger) 0 _
  obtain ⟨token, single, entered⟩ := segmented.eq_singleton undated phraseListed
  exact ⟨token, single, joined ▸ entered⟩

/-- A text that is its own token loses no punctuation. -/
theorem kept_of_tokenize_eq (single : tagger.tokenize text = [token]) (same : token.text = text) :
    ∀ word ∈ Text.words text.toList, stripWord word = word := by
  obtain ⟨groups, whole, spelled⟩ := exists_groups_tokenize tagger text
  -- The tokens spell the stripped words, so here the text itself does.
  have joined := joinWords_texts spelled
  have alone : joinWords [text] = text := by simp [joinWords]
  rw [single, whole, List.map_singleton, same, alone] at joined
  have words := words_joinWords (fun word (member : word ∈ strippedWords text) =>
    solid_of_mem_strippedWords member)
  rw [← joined] at words
  have mapped : (strippedWords text).map String.toList =
      (Text.words text.toList).map stripWord := by
    simp [strippedWords, Function.comp_def]
  rw [mapped] at words
  exact List.map_inj_left.mp (words.symm.trans (List.map_id _).symm)

theorem kept_of_mem_tokenize (member : token ∈ tagger.tokenize text) :
    ∀ word ∈ Text.words (Text.lower token.text).toList, stripWord word = word := by
  obtain ⟨first, later, spelled, covered⟩ := exists_words_of_mem_tokenize member
  have isLowered := (Text.lowered_lowerAfter [] token.text.toList).words
  have solid := fun word inside => solid_of_mem_strippedWords (covered word inside)
  rw [spelled, words_joinWords solid, ← spelled] at isLowered
  intro small isWord
  rw [Text.lower, String.toList_ofList] at isWord
  obtain ⟨word, isText, form⟩ := Text.exists_lowered_of_mem isLowered isWord
  obtain ⟨each, isEach, rfl⟩ := List.mem_map.mp isText
  exact stripWord_of_lowered form (stripWord_of_mem_strippedWords (covered each isEach))

/-- The key of a loaded entry of two or more words, which start with no date, is tagged as that
entry exactly when no word of it loses punctuation. Otherwise no token of any text spells it. -/
theorem tokenize_key_iff (bytes : List UInt8) (lexicon : Lexicon) (year : Int)
    (loaded : Lexicon.ofYaml bytes = .ok lexicon) (key : String) (categories : List String)
    (listed : (key, categories) ∈ lexicon.words.entries)
    (several : 2 ≤ (Text.words key.toList).length)
    (undated : ¬ StartsWithDate ⟨lexicon, year⟩ ((Text.words key.toList).map String.ofList)) :
    ((∃ token, tokenize ⟨lexicon, year⟩ key = [token] ∧ token.HasEntry key categories) ↔
      ∀ word ∈ Text.words key.toList, stripWord word = word) ∧
    ((∃ word ∈ Text.words key.toList, stripWord word ≠ word) →
      ∀ text, ∀ token ∈ tokenize ⟨lexicon, year⟩ text, Text.lower token.text ≠ key) := by
  obtain ⟨raw, normalized⟩ := Lexicon.exists_normalize_of_ofYaml loaded
  obtain ⟨filled, phrase, isNormal⟩ := Lexicon.normal_of_mem_normalize normalized listed
  refine ⟨⟨?_, ?_⟩, ?_⟩
  · rintro ⟨token, single, entered⟩
    exact kept_of_tokenize_eq single entered.text
  · intro kept
    dsimp only at isNormal
    subst isNormal
    exact tokenize_key_of_kept listed filled several undated kept
  · rintro ⟨word, isWord, lost⟩ text token member rfl
    exact lost (kept_of_mem_tokenize member word isWord)

/-- The two blanks of the key become one, and no word of it ends in punctuation, so the key as a
text is one token with its categories. -/
theorem tokenize_key_ice_cream :
    let lexicon : Lexicon := ⟨.ofList [("ice cream", ["Noun", "Dessert"])], [], []⟩
    Lexicon.ofYaml "words: {Ice  Cream: [Noun, Dessert]}".toUTF8.toList = .ok lexicon ∧
    ((∃ token, tokenize ⟨lexicon, 2026⟩ "ice cream" = [token] ∧
        token.HasEntry "ice cream" ["Noun", "Dessert"]) ↔
      ∀ word ∈ Text.words "ice cream".toList, stripWord word = word) ∧
    ((∃ word ∈ Text.words "ice cream".toList, stripWord word ≠ word) →
      ∀ text, ∀ token ∈ tokenize ⟨lexicon, 2026⟩ text, Text.lower token.text ≠ "ice cream") := by
  intro lexicon
  have loaded : Lexicon.ofYaml "words: {Ice  Cream: [Noun, Dessert]}".toUTF8.toList =
      .ok lexicon := by
    decide +kernel
  have undated : ¬ StartsWithDate ⟨lexicon, 2026⟩
      ((Text.words "ice cream".toList).map String.ofList) := by
    have parts : (Text.words "ice cream".toList).map String.ofList = ["ice", "cream"] := by
      decide +kernel
    rw [parts, startsWithDate_iff]
    decide +kernel
  exact ⟨loaded, tokenize_key_iff _ lexicon 2026 loaded "ice cream" ["Noun", "Dessert"]
    (by decide +kernel) (by decide +kernel) undated⟩

/-- A loaded key that no text reaches: its first word ends in a dot, which the tagger takes
off, so the key itself is two tokens. -/
theorem tokenize_saint_louis :
    let lexicon : Lexicon := ⟨.ofList [("st. louis", ["City"])], [], []⟩
    Lexicon.ofYaml "words: {St. Louis: [City]}".toUTF8.toList = .ok lexicon ∧
    ("st. louis", ["City"]) ∈ lexicon.words.entries ∧
    (Text.words "st. louis".toList).map String.ofList = ["st.", "louis"] ∧
    ¬ StartsWithDate ⟨lexicon, 2026⟩ ["st.", "louis"] ∧
    tokenize ⟨lexicon, 2026⟩ "st. louis" = [.of "st" "Noun", .of "louis" "Noun"] := by
  intro lexicon
  refine ⟨by decide +kernel, by decide +kernel, by decide +kernel, ?_, by decide +kernel⟩
  rw [startsWithDate_iff]
  decide +kernel

end Tagger

end SlotFilling
