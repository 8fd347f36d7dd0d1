import SlotFilling.Proofs.Dictionary
import SlotFilling.Proofs.Tagger.LongestMatch

/-!
# Merging lexicons

Words of the second lexicon replace those of the first one, and its currencies and names come
behind. A tagger does not see all of that. It asks which entry a text has, where an entry
without categories counts as none, and whether a text is listed as a currency or as a name. The
number of words of the longest key decides how far it looks for a phrase, but no text has an
entry with more words than that. So taggers agree whenever their lexicons answer alike, however
often and in whatever order the currencies and names are listed.
-/
namespace SlotFilling

/-! ## Laws of merging -/

namespace Lexicon

theorem merge_assoc (first second third : Lexicon) :
    (first.merge second).merge third = first.merge (second.merge third) := by
  simp only [merge, Dictionary.override_assoc, List.append_assoc]

theorem empty_merge (lexicon : Lexicon) : empty.merge lexicon = lexicon := by
  simp [merge, empty]

theorem merge_empty (lexicon : Lexicon) : lexicon.merge empty = lexicon := by
  simp [merge, empty]

theorem get?_words_merge (lexicon other : Lexicon) (word : String) :
    (lexicon.merge other).words.get? word =
      (other.words.get? word).or (lexicon.words.get? word) :=
  Dictionary.get?_override lexicon.words other.words word

/-- A lexicon without one of its words. -/
def without (lexicon : Lexicon) (word : String) : Lexicon :=
  { lexicon with words := lexicon.words.filter fun key _ => key ≠ word }

theorem get?_words_without (lexicon : Lexicon) (word key : String) :
    (lexicon.without word).words.get? key =
      if key = word then none else lexicon.words.get? key := by
  rw [without, Dictionary.get?_filter]
  split
  · simp [*]
  · cases lexicon.words.get? key <;> simp [*]

/-! ## What a tagger sees of a lexicon -/

/-- Every text has the same entry in both lexicons, and both list the same currencies and names. -/
structure Agrees (lexicon other : Lexicon) : Prop where
  entry? : ∀ text, lexicon.entry? text = other.entry? text
  currencies : ∀ text, text ∈ lexicon.currencies ↔ text ∈ other.currencies
  names : ∀ text, text ∈ lexicon.names ↔ text ∈ other.names

variable {lexicon other : Lexicon}

theorem Agrees.isVerb_eq (agrees : lexicon.Agrees other) (text : String) :
    lexicon.isVerb text = other.isVerb text := by
  rw [isVerb, isVerb, agrees.entry?]

theorem entry?_congr {text : String}
    (same : lexicon.words.get? (Text.lower text) = other.words.get? (Text.lower text)) :
    lexicon.entry? text = other.entry? text := by
  unfold entry?
  rw [same]

theorem agrees_of_words_eq (words : lexicon.words = other.words)
    (currencies : ∀ text, text ∈ lexicon.currencies ↔ text ∈ other.currencies)
    (names : ∀ text, text ∈ lexicon.names ↔ text ∈ other.names) : lexicon.Agrees other :=
  ⟨fun _ => entry?_congr (by rw [words]), currencies, names⟩

theorem agrees_merge_self (lexicon other : Lexicon) :
    (lexicon.merge other).Agrees ((lexicon.merge other).merge other) := by
  rw [merge_assoc]
  apply agrees_of_words_eq
  · simp only [merge, Dictionary.override_self]
  · simp [merge]
  · simp [merge]

/-- A word without categories is no entry, so nothing changes when it is gone. -/
theorem agrees_without {word : String} (bare : lexicon.words.get? word = some []) :
    lexicon.Agrees (lexicon.without word) := by
  refine ⟨fun text => ?_, fun _ => Iff.rfl, fun _ => Iff.rfl⟩
  by_cases same : Text.lower text = word
  · unfold entry?
    rw [get?_words_without, if_pos same, same, bare]
  · exact entry?_congr (by rw [get?_words_without, if_neg same])

end Lexicon

namespace Tagger

variable {lexicon other : Lexicon} {year : Int} {longest position : Nat}

/-! ## One step -/

/-- The words that are left bound the length of a phrase, and the longest key adds nothing. -/
theorem phraseAt?_longestPhrase (tagger : Tagger) (word : String) (later : List String) :
    tagger.phraseAt? tagger.lexicon.longestPhrase word later =
      tagger.phraseAt? (later.length + 1) word later := by
  -- Where the keys are shorter than what is left, the longer phrases are tried as well.
  generalize bound : min tagger.lexicon.longestPhrase (later.length + 1) - 1 = count
  have within : count ≤ later.length := by omega
  have longer : List.range' 1 later.length =
      List.range' 1 count ++ List.range' (1 + count) (later.length - count) := by
    rw [List.range'_append_1, Nat.add_sub_cancel' within]
  have beyond (extra : Nat) (out : extra ∈ List.range' (1 + count) (later.length - count)) :
      tagger.lexicon.entry? (joinWords (word :: later.take extra)) = none := by
    rw [Option.eq_none_iff_forall_ne_some]
    intro entry listed
    have short := Lexicon.length_le_longestPhrase (Lexicon.entry?_eq_some_iff.mp listed)
    rw [List.mem_range'_1] at out
    rw [List.length_cons, List.length_take] at short
    omega
  have none_beyond : (List.range' (1 + count) (later.length - count)).reverse.findSome?
      (fun extra => (tagger.lexicon.entry? (joinWords (word :: later.take extra))).map fun entry =>
        (⟨Token.ofEntry (joinWords (word :: later.take extra)) entry, extra⟩ : Step)) = none := by
    rw [List.findSome?_eq_none_iff]
    intro extra out
    rw [beyond extra (List.mem_reverse.mp out), Option.map_none]
  rw [phraseAt?, phraseAt?, bound, Nat.min_self, Nat.add_sub_cancel, longer, List.reverse_append,
    List.findSome?_append, none_beyond, Option.none_or]

section

variable (agrees : lexicon.Agrees other)
include agrees

theorem phraseAt?_congr (longest : Nat) (word : String) (later : List String) :
    phraseAt? ⟨lexicon, year⟩ longest word later = phraseAt? ⟨other, year⟩ longest word later := by
  simp only [phraseAt?, agrees.entry?]

theorem infinitiveAt?_congr (word : String) (later : List String) :
    infinitiveAt? ⟨lexicon, year⟩ word later = infinitiveAt? ⟨other, year⟩ word later := by
  cases later with
  | nil => rfl
  | cons second rest => rw [infinitiveAt?, infinitiveAt?, agrees.isVerb_eq]

theorem wordToken_congr (position : Nat) (word : String) :
    wordToken ⟨lexicon, year⟩ position word = wordToken ⟨other, year⟩ position word := by
  have currency (text : String) :
      lexicon.currencies.contains text = other.currencies.contains text := by
    simp [agrees.currencies]
  have name (text : String) : lexicon.names.contains text = other.names.contains text := by
    simp [agrees.names]
  simp only [wordToken, agrees.entry?, currency, name]

/-- The longest keys may have different lengths. -/
theorem next_congr (position : Nat) (word : String) (later : List String) :
    next ⟨lexicon, year⟩ lexicon.longestPhrase position word later =
      next ⟨other, year⟩ other.longestPhrase position word later := by
  have phrases : phraseAt? ⟨lexicon, year⟩ lexicon.longestPhrase word later =
      phraseAt? ⟨other, year⟩ other.longestPhrase word later := by
    rw [phraseAt?_longestPhrase ⟨lexicon, year⟩, phraseAt?_longestPhrase ⟨other, year⟩,
      phraseAt?_congr agrees]
  unfold next
  rw [phrases, infinitiveAt?_congr agrees, wordToken_congr agrees]
  rfl

/-! ## All steps -/

theorem tagWords_congr (position : Nat) (words : List String) :
    tagWords ⟨lexicon, year⟩ lexicon.longestPhrase position words =
      tagWords ⟨other, year⟩ other.longestPhrase position words := by
  induction position, words using tagWords.induct ⟨lexicon, year⟩ lexicon.longestPhrase with
  | case1 => rw [tagWords, tagWords]
  | case2 position word later step ih =>
    have same : next ⟨lexicon, year⟩ lexicon.longestPhrase position word later =
        next ⟨other, year⟩ other.longestPhrase position word later :=
      next_congr agrees position word later
    rw [tagWords, tagWords, ← same, ih]

/-- Taggers of lexicons that agree give the same tokens. -/
theorem tokenize_congr (year : Int) (text : String) :
    tokenize ⟨lexicon, year⟩ text = tokenize ⟨other, year⟩ text :=
  tagWords_congr agrees 0 (strippedWords text)

end

end Tagger

/-! ## Merging and tagging -/

namespace Lexicon

/-- Merging is associative with the empty lexicon as its unit, and an entry of the second lexicon
hides that of the first one. No text has other tokens when the second lexicon is merged again,
when currencies and names are listed in another order or more often, or when a word that the
second lexicon lists without categories is taken out of the merged lexicon. -/
theorem merge_laws (first second third : Lexicon) :
    (first.merge second).merge third = first.merge (second.merge third) ∧
    empty.merge first = first ∧
    first.merge empty = first ∧
    (∀ word, (first.merge second).words.get? word =
      (second.words.get? word).or (first.words.get? word)) ∧
    ∀ year text,
      Tagger.tokenize ⟨(first.merge second).merge second, year⟩ text =
        Tagger.tokenize ⟨first.merge second, year⟩ text ∧
      (∀ other : Lexicon, other.words = (first.merge second).words →
        (∀ currency, currency ∈ other.currencies ↔ currency ∈ (first.merge second).currencies) →
        (∀ name, name ∈ other.names ↔ name ∈ (first.merge second).names) →
        Tagger.tokenize ⟨other, year⟩ text = Tagger.tokenize ⟨first.merge second, year⟩ text) ∧
      ∀ word, second.words.get? word = some [] →
        Tagger.tokenize ⟨(first.merge second).without word, year⟩ text =
          Tagger.tokenize ⟨first.merge second, year⟩ text := by
  refine ⟨merge_assoc first second third, empty_merge first, merge_empty first,
    get?_words_merge first second, fun year text => ⟨?_, ?_, ?_⟩⟩
  · exact (Tagger.tokenize_congr (agrees_merge_self first second) year text).symm
  · intro other words currencies names
    exact Tagger.tokenize_congr (agrees_of_words_eq words currencies names) year text
  · intro word bare
    have hidden : (first.merge second).words.get? word = some [] := by
      rw [get?_words_merge, bare, Option.some_or]
    exact (Tagger.tokenize_congr (agrees_without hidden) year text).symm

/-- The second lexicon hides the phrase of the first one, and two words are left of it. -/
theorem merge_laws_ice_cream :
    let first : Lexicon := ⟨.ofList [("ice cream", ["Noun"])], ["eur"], ["anna"]⟩
    let second : Lexicon := ⟨.ofList [("ice cream", []), ("cream", ["Noun"])], ["eur"], ["bob"]⟩
    let both : Lexicon := ⟨.ofList [("cream", ["Noun"]), ("ice cream", [])], ["eur", "eur"],
      ["anna", "bob"]⟩
    let listedOnce : Lexicon := { both with currencies := ["eur"], names := ["bob", "anna"] }
    let text := "Anna pays 5 EUR for ice cream"
    first.merge second = both ∧
    (Tagger.tokenize ⟨first, 2024⟩ text).map (·.text) =
      ["Anna", "pays", "5", "EUR", "for", "ice cream"] ∧
    (Tagger.tokenize ⟨both, 2024⟩ text).map (·.text) =
      ["Anna", "pays", "5", "EUR", "for", "ice", "cream"] ∧
    Tagger.tokenize ⟨listedOnce, 2024⟩ text = Tagger.tokenize ⟨both, 2024⟩ text ∧
    Tagger.tokenize ⟨both.without "ice cream", 2024⟩ text =
      Tagger.tokenize ⟨both, 2024⟩ text := by
  intro first second both listedOnce text
  have merged : first.merge second = both := by decide +kernel
  obtain ⟨-, -, -, -, tokens⟩ := merge_laws first second .empty
  obtain ⟨-, relisted, hidden⟩ := tokens 2024 text
  rw [merged] at relisted hidden
  exact ⟨merged, by decide +kernel, by decide +kernel,
    relisted listedOnce rfl (by simp [listedOnce, both]) (by simp [listedOnce, both, or_comm]),
    hidden "ice cream" (by decide +kernel)⟩

end Lexicon

end SlotFilling
