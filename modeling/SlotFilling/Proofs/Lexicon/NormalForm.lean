import SlotFilling.Proofs.Dictionary
import SlotFilling.Proofs.Lexicon.Reachable
import SlotFilling.Proofs.Text.ByteOrder

/-!
# The normal form of a lexicon

Loading brings the words of a lexicon into their normal form, in lower case and with single
spaces. Several words may have one normal form, and then the last of them in the order of bytes
gives the categories. This fixes the result: a lexicon that loads has one normal form only, and
the normal form of that is itself, since lower case is its own lower case and has the blanks of
the text. A word without categories keeps a lexicon from loading, and the first one is named.
-/
namespace SlotFilling

/-! ## Single spaces -/

namespace Text

/-- Nothing but spaces between words, one at a time, and none at the ends. -/
structure SingleSpaced (text : List Char) : Prop where
  unpadded : Unpadded text
  spaces : ∀ character ∈ text, isBlank character = true → character = ' '
  single : text.IsChain fun first second => isBlank first = true → isBlank second = false

theorem unpadded_intercalate {parts : List (List Char)} (solid : ∀ part ∈ parts, Solid part) :
    Unpadded ([' '].intercalate parts) := by
  induction parts with
  | nil => exact ⟨nofun, nofun⟩
  | cons first rest ih =>
    obtain ⟨here, later⟩ := List.forall_mem_cons.mp solid
    have start := unpadded_of_not_isBlank here.2
    cases rest with
    | nil =>
      rw [List.intercalate_singleton]
      exact start
    | cons second others =>
      have nonempty : [' '].intercalate (second :: others) ≠ [] := by
        obtain ⟨character, inside⟩ :=
          List.exists_mem_of_ne_nil _ (later second List.mem_cons_self).1
        exact List.ne_nil_of_mem (mem_intercalate List.mem_cons_self inside)
      rw [List.intercalate_cons_cons]
      exact start.append (ih later) here.1 nonempty [' ']

theorem singleSpaced_intercalate {parts : List (List Char)} (solid : ∀ part ∈ parts, Solid part) :
    SingleSpaced ([' '].intercalate parts) := by
  refine ⟨unpadded_intercalate solid, fun _ => eq_space_of_mem_intercalate solid, ?_⟩
  have clear {part : List Char} (isSolid : Solid part) :
      part.IsChain fun first second => isBlank first = true → isBlank second = false := by
    refine (List.pairwise_of_forall_mem_list ?_).isChain
    exact fun _ _ second inside _ => isSolid.2 second inside
  induction parts with
  | nil => exact .nil
  | cons first rest ih =>
    obtain ⟨here, later⟩ := List.forall_mem_cons.mp solid
    cases rest with
    | nil =>
      rw [List.intercalate_singleton]
      exact clear here
    | cons second others =>
      -- A space stands between a word and a text with no blank at its start.
      rw [List.intercalate_cons_cons, List.append_assoc, List.isChain_append]
      refine ⟨clear here, ?_, ?_⟩
      · rw [List.singleton_append, List.isChain_cons]
        exact ⟨fun next isNext _ => (unpadded_intercalate later).1 next isNext, ih later⟩
      · intro last isLast _ _ blank
        rw [here.2 last (List.mem_of_getLast? isLast)] at blank
        cases blank

end Text

namespace Lexicon

theorem singleSpaced_normalPhrase (phrase : String) :
    Text.SingleSpaced (normalPhrase phrase).toList := by
  rw [← intercalate_words_normalPhrase]
  exact Text.singleSpaced_intercalate fun _ => Text.solid_of_mem_words

theorem normalPhrase_normalPhrase (phrase : String) :
    normalPhrase (normalPhrase phrase) = normalPhrase phrase := by
  have lower := lower_normalPhrase phrase
  rw [Text.lower] at lower
  conv_lhs => rw [normalPhrase, intercalate_words_normalPhrase, lower]

variable {raw normal : Lexicon}

/-! ## Words without categories -/

/-- The first word without categories, in the order of bytes. -/
structure IsFirstBare (raw : Lexicon) (word : String) : Prop where
  bare : raw.words.get? word = some []
  first : ∀ other, raw.words.get? other = some [] → Text.bytes word ≤ Text.bytes other

theorem find?_isEmpty_eq_some_iff {entry : String × List String} :
    (raw.words.entries.find? fun entry => entry.2.isEmpty) = some entry ↔
      entry.2 = [] ∧ raw.IsFirstBare entry.1 := by
  obtain ⟨word, categories⟩ := entry
  rw [Dictionary.find?_entries_eq_some_iff]
  simp only [Prod.forall, List.isEmpty_iff, ← Dictionary.get?_eq_some_iff]
  constructor
  · rintro ⟨listed, rfl, least⟩
    exact ⟨rfl, listed, fun other bare => Text.bytes_le_bytes_iff.mpr (least other [] bare rfl)⟩
  · rintro ⟨rfl, bare, first⟩
    refine ⟨bare, rfl, ?_⟩
    rintro other _ listed rfl
    exact Text.bytes_le_bytes_iff.mp (first other listed)

theorem find?_isEmpty_eq_none_iff :
    (raw.words.entries.find? fun entry => entry.2.isEmpty) = none ↔
      ∀ word, raw.words.get? word ≠ some [] := by
  simp only [List.find?_eq_none, Prod.forall, ← Dictionary.get?_eq_some_iff, List.isEmpty_iff]
  constructor
  · intro all word bare
    exact all word [] bare rfl
  · rintro all word _ listed rfl
    exact all word listed

/-! ## The normal form -/

/-- A word gives a key its categories: of all words with that normal form it is the last one, in
the order of bytes. -/
structure Gives (raw : Lexicon) (word key : String) : Prop where
  normalPhrase : normalPhrase word = key
  last : ∀ other ∈ raw.words.keys, Lexicon.normalPhrase other = key →
    Text.bytes other ≤ Text.bytes word

/-- What the normal form of a lexicon is like. -/
structure IsNormalFormOf (raw normal : Lexicon) : Prop where
  key_iff : ∀ key, key ∈ normal.words.keys ↔ ∃ word ∈ raw.words.keys, normalPhrase word = key
  spaced : ∀ key ∈ normal.words.keys, Text.SingleSpaced key.toList
  lower : ∀ key ∈ normal.words.keys, Text.lower key = key
  categories_iff : ∀ key categories, normal.words.get? key = some categories ↔
    ∃ word, raw.words.get? word = some categories ∧ raw.Gives word key
  currencies : normal.currencies = raw.currencies.map Text.lower
  names : normal.names = raw.names.map Text.lower

def normalForm (raw : Lexicon) : Lexicon :=
  ⟨Dictionary.ofList (raw.words.entries.map fun entry => (normalPhrase entry.1, entry.2)),
    raw.currencies.map Text.lower, raw.names.map Text.lower⟩

theorem find?_normalPhrase_eq_some_iff {word key : String} {categories : List String} :
    (raw.words.entries.reverse.find? fun entry => normalPhrase entry.1 == key) =
        some (word, categories) ↔
      raw.words.get? word = some categories ∧ raw.Gives word key := by
  rw [Dictionary.find?_reverse_entries_eq_some_iff, ← Dictionary.get?_eq_some_iff]
  simp only [beq_iff_eq, Prod.forall, ← Dictionary.get?_eq_some_iff, ← Text.bytes_le_bytes_iff]
  refine and_congr_right fun _ => ⟨fun ⟨same, last⟩ => ⟨same, ?_⟩, fun ⟨same, last⟩ => ⟨same, ?_⟩⟩
  · intro other isWord sameKey
    obtain ⟨others, listed⟩ := Dictionary.mem_keys_iff.mp isWord
    exact last other others listed sameKey
  · intro other others listed sameKey
    exact last other (Dictionary.mem_keys_iff.mpr ⟨others, listed⟩) sameKey

/-- Later entries replace earlier ones, and the entries stand in the order of their words. -/
theorem get?_normalForm (raw : Lexicon) (key : String) :
    raw.normalForm.words.get? key =
      (raw.words.entries.reverse.find? fun entry => normalPhrase entry.1 == key).map (·.2) := by
  rw [normalForm, Dictionary.get?_ofList, ← List.map_reverse, List.find?_map, Option.map_map]
  rfl

theorem get?_normalForm_eq_some_iff {key : String} {categories : List String} :
    raw.normalForm.words.get? key = some categories ↔
      ∃ word, raw.words.get? word = some categories ∧ raw.Gives word key := by
  simp only [get?_normalForm, Option.map_eq_some_iff, Prod.exists, find?_normalPhrase_eq_some_iff,
    exists_eq_right]

theorem mem_keys_normalForm_iff {key : String} :
    key ∈ raw.normalForm.words.keys ↔ ∃ word ∈ raw.words.keys, normalPhrase word = key := by
  rw [Dictionary.mem_keys_iff]
  constructor
  · rintro ⟨categories, listed⟩
    obtain ⟨word, present, gives⟩ := get?_normalForm_eq_some_iff.mp listed
    exact ⟨word, Dictionary.mem_keys_iff.mpr ⟨categories, present⟩, gives.normalPhrase⟩
  · rintro ⟨word, isWord, rfl⟩
    obtain ⟨categories, present⟩ := Dictionary.mem_keys_iff.mp isWord
    rw [Dictionary.get?_eq_some_iff] at present
    -- Some word has this normal form, so there is a last one.
    have found : (raw.words.entries.reverse.find? fun entry =>
        normalPhrase entry.1 == normalPhrase word).isSome = true :=
      List.find?_isSome.mpr ⟨_, List.mem_reverse.mpr present, beq_self_eq_true _⟩
    obtain ⟨last, isLast⟩ := Option.isSome_iff_exists.mp found
    exact ⟨last.2, by rw [get?_normalForm, isLast, Option.map_some]⟩

theorem isNormalFormOf_normalForm (raw : Lexicon) : IsNormalFormOf raw raw.normalForm where
  key_iff _ := mem_keys_normalForm_iff
  spaced key isKey := by
    obtain ⟨word, _, rfl⟩ := mem_keys_normalForm_iff.mp isKey
    exact singleSpaced_normalPhrase word
  lower key isKey := by
    obtain ⟨word, _, rfl⟩ := mem_keys_normalForm_iff.mp isKey
    exact lower_normalPhrase word
  categories_iff _ _ := get?_normalForm_eq_some_iff
  currencies := rfl
  names := rfl

/-- No other lexicon is like the normal form. -/
theorem IsNormalFormOf.eq_normalForm (isNormal : IsNormalFormOf raw normal) :
    normal = raw.normalForm := by
  have words : normal.words = raw.normalForm.words := by
    apply Dictionary.ext_get?
    intro key
    apply Option.ext
    intro categories
    rw [isNormal.categories_iff, get?_normalForm_eq_some_iff]
  obtain ⟨_, _, _⟩ := normal
  cases words
  cases isNormal.currencies
  cases isNormal.names
  rfl

/-- The normal form of a normal form is itself. -/
theorem normalForm_normalForm (raw : Lexicon) : raw.normalForm.normalForm = raw.normalForm := by
  have settled : ∀ entry ∈ raw.normalForm.words.entries,
      (normalPhrase entry.1, entry.2) = entry := by
    rintro ⟨key, categories⟩ member
    obtain ⟨word, _, rfl⟩ := mem_keys_normalForm_iff.mp (List.mem_map_of_mem (f := (·.1)) member)
    rw [normalPhrase_normalPhrase]
  have words : Dictionary.ofList (raw.normalForm.words.entries.map fun entry =>
      (normalPhrase entry.1, entry.2)) = raw.normalForm.words := by
    rw [List.map_congr_left settled, List.map_id', Dictionary.ofList_entries]
  have lowered (texts : List String) :
      (texts.map Text.lower).map Text.lower = texts.map Text.lower := by
    simp [Text.lower_lower]
  conv_lhs => rw [normalForm, words]
  simp only [normalForm, lowered]

/-! ## Loading -/

theorem normalize_eq_error_iff {fault : Fault} :
    raw.normalize = .error fault ↔
      ∃ word, raw.IsFirstBare word ∧ fault = .wordWithoutCategories word := by
  unfold normalize
  cases found : raw.words.entries.find? fun entry => entry.2.isEmpty with
  | none =>
    simp only [reduceCtorEq, false_iff]
    rintro ⟨word, first, _⟩
    exact find?_isEmpty_eq_none_iff.mp found word first.bare
  | some entry =>
    obtain ⟨_, first⟩ := find?_isEmpty_eq_some_iff.mp found
    constructor
    · rintro ⟨⟩
      exact ⟨entry.1, first, rfl⟩
    · rintro ⟨word, other, rfl⟩
      -- There is only one first word.
      have same : (raw.words.entries.find? fun entry => entry.2.isEmpty) = some (word, []) :=
        find?_isEmpty_eq_some_iff.mpr ⟨rfl, other⟩
      rw [found] at same
      cases same
      rfl

theorem normalize_eq_ok_iff :
    raw.normalize = .ok normal ↔
      (∀ word, raw.words.get? word ≠ some []) ∧ IsNormalFormOf raw normal := by
  have form : IsNormalFormOf raw normal ↔ raw.normalForm = normal :=
    ⟨fun isNormal => isNormal.eq_normalForm.symm, fun same => same ▸ isNormalFormOf_normalForm raw⟩
  rw [form, ← find?_isEmpty_eq_none_iff, normalize]
  split
  next found => simp [found]
  next none => simp [none, normalForm]

/-- A lexicon loads unless some word has no categories, and otherwise the first such word in the
order of bytes is the fault. What is loaded is the normal form, and no other lexicon is like it:
its keys are the normal forms of the words, each with the categories of the last word that has
that normal form, and its currencies and names are those of the lexicon in lower case. Loading
the normal form changes nothing. -/
theorem normalize_canonical (raw : Lexicon) :
    (∀ bytes, (Yaml.Node.ofBytes? bytes).bind (Yaml.Node.decode? ofNode) = some raw →
      ofYaml bytes = raw.normalize) ∧
    ((∃ fault, raw.normalize = .error fault) ↔ ∃ word, raw.words.get? word = some []) ∧
    (∀ fault, raw.normalize = .error fault ↔
      ∃ word, raw.IsFirstBare word ∧ fault = .wordWithoutCategories word ∧
        fault.message = "lexicon error: word " ++ Text.quoted word ++ " has no categories") ∧
    (∀ normal, raw.normalize = .ok normal ↔
      (∀ word, raw.words.get? word ≠ some []) ∧ IsNormalFormOf raw normal) ∧
    ∀ normal, raw.normalize = .ok normal → normal.normalize = .ok normal := by
  refine ⟨?_, ?_, ?_, fun normal => normalize_eq_ok_iff, ?_⟩
  · intro bytes read
    rw [ofYaml, read]
  · constructor
    · rintro ⟨fault, failed⟩
      obtain ⟨word, first, _⟩ := normalize_eq_error_iff.mp failed
      exact ⟨word, first.bare⟩
    · rintro ⟨word, bare⟩
      cases loaded : raw.normalize with
      | error fault => exact ⟨fault, rfl⟩
      | ok normal => exact absurd bare ((normalize_eq_ok_iff.mp loaded).1 word)
  · intro fault
    rw [normalize_eq_error_iff]
    constructor
    · rintro ⟨word, first, rfl⟩
      exact ⟨word, first, rfl, rfl⟩
    · rintro ⟨word, first, same, _⟩
      exact ⟨word, first, same⟩
  · intro normal loaded
    obtain ⟨filled, isNormal⟩ := normalize_eq_ok_iff.mp loaded
    obtain rfl := isNormal.eq_normalForm
    refine normalize_eq_ok_iff.mpr ⟨?_, ?_⟩
    · intro key bare
      obtain ⟨word, present, _⟩ := get?_normalForm_eq_some_iff.mp bare
      exact filled word present
    · have again := isNormalFormOf_normalForm raw.normalForm
      rwa [normalForm_normalForm] at again

/-- Two words with one normal form, and the second of them gives the categories. -/
theorem normalize_canonical_ice_cream :
    let raw : Lexicon :=
      ⟨.ofList [("Ice  Cream", ["Dessert"]), ("ice cream", ["Noun"])], ["EUR"], ["Anna"]⟩
    let normal : Lexicon := ⟨.ofList [("ice cream", ["Noun"])], ["eur"], ["anna"]⟩
    let text := "words: {Ice  Cream: [Dessert], ice cream: [Noun]}\n" ++
      "currencies: [EUR]\nnames: [Anna]"
    let bytes := text.toUTF8.toList
    (Yaml.Node.ofBytes? bytes).bind (Yaml.Node.decode? ofNode) = some raw ∧
    ofYaml bytes = .ok normal ∧ IsNormalFormOf raw normal ∧ normal.normalize = .ok normal := by
  intro raw normal text bytes
  have read : (Yaml.Node.ofBytes? bytes).bind (Yaml.Node.decode? ofNode) = some raw := by
    decide +kernel
  have loaded : raw.normalize = .ok normal := by decide +kernel
  obtain ⟨ofYaml_eq, -, -, ok_iff, again⟩ := normalize_canonical raw
  exact ⟨read, (ofYaml_eq bytes read).trans loaded, ((ok_iff normal).mp loaded).2,
    again normal loaded⟩

end Lexicon

end SlotFilling
