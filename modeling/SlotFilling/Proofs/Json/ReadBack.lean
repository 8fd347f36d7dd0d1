import SlotFilling.Proofs.Json.Numerals

/-!
# Reading back what was written

The compact text of a value is read back as a tree of the same shape. Strings come back
character by character, since each escape stands for the character it was written for, and
numbers come back as what their numerals say. Nothing in the tree is broken, and the reader
stops where the text of the value stops.
-/
namespace SlotFilling.Json

/-! ## Strings -/

/-- A character is written after a backslash, by its code point, or as it is. -/
theorem escaped_cases (character : Char) :
    (∃ escape, escaped character = ['\\', escape] ∧ escape ≠ 'u' ∧
      simpleEscape? escape = some character) ∨
    (escaped character = controlEscape character ∧ character.toNat < 0x20) ∨
    (escaped character = [character] ∧ 0x20 ≤ character.toNat ∧ character ≠ '"' ∧
      character ≠ '\\') := by
  by_cases named : character ∈ ['"', '\\', '\x08', '\x0c', '\n', '\r', '\t']
  · left
    simp only [List.mem_cons, List.not_mem_nil, or_false] at named
    rcases named with rfl | rfl | rfl | rfl | rfl | rfl | rfl
    all_goals exact ⟨_, rfl, by decide, rfl⟩
  · right
    simp only [List.mem_cons, List.not_mem_nil, or_false, not_or] at named
    obtain ⟨quote, backslash, backspace, feed, line, turn, tab⟩ := named
    simp only [escaped, quote, backslash, backspace, feed, line, turn, tab, if_false]
    by_cases control : character.toNat < 0x20
    · exact .inl ⟨if_pos control, control⟩
    · exact .inr ⟨if_neg control, Nat.le_of_not_lt control, quote, backslash⟩

theorem controlEscape_eq {character : Char} (control : character.toNat < 0x20) :
    ∃ high low, controlEscape character = ['\\', 'u', '0', '0', high, low] ∧
      hexValue? ['0', '0', high, low] = some character.toNat := by
  have each : ∀ point < 0x20,
      controlEscape (Char.ofNat point) =
        ['\\', 'u', '0', '0', Nat.digitChar (point / 16), Nat.digitChar (point % 16)] ∧
      hexValue? ['0', '0', Nat.digitChar (point / 16), Nat.digitChar (point % 16)] =
        some point := by
    decide +kernel
  have here := each character.toNat control
  rw [Char.ofNat_toNat] at here
  exact ⟨_, _, here⟩

/-- A character that is no mark of the syntax stands for itself. -/
theorem readPoints?_plain {character : Char} (printed : 0x20 ≤ character.toNat)
    (quote : character ≠ '"') (backslash : character ≠ '\\') (rest : List Char) :
    readPoints? (character :: rest) =
      (readPoints? rest).map fun (points, rest) => (character.toNat :: points, rest) := by
  simp [readPoints?, backslash, Nat.not_lt.mpr printed]

/-- Each character is read back from the way it was written. -/
theorem readPoints?_escaped (character : Char) (rest : List Char) :
    readPoints? (escaped character ++ rest) =
      (readPoints? rest).map fun (points, rest) => (character.toNat :: points, rest) := by
  rcases escaped_cases character with
    ⟨escape, written, other, named⟩ | ⟨written, control⟩ | ⟨written, printed, quote, backslash⟩
  · rw [written]
    cases later : readPoints? rest <;> simp [readPoints?, other, named, later]
  · obtain ⟨high, low, same, value⟩ := controlEscape_eq control
    rw [written, same]
    cases later : readPoints? rest <;> simp [readPoints?, value, later]
  · rw [written]
    exact readPoints?_plain printed quote backslash rest

theorem readPoints?_escapedText (text rest : List Char) :
    readPoints? (text.flatMap escaped ++ rest) =
      (readPoints? rest).map fun (points, rest) => (text.map Char.toNat ++ points, rest) := by
  induction text with
  | nil => exact Option.map_id'.symm
  | cons character text ih =>
    rw [List.flatMap_cons, List.append_assoc, readPoints?_escaped, ih, Option.map_map]
    rfl

theorem readPoints?_append (text rest : List Char) :
    readPoints? (text.flatMap escaped ++ '"' :: rest) = some (text.map Char.toNat, rest) := by
  rw [readPoints?_escapedText, readPoints?, Option.map_some]
  exact congrArg (fun points => some (points, rest)) (List.append_nil _)

theorem not_surrogate (character : Char) :
    isHighSurrogate character.toNat = false ∧ isLowSurrogate character.toNat = false := by
  have valid : character.toNat < 0xD800 ∨ 0xDFFF < character.toNat ∧ character.toNat < 0x110000 :=
    character.valid
  simp only [isHighSurrogate, isLowSurrogate, Bool.and_eq_false_iff, decide_eq_false_iff_not]
  omega

theorem joinPoints?_toNat (text : List Char) : joinPoints? (text.map Char.toNat) = some text := by
  induction text with
  | nil => rfl
  | cons character rest ih =>
    obtain ⟨high, low⟩ := not_surrogate character
    cases rest with
    | nil => simp [joinPoints?, high, low, Char.ofNat_toNat]
    | cons next rest =>
      rw [List.map_cons] at ih
      simp [joinPoints?, high, low, Char.ofNat_toNat, ih]

/-- A string is read back up to its closing quote. -/
theorem readText?_append (text : String) (rest : List Char) :
    readText? (text.toList.flatMap escaped ++ '"' :: rest) = some (some text, rest) := by
  simp [readText?, readPoints?_append, joinPoints?_toNat]

/-! ## Values -/

mutual

/-- The tree that the compact text of a value is read as. -/
def readBack : Json → Parsed
  | null => .null
  | bool value => .bool value
  | natural value => (readNumber (decimalDigits value)).value
  | number value => if value.isFinite then (readNumber value.dataText.toList).value else .null
  | text value => .text value
  | list items => .list (readBackItems items)
  | object members => .object (readBackMembers members)

def readBackItems : List Json → List Parsed
  | [] => []
  | item :: rest => item.readBack :: readBackItems rest

def readBackMembers : List (String × Json) → List (Option String × Parsed)
  | [] => []
  | (name, value) :: rest => (some name, value.readBack) :: readBackMembers rest

end

theorem skipSpaces_cons {first : Char} (solid : isSpace first = false) (rest : List Char) :
    skipSpaces (first :: rest) = first :: rest := by
  rw [skipSpaces, List.dropWhile_cons_of_neg (by simp [solid])]

theorem Delimited.skipSpaces {rest : List Char} (ends : Delimited rest) :
    Json.skipSpaces rest = rest := by
  cases rest with
  | nil => rfl
  | cons first rest =>
    apply skipSpaces_cons
    have listed : first ∈ [',', ']', '\x7d'] := ends first rfl
    simp only [List.mem_cons, List.not_mem_nil, or_false] at listed
    rcases listed with rfl | rfl | rfl <;> rfl

theorem not_isSpace_of_start {first : Char} (start : first = '-' ∨ first.isDigit = true) :
    isSpace first = false := by
  by_contra space
  simp only [isSpace, Bool.not_eq_false, List.contains_iff_mem, List.mem_cons, List.not_mem_nil,
    or_false] at space
  rcases space with rfl | rfl | rfl | rfl <;> exact absurd start (by decide)

namespace Numeral

variable (numeral : Numeral) (negative : Bool)

theorem chars_eq_cons : ∃ first later, numeral.chars negative = first :: later ∧
    (first = '-' ∨ first.isDigit = true) := by
  obtain ⟨first, later, same, digit⟩ := numeral.unsigned_eq_cons
  cases negative with
  | true => exact ⟨'-', numeral.unsigned, rfl, .inl rfl⟩
  | false => exact ⟨first, later, same, .inr digit⟩

theorem readNumber_append {rest : List Char} (ends : Delimited rest) :
    readNumber (numeral.chars negative ++ rest) =
      ⟨(readNumber (numeral.chars negative)).value, some rest⟩ := by
  have followed := numeral.readNumber?_append negative ends
  have alone : readNumber? (numeral.chars negative ++ []) = _ :=
    numeral.readNumber?_append negative nofun
  rw [List.append_nil] at alone
  simp only [readNumber, followed, alone]
  cases (numeral.parts negative).value <;> rfl

/-- A value that starts as a number is read as one. -/
theorem readValue_append {rest : List Char} (ends : Delimited rest) (fuel : Nat) :
    readValue (fuel + 1) (numeral.chars negative ++ rest) =
      ⟨(readNumber (numeral.chars negative)).value, some rest⟩ := by
  rw [← numeral.readNumber_append negative ends]
  obtain ⟨first, later, same, start⟩ := numeral.chars_eq_cons negative
  have solid := not_isSpace_of_start start
  rw [same, List.cons_append, readValue, skipSpaces_cons solid]
  -- No other kind of value starts with a sign or a digit.
  split
  case h_1 empty => cases empty
  case h_8 => rfl
  all_goals
    next other =>
      obtain ⟨rfl, -⟩ := List.cons.inj other
      exact absurd start (by decide)

end Numeral

theorem textChars_append (text : String) (rest : List Char) :
    textChars text ++ rest = '"' :: (text.toList.flatMap escaped ++ '"' :: rest) := by
  simp [textChars]

theorem readValue_text (text : String) (rest : List Char) (fuel : Nat) :
    readValue (fuel + 1) (textChars text ++ rest) = ⟨.text text, some rest⟩ := by
  have read := readText?_append text rest
  rw [textChars_append, readValue, skipSpaces_cons rfl]
  simp only [readString, read]

theorem dataText_of_infinite {value : Binary64} (infinite : ¬ value.isFinite = true) :
    value.dataText = "null" := by
  simp [Binary64.dataText, infinite]

/-- The text of a value starts with a character that is no space and closes no list. -/
theorem compactChars_eq_cons (json : Json) : ∃ first later, json.compactChars = first :: later ∧
    isSpace first = false ∧ first ≠ ']' := by
  have numeric : ∀ (numeral : Numeral) (negative : Bool), ∃ first later,
      numeral.chars negative = first :: later ∧ isSpace first = false ∧ first ≠ ']' := by
    intro numeral negative
    obtain ⟨first, later, same, start⟩ := numeral.chars_eq_cons negative
    refine ⟨first, later, same, not_isSpace_of_start start, ?_⟩
    rintro rfl
    exact absurd start (by decide)
  cases json with
  | null => exact ⟨_, _, rfl, rfl, by decide⟩
  | bool value => cases value <;> exact ⟨_, _, rfl, rfl, by decide⟩
  | natural value =>
    rw [compactChars, ← Numeral.chars_ofNat]
    exact numeric _ _
  | number value =>
    rw [compactChars]
    by_cases finite : value.isFinite
    · obtain ⟨numeral, written⟩ := exists_numeral_of_isFinite finite
      rw [written]
      exact numeric _ _
    · rw [dataText_of_infinite finite]
      exact ⟨_, _, rfl, rfl, by decide⟩
  | text value => exact ⟨_, _, rfl, rfl, by decide⟩
  | list items => exact ⟨_, _, rfl, rfl, by decide⟩
  | object members => exact ⟨_, _, rfl, rfl, by decide⟩

theorem length_compactChars_pos (json : Json) : 0 < json.compactChars.length := by
  obtain ⟨first, later, same, -⟩ := json.compactChars_eq_cons
  rw [same]
  exact Nat.succ_pos _

theorem compactItems_cons (item next : Json) (others : List Json) :
    compactItems (item :: next :: others) =
      item.compactChars ++ ',' :: compactItems (next :: others) := by
  rw [compactItems]
  nofun

theorem compactMembers_cons (name : String) (value : Json) (next : String × Json)
    (others : List (String × Json)) :
    compactMembers ((name, value) :: next :: others) =
      textChars name ++ ':' :: value.compactChars ++ ',' :: compactMembers (next :: others) := by
  rw [compactMembers]
  nofun

theorem compactItems_eq_cons (item : Json) (others : List Json) : ∃ first later,
    compactItems (item :: others) = first :: later ∧ isSpace first = false ∧ first ≠ ']' := by
  obtain ⟨first, later, same, start⟩ := item.compactChars_eq_cons
  cases others with
  | nil => exact ⟨first, later, same, start⟩
  | cons next others => exact ⟨first, _, by rw [compactItems_cons, same, List.cons_append], start⟩

theorem compactMembers_eq_cons (member : String × Json) (others : List (String × Json)) :
    ∃ later, compactMembers (member :: others) = '"' :: later := by
  cases others with
  | nil => exact ⟨_, rfl⟩
  | cons next others => exact ⟨_, rfl⟩

theorem readValue_list {first : Char} (solid : isSpace first = false) (notClosing : first ≠ ']')
    (later : List Char) (fuel : Nat) :
    readValue (fuel + 1) ('[' :: first :: later) =
      ⟨.list (readItems fuel (first :: later)).value, (readItems fuel (first :: later)).rest⟩ := by
  rw [readValue, skipSpaces_cons rfl]
  simp only [skipSpaces_cons solid]
  split
  next closed => exact absurd (List.cons.inj closed).1 notClosing
  next => rfl

theorem readValue_object (later : List Char) (fuel : Nat) :
    readValue (fuel + 1) ('\x7b' :: '"' :: later) =
      ⟨.object (readMembers fuel ('"' :: later)).value,
        (readMembers fuel ('"' :: later)).rest⟩ := by
  rw [readValue, skipSpaces_cons rfl]
  rfl

section Steps

variable {fuel : Nat} {text rest : List Char} {value : Parsed}

theorem readItems_last (read : readValue fuel text = ⟨value, some (']' :: rest)⟩) :
    readItems (fuel + 1) text = ⟨[value], some rest⟩ := by
  rw [readItems, read]
  rfl

theorem readItems_more (read : readValue fuel text = ⟨value, some (',' :: rest)⟩) :
    readItems (fuel + 1) text =
      ⟨value :: (readItems fuel rest).value, (readItems fuel rest).rest⟩ := by
  rw [readItems, read]
  rfl

theorem readMembers_last (name : String)
    (read : readValue fuel text = ⟨value, some ('\x7d' :: rest)⟩) :
    readMembers (fuel + 1) (textChars name ++ ':' :: text) = ⟨[(some name, value)], some rest⟩ := by
  have colon : skipSpaces (':' :: text) = ':' :: text := skipSpaces_cons rfl text
  rw [textChars_append, readMembers, skipSpaces_cons rfl]
  simp only [readText?_append, colon, read]
  rfl

theorem readMembers_more (name : String)
    (read : readValue fuel text = ⟨value, some (',' :: rest)⟩) :
    readMembers (fuel + 1) (textChars name ++ ':' :: text) =
      ⟨(some name, value) :: (readMembers fuel rest).value, (readMembers fuel rest).rest⟩ := by
  have colon : skipSpaces (':' :: text) = ':' :: text := skipSpaces_cons rfl text
  rw [textChars_append, readMembers, skipSpaces_cons rfl]
  simp only [readText?_append, colon, read]
  rfl

end Steps

-- Besides a step for each value the reader takes one for each item and each member. Values are
-- written with at least one character, so twice the length of the text is enough fuel.
mutual

/-- The text of a value is read in full and no further. -/
theorem readValue_append : (json : Json) → (fuel : Nat) → (rest : List Char) →
    2 * json.compactChars.length ≤ fuel + 1 → Delimited rest →
      readValue (fuel + 1) (json.compactChars ++ rest) = ⟨json.readBack, some rest⟩
  | null, _, _, _, _ => rfl
  | bool true, _, _, _, _ => rfl
  | bool false, _, _, _, _ => rfl
  | natural value, fuel, rest, _, ends => by
    have read := (Numeral.ofNat value).readValue_append false ends fuel
    rwa [Numeral.chars_ofNat] at read
  | number value, fuel, rest, _, ends => by
    rw [compactChars, readBack]
    by_cases finite : value.isFinite
    · obtain ⟨numeral, written⟩ := exists_numeral_of_isFinite finite
      rw [if_pos finite, written]
      exact numeral.readValue_append _ ends fuel
    · rw [if_neg finite, dataText_of_infinite finite]
      rfl
  | text value, fuel, rest, _, _ => readValue_text value rest fuel
  | list [], _, _, _, _ => rfl
  | list (item :: others), fuel, rest, enough, _ => by
    rw [compactChars, List.length_append, List.length_cons, List.length_singleton] at enough
    obtain ⟨fuel, rfl⟩ := Nat.exists_eq_add_one.mpr (show 0 < fuel by omega)
    have read := readItems_append (item :: others) fuel rest (by omega) (List.cons_ne_nil _ _)
    obtain ⟨first, later, same, solid, notClosing⟩ := compactItems_eq_cons item others
    rw [same, List.cons_append] at read
    rw [compactChars, List.append_assoc, same, List.cons_append, List.cons_append,
      List.singleton_append, readValue_list solid notClosing, read]
    rfl
  | object [], _, _, _, _ => rfl
  | object (member :: others), fuel, rest, enough, _ => by
    rw [compactChars, List.length_append, List.length_cons, List.length_singleton] at enough
    obtain ⟨fuel, rfl⟩ := Nat.exists_eq_add_one.mpr (show 0 < fuel by omega)
    have read := readMembers_append (member :: others) fuel rest (by omega) (List.cons_ne_nil _ _)
    obtain ⟨later, same⟩ := compactMembers_eq_cons member others
    rw [same, List.cons_append] at read
    rw [compactChars, List.append_assoc, same, List.cons_append, List.cons_append,
      List.singleton_append, readValue_object, read]
    rfl

theorem readItems_append : (items : List Json) → (fuel : Nat) → (rest : List Char) →
    2 * (compactItems items).length ≤ fuel → items ≠ [] →
      readItems (fuel + 1) (compactItems items ++ ']' :: rest) = ⟨readBackItems items, some rest⟩
  | [], _, _, _, nonempty => absurd rfl nonempty
  | [item], fuel, rest, enough, _ => by
    have positive := item.length_compactChars_pos
    rw [compactItems] at enough ⊢
    obtain ⟨fuel, rfl⟩ := Nat.exists_eq_add_one.mpr (show 0 < fuel by omega)
    exact readItems_last (readValue_append item fuel (']' :: rest) enough (by simp [Delimited]))
  | item :: next :: others, fuel, rest, enough, _ => by
    rw [compactItems_cons, List.length_append, List.length_cons] at enough
    obtain ⟨fuel, rfl⟩ := Nat.exists_eq_add_one.mpr (show 0 < fuel by omega)
    have read := readValue_append item fuel (',' :: (compactItems (next :: others) ++ ']' :: rest))
      (by omega) (by simp [Delimited])
    have later := readItems_append (next :: others) fuel rest (by omega) (List.cons_ne_nil _ _)
    rw [compactItems_cons, List.append_assoc, List.cons_append, readItems_more read, later]
    rfl

theorem readMembers_append : (members : List (String × Json)) → (fuel : Nat) →
    (rest : List Char) → 2 * (compactMembers members).length ≤ fuel → members ≠ [] →
      readMembers (fuel + 1) (compactMembers members ++ '\x7d' :: rest) =
        ⟨readBackMembers members, some rest⟩
  | [], _, _, _, nonempty => absurd rfl nonempty
  | [(name, value)], fuel, rest, enough, _ => by
    rw [compactMembers, List.length_append, List.length_cons] at enough
    obtain ⟨fuel, rfl⟩ := Nat.exists_eq_add_one.mpr (show 0 < fuel by omega)
    have read := readValue_append value fuel ('\x7d' :: rest) (by omega) (by simp [Delimited])
    rw [compactMembers, List.append_assoc, List.cons_append, readMembers_last name read]
    rfl
  | (name, value) :: next :: others, fuel, rest, enough, _ => by
    rw [compactMembers_cons, List.length_append, List.length_append, List.length_cons,
      List.length_cons] at enough
    obtain ⟨fuel, rfl⟩ := Nat.exists_eq_add_one.mpr (show 0 < fuel by omega)
    have read := readValue_append value fuel
      (',' :: (compactMembers (next :: others) ++ '\x7d' :: rest)) (by omega) (by simp [Delimited])
    have later := readMembers_append (next :: others) fuel rest (by omega) (List.cons_ne_nil _ _)
    rw [compactMembers_cons, List.append_assoc, List.append_assoc, List.cons_append,
      List.cons_append, readMembers_more name read, later]
    rfl

end

/-- The compact text of a value is a whole document, and is read as the tree of the value. -/
theorem ofChars_compactChars (json : Json) :
    Document.ofChars json.compactChars = ⟨json.readBack, true⟩ := by
  have read := json.readValue_append (2 * json.compactChars.length + 1) [] (by omega) nofun
  rw [List.append_nil] at read
  simp only [Document.ofChars, read]
  rfl

/-! ## Trees without broken places -/

theorem Numeral.isWhole_readNumber (numeral : Numeral) (negative : Bool) :
    (readNumber (numeral.chars negative)).value.isWhole = true := by
  have read : readNumber? (numeral.chars negative ++ []) = _ :=
    numeral.readNumber?_append negative nofun
  rw [List.append_nil] at read
  simp only [readNumber, read]
  cases (numeral.parts negative).value <;> rfl

mutual

/-- No value is written in a way that breaks its text. -/
theorem isWhole_readBack : (json : Json) → json.readBack.isWhole = true
  | null => rfl
  | bool _ => rfl
  | natural value => by
    rw [readBack, ← Numeral.chars_ofNat]
    exact Numeral.isWhole_readNumber _ _
  | number value => by
    rw [readBack]
    split
    next finite =>
      obtain ⟨numeral, written⟩ := exists_numeral_of_isFinite finite
      rw [written]
      exact numeral.isWhole_readNumber _
    next => rfl
  | text _ => rfl
  | list items => by
    rw [readBack, Parsed.isWhole]
    exact allWhole_readBackItems items
  | object members => by
    rw [readBack, Parsed.isWhole]
    exact allMembersWhole_readBackMembers members

theorem allWhole_readBackItems : (items : List Json) → allWhole (readBackItems items) = true
  | [] => rfl
  | item :: rest => by
    rw [readBackItems, allWhole, isWhole_readBack item, allWhole_readBackItems rest]
    rfl

theorem allMembersWhole_readBackMembers : (members : List (String × Json)) →
    allMembersWhole (readBackMembers members) = true
  | [] => rfl
  | (_, value) :: rest => by
    rw [readBackMembers, allMembersWhole, isWhole_readBack value,
      allMembersWhole_readBackMembers rest]
    rfl

end

end SlotFilling.Json
