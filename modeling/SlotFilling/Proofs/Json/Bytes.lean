import SlotFilling.Json.Bytes
import SlotFilling.Proofs.Json.ReadBack
import SlotFilling.Proofs.Text.ByteOrder

/-!
# JSON text given as bytes

A text in UTF-8 is read as the text it is. Where a byte belongs to no character, no value
starts, and no string that goes on past it has a value. Such a string can still be passed over.
-/
namespace SlotFilling.Json

/-! ## Bytes in UTF-8 -/

theorem charsAfter_length (taken rest : List UInt8) :
    charsAfter taken.length (taken ++ rest) = charsAfter 0 rest := by
  induction taken with
  | nil => rfl
  | cons byte taken ih => exact ih

theorem firstChar?_utf8EncodeChar (character : Char) (rest : List UInt8) :
    firstChar? (String.utf8EncodeChar character ++ rest) = some character := by
  have length : (String.utf8EncodeChar character).length ≤ 4 := by
    rw [String.length_utf8EncodeChar]
    exact character.utf8Size_le_four
  rw [firstChar?, List.take_append, List.take_of_length_le length, List.toByteArray_append]
  exact ByteArray.utf8DecodeChar?_utf8EncodeChar_append

theorem charsAfter_utf8EncodeChar (character : Char) (rest : List UInt8) :
    charsAfter 0 (String.utf8EncodeChar character ++ rest) = character :: charsAfter 0 rest := by
  have first := firstChar?_utf8EncodeChar character rest
  have length := String.length_utf8EncodeChar character
  obtain ⟨byte, later, encoded⟩ :=
    List.exists_cons_of_ne_nil (String.utf8EncodeChar_ne_nil (c := character))
  rw [encoded, List.cons_append] at first ⊢
  rw [encoded, List.length_cons] at length
  rw [charsAfter, first]
  simp only
  rw [← length, Nat.add_sub_cancel, charsAfter_length]

theorem charsAfter_bytes (text : String) (rest : List UInt8) :
    charsAfter 0 (Text.bytes text ++ rest) = text.toList ++ charsAfter 0 rest := by
  rw [Text.bytes_eq_flatMap]
  induction text.toList with
  | nil => rfl
  | cons character later ih =>
    rw [List.flatMap_cons, List.append_assoc, charsAfter_utf8EncodeChar, ih, List.cons_append]

/-- Given as its bytes, a text is read as it is. -/
theorem ofBytes_bytes (text : String) :
    Document.ofBytes (Text.bytes text) = Document.ofChars text.toList := by
  have read := charsAfter_bytes text []
  rw [List.append_nil, charsAfter, List.append_nil] at read
  rw [Document.ofBytes, read]

/-! ## Bytes that belong to no character -/

theorem charsAfter_stray {byte : UInt8} {rest : List UInt8}
    (stray : firstChar? (byte :: rest) = none) (before : String) :
    charsAfter 0 (Text.bytes before ++ byte :: rest) =
      before.toList ++ strayByte ++ charsAfter 0 rest := by
  rw [charsAfter_bytes, charsAfter, stray, List.append_assoc]

/-- The code points that are read for such a byte in a string. -/
def strayPoints : List Nat := [0xfffd, 0xdc00]

/-- The half of a pair finds no other half, whatever stands around it. -/
theorem joinPoints?_eq_none {points : List Nat} (held : strayPoints <:+: points) :
    joinPoints? points = none := by
  obtain ⟨before, after, rfl⟩ := held
  -- The replacement character is no half, so neither the point before it nor the one behind it
  -- can be joined with it.
  have alone : joinPoints? (strayPoints ++ after) = none := by
    cases after <;> rfl
  have follows (point : Nat) : joinPoints? (point :: (strayPoints ++ after)) = none := by
    rw [strayPoints, List.cons_append, joinPoints?]
    split
    · rfl
    · split
      · rfl
      · exact congrArg (Option.map _) alone
  induction before using joinPoints?.induct with
  | case1 => exact alone
  | case2 point => exact follows point
  | case3 point => exact follows point
  | case4 point next rest high low ih =>
    simp only [List.cons_append, joinPoints?, high, low, if_true, ih, Option.map_none]
  | case5 point next rest high apart => simp [joinPoints?, high, apart]
  | case6 point next rest other low => simp [joinPoints?, other, low]
  | case7 point next rest other plain ih =>
    simp only [List.cons_append] at ih
    simp only [List.cons_append, joinPoints?, other, plain, Bool.false_eq_true, if_false, ih,
      Option.map_none]

theorem hexValue?_eq_none {digits : List Char} {mark : Char} (member : mark ∈ digits)
    (foreign : hexDigit? mark = none) : hexValue? digits = none := by
  obtain ⟨before, after, rfl⟩ := List.append_of_mem member
  simp [hexValue?, List.foldlM_append, foreign]

theorem readPoints?_strayByte (after : List Char) :
    readPoints? (strayByte ++ after) =
      (readPoints? after).map fun (points, rest) => (strayPoints ++ points, rest) := by
  have half : hexValue? ['d', 'c', '0', '0'] = some 0xdc00 := by decide
  cases later : readPoints? after <;> simp [strayByte, strayPoints, readPoints?, half, later]

/-- No escape reaches past such a byte. -/
theorem readPoints?_point_stray {a b c d : Char} (member : '\ufffd' ∈ [a, b, c, d])
    (rest : List Char) : readPoints? ('\\' :: 'u' :: a :: b :: c :: d :: rest) = none := by
  simp [readPoints?, hexValue?_eq_none member rfl]

/-- A string ends before such a byte, or it has the points of it. -/
theorem readPoints?_stray {before after rest : List Char} {points : List Nat}
    (read : readPoints? (before ++ strayByte ++ after) = some (points, rest)) :
    strayByte ++ after <:+ rest ∨ strayPoints <:+: points := by
  -- By the cases of the reader on the text in front. The string ends there, or the text in front
  -- of the byte gets shorter, or it runs out within an escape.
  induction before using readPoints?.induct generalizing points with
  | case1 =>
    rw [List.nil_append, readPoints?_strayByte, Option.map_eq_some_iff] at read
    obtain ⟨⟨later, _⟩, -, same⟩ := read
    obtain ⟨rfl, rfl⟩ := Prod.mk.inj same
    exact .inr (List.prefix_append strayPoints later).isInfix
  | case2 inside =>
    simp only [List.cons_append, readPoints?, Option.some.injEq, Prod.mk.injEq] at read
    rw [← read.2, List.append_assoc]
    exact .inl (List.suffix_append inside _)
  | case3 a b c d inside ih =>
    simp only [List.cons_append, readPoints?, Option.bind_eq_bind, Option.bind_eq_some_iff,
      Option.pure_def, Option.some.injEq, Prod.mk.injEq] at read
    obtain ⟨point, -, ⟨later, _⟩, inner, rfl, rfl⟩ := read
    exact (ih inner).imp_right List.infix_cons
  | case4 escape inside notPoint ih =>
    by_cases point : escape = 'u'
    · subst point
      -- Fewer than four digits are left before the byte.
      rcases inside with _ | ⟨a, _ | ⟨b, _ | ⟨c, _ | ⟨d, inside⟩⟩⟩⟩
      case cons.cons.cons.cons => exact (notPoint a b c d inside rfl rfl).elim
      all_goals
        have refused := read.symm.trans (readPoints?_point_stray (by simp) _)
        exact absurd refused (Option.some_ne_none _)
    · simp only [List.cons_append, readPoints?, point, Option.bind_eq_bind,
        Option.bind_eq_some_iff, Option.pure_def, Option.some.injEq, Prod.mk.injEq,
        false_implies, implies_true] at read
      obtain ⟨_, -, ⟨later, _⟩, inner, rfl, rfl⟩ := read
      exact (ih inner).imp_right List.infix_cons
  | case5 character inside _ _ _ control =>
    have slash : character ≠ '\\' := by
      rintro rfl
      exact absurd control (by decide)
    simp [readPoints?, slash, control] at read
  | case6 character inside notQuote _ notEscape printed ih =>
    by_cases slash : character = '\\'
    · subst slash
      cases inside with
      | nil =>
        -- The escape would have to be the replacement character.
        have foreign : simpleEscape? '\ufffd' = none := rfl
        simp [readPoints?, strayByte, foreign] at read
      | cons escape inside => exact (notEscape escape inside rfl rfl).elim
    · rw [List.cons_append, List.cons_append,
        readPoints?_plain (Nat.le_of_not_lt printed) notQuote slash] at read
      simp only [Option.map_eq_some_iff, Prod.mk.injEq] at read
      obtain ⟨⟨later, _⟩, inner, rfl, rfl⟩ := read
      exact (ih inner).imp_right List.infix_cons

/-- A string with a value ends before the first byte that belongs to no character. -/
theorem readText?_stray {before after rest : List Char} {text : String}
    (read : readText? (before ++ strayByte ++ after) = some (some text, rest)) :
    strayByte ++ after <:+ rest := by
  obtain ⟨⟨points, _⟩, inner, same⟩ := Option.map_eq_some_iff.mp read
  obtain ⟨joined, rfl⟩ := Prod.mk.inj same
  rcases readPoints?_stray inner with outside | held
  · exact outside
  · rw [joinPoints?_eq_none held] at joined
    cases joined

/-- A string in which nothing else is wrong is passed over: it has no value, and what follows
it is read on. -/
theorem readText?_passedOver (before after rest : List Char) :
    readText? (before.flatMap escaped ++ (strayByte ++ (after.flatMap escaped ++ '"' :: rest))) =
      some (none, rest) := by
  have held : strayPoints <:+: before.map Char.toNat ++ (strayPoints ++ after.map Char.toNat) :=
    ⟨before.map Char.toNat, after.map Char.toNat, List.append_assoc _ _ _⟩
  rw [readText?, readPoints?_escapedText, readPoints?_strayByte, readPoints?_append]
  simp only [Option.map_some, joinPoints?_eq_none held, Option.map_none]

theorem readValue_stray (fuel : Nat) (rest : List Char) :
    readValue fuel (strayByte ++ rest) = ⟨.broken, none⟩ := by
  cases fuel <;> rfl

end SlotFilling.Json
