import SlotFilling.Proofs.Pattern.ValueKind
import SlotFilling.Proofs.Text.Words

/-!
# What lower case changes

A text is lowercased character by character. Only capitals change, and only small letters
come in for them, so blanks and punctuation stay where they are and the words of a text keep
their places. No small letter is a capital of another, so lower case is its own lower case.
-/
namespace SlotFilling.Text

/-! ## Small letters -/

/-- The last of the small letters that a row of capitals has. -/
def Capitals.smallOfLast (row : Capitals) : Nat :=
  row.smallOfFirst + (row.strides.last - row.strides.first)

theorem smallPoint_cases (point : Nat) :
    smallPoint point = point ∨ (0x41 ≤ point ∧ point ≤ 0x5A ∧ smallPoint point = point + 0x20) ∨
      ∃ row ∈ capitals, row.strides.contains point = true ∧
        smallPoint point = row.smallOfFirst + (point - row.strides.first) := by
  unfold smallPoint
  split
  · split
    next capital => exact .inr (.inl ⟨capital.1, capital.2, rfl⟩)
    next => exact .inl rfl
  · split
    next row found =>
      have within := List.find?_some found
      exact .inr (.inr ⟨row, List.mem_of_find?_eq_some found, within, rfl⟩)
    next => exact .inl rfl

/-- Between the surrogates and the end of the code space, small letters keep to characters. -/
theorem smallOfFirst_valid : ∀ row ∈ capitals, row.smallOfLast < 0xD800 ∨
    0xDFFF < row.smallOfFirst ∧ row.smallOfLast < 0x110000 := by
  decide +kernel

theorem toNat_ofNat_smallPoint (character : Char) :
    (Char.ofNat (smallPoint character.toNat)).toNat = smallPoint character.toNat := by
  rcases smallPoint_cases character.toNat with
    same | ⟨_, upper, shifted⟩ | ⟨row, isRow, within, found⟩
  · rw [same, Char.ofNat_toNat]
  · rw [shifted, Char.toNat_ofNat, if_pos (.inl (by omega))]
  · rw [Stride.contains_iff] at within
    have range := smallOfFirst_valid row isRow
    simp only [Capitals.smallOfLast] at range
    rw [found, Char.toNat_ofNat, if_pos]
    simp only [Nat.isValidChar]
    omega

/-- Where small letters of the table meet capitals of the table, these stand at every other code
point and the small letters between them. Comparisons are Boolean here because the kernel makes
one for every pair of rows. -/
theorem smallOfFirst_settled : (capitals.all fun row => capitals.all fun other =>
    Nat.blt row.smallOfLast other.strides.first || Nat.blt other.strides.last row.smallOfFirst ||
      Nat.beq other.strides.step 2 && Nat.beq ((row.smallOfFirst + other.strides.first) % 2) 1 &&
        (Nat.beq row.strides.step 2 || Nat.beq row.strides.first row.strides.last)) = true := by
  decide +kernel

theorem smallPoint_smallPoint (point : Nat) : smallPoint (smallPoint point) = smallPoint point := by
  rcases smallPoint_cases point with same | ⟨lower, upper, shifted⟩ | ⟨row, isRow, within, found⟩
  · rw [same, same]
  · have each : ∀ point < 0x80, smallPoint (smallPoint point) = smallPoint point := by
      decide +kernel
    exact each point (by omega)
  · rw [Stride.contains_iff] at within
    rcases smallPoint_cases (smallPoint point) with
      same | ⟨lower, upper, _⟩ | ⟨other, isOther, meets, _⟩
    · exact same
    · -- No small letter of the table is a capital of ASCII.
      have beyond := small_of_mem_capitals row isRow
      have letter : 'k'.toNat = 0x6B := by decide
      omega
    · rw [Stride.contains_iff] at meets
      have apart := List.all_eq_true.mp (List.all_eq_true.mp smallOfFirst_settled row isRow) other
        isOther
      simp only [Capitals.smallOfLast, Bool.or_eq_true, Bool.and_eq_true, Nat.blt_eq, Nat.beq_eq]
        at apart
      rcases apart with (before | after) | ⟨⟨step, odd⟩, even⟩
      · omega
      · omega
      · -- The small letter lies at an odd distance from the first capital, an even step away.
        rw [step] at meets
        rcases even with two | single
        · rw [two] at within
          omega
        · omega

/-! ## Capitals and small letters as spans -/

/-- Spans that hold every character which lowercasing changes. -/
def capitalSpans : List Span :=
  [⟨0x41, 0x5A⟩, ⟨0x130, 0x130⟩] ++ capitals.map fun row => ⟨row.strides.first, row.strides.last⟩

/-- Spans that hold every character which lowercasing brings in. Besides the small letters of
ASCII and of the table these are a combining dot and the two forms of a small sigma. -/
def smallSpans : List Span :=
  [⟨0x61, 0x7A⟩, ⟨0x307, 0x307⟩, ⟨0x3C2, 0x3C3⟩] ++
    capitals.map fun row => ⟨row.smallOfFirst, row.smallOfLast⟩

theorem smallForm_of_not_capital {character : Char}
    (plain : inSpans capitalSpans character = false) (before after : List Char) :
    smallForm before character after = [character] := by
  have capitals : inSpans capitalSpans '\u0130' = true ∧ inSpans capitalSpans '\u03A3' = true := by
    decide +kernel
  have notDotted : character ≠ '\u0130' := by
    rintro rfl
    exact absurd capitals.1 (Bool.eq_false_iff.mp plain)
  have notSigma : character ≠ '\u03A3' := by
    rintro rfl
    exact absurd capitals.2 (Bool.eq_false_iff.mp plain)
  rw [Bool.eq_false_iff, ne_eq, inSpans_iff] at plain
  have unchanged : smallPoint character.toNat = character.toNat := by
    rcases smallPoint_cases character.toNat with same | ⟨lower, upper, _⟩ | ⟨row, isRow, within, _⟩
    · exact same
    · exact absurd ⟨⟨0x41, 0x5A⟩, by simp [capitalSpans], lower, upper⟩ plain
    · rw [Stride.contains_iff] at within
      have inTable : (⟨row.strides.first, row.strides.last⟩ : Span) ∈ capitalSpans :=
        List.mem_append_right _ (List.mem_map_of_mem isRow)
      exact absurd ⟨_, inTable, within.1, within.2.1⟩ plain
  rw [smallForm, if_neg notDotted, if_neg notSigma, unchanged, Char.ofNat_toNat]

/-- Two capitals have small forms beyond the table. -/
theorem mem_smallForm_cases {before after : List Char} {character small : Char}
    (member : small ∈ smallForm before character after) :
    (small = 'i' ∨ small = '\u0307' ∨ small = '\u03C2' ∨ small = '\u03C3') ∨
      character ≠ '\u0130' ∧ small = Char.ofNat (smallPoint character.toNat) := by
  unfold smallForm at member
  split at member
  · simp only [List.mem_pair] at member
    exact .inl (member.imp id .inl)
  next notDotted =>
    split at member
    · split at member
      · exact .inl (.inr (.inr (.inl (List.mem_singleton.mp member))))
      · exact .inl (.inr (.inr (.inr (List.mem_singleton.mp member))))
    · exact .inr ⟨notDotted, List.mem_singleton.mp member⟩

theorem mem_smallForm {before after : List Char} {character small : Char}
    (member : small ∈ smallForm before character after) :
    small = character ∨ inSpans smallSpans small = true := by
  rcases mem_smallForm_cases member with special | ⟨_, ofTable⟩
  · have listed : ['i', '\u0307', '\u03C2', '\u03C3'].all (inSpans smallSpans) = true := by
      decide +kernel
    exact .inr (List.all_eq_true.mp listed small (by simpa using special))
  · have point := toNat_ofNat_smallPoint character
    rw [← ofTable] at point
    rw [inSpans_iff]
    rcases smallPoint_cases character.toNat with
      same | ⟨lower, upper, shifted⟩ | ⟨row, isRow, within, found⟩
    · exact .inl (Char.toNat_inj.mp (point.trans same))
    · refine .inr ⟨⟨0x61, 0x7A⟩, by simp [smallSpans], ?_⟩
      dsimp only
      omega
    · rw [Stride.contains_iff] at within
      refine .inr ⟨_, List.mem_append_right _ (List.mem_map_of_mem isRow), ?_⟩
      simp only [Capitals.smallOfLast]
      omega

/-- No character that lowercasing brings in is changed by it again. -/
theorem smallForm_of_mem_smallForm {before after : List Char} {character small : Char}
    (member : small ∈ smallForm before character after) (front back : List Char) :
    smallForm front small back = [small] := by
  rcases mem_smallForm_cases member with special | ⟨notDotted, ofTable⟩
  · have plain : ['i', '\u0307', '\u03C2', '\u03C3'].all (!inSpans capitalSpans ·) = true := by
      decide +kernel
    have here := List.all_eq_true.mp plain small (by simpa using special)
    exact smallForm_of_not_capital (by simpa using here) front back
  · have point := toNat_ofNat_smallPoint character
    rw [← ofTable] at point
    have settled : smallPoint small.toNat = small.toNat := by rw [point, smallPoint_smallPoint]
    have smallNotDotted : small ≠ '\u0130' := by
      rintro rfl
      rcases mem_smallForm member with same | isSmall
      · exact notDotted same.symm
      · exact absurd isSmall (by decide +kernel)
    have notSigma : small ≠ '\u03A3' := by
      rintro rfl
      exact absurd settled (by decide +kernel)
    rw [smallForm, if_neg smallNotDotted, if_neg notSigma, settled, Char.ofNat_toNat]

/-! ## Caseless characters -/

def Apart (left right : List Span) : Prop :=
  ∀ first ∈ left, ∀ second ∈ right, first.last < second.first ∨ second.last < first.first

instance (left right : List Span) : Decidable (Apart left right) :=
  inferInstanceAs (Decidable (∀ first ∈ left, ∀ second ∈ right,
    first.last < second.first ∨ second.last < first.first))

theorem Apart.not_inSpans {left right : List Span} (apart : Apart left right) {character : Char}
    (inside : inSpans left character = true) : inSpans right character = false := by
  rw [Bool.eq_false_iff, ne_eq, inSpans_iff]
  rintro ⟨second, isSecond, lower, upper⟩
  obtain ⟨first, isFirst, above, below⟩ := (inSpans_iff _ _).mp inside
  rcases apart first isFirst second isSecond with before | after <;> omega

/-- Spans without capitals and without small letters. -/
structure Caseless (spans : List Span) : Prop where
  capitals : Apart spans capitalSpans
  smalls : Apart spans smallSpans

theorem caseless_blankSpans : Caseless blankSpans :=
  ⟨by decide +kernel, by decide +kernel⟩

section

variable {spans : List Span} (caseless : Caseless spans) {before after : List Char}
  {character small : Char}

include caseless

theorem Caseless.smallForm_eq (inside : inSpans spans character = true)
    (before after : List Char) : smallForm before character after = [character] :=
  smallForm_of_not_capital (caseless.capitals.not_inSpans inside) before after

/-- A caseless character in a small form is all there was. -/
theorem Caseless.eq_of_mem_smallForm (member : small ∈ smallForm before character after)
    (inside : inSpans spans small = true) : small = character := by
  rcases mem_smallForm member with same | isSmall
  · exact same
  · rw [caseless.smalls.not_inSpans inside] at isSmall
    cases isSmall

end

/-! ## Texts in lower case -/

/-- A text and, character by character, small forms of it. -/
inductive Lowered : List Char → List Char → Prop
  | nil : Lowered [] []
  | cons {before after text lowered : List Char} {character : Char} : Lowered text lowered →
      Lowered (character :: text) (smallForm before character after ++ lowered)

theorem lowered_lowerAfter (before text : List Char) : Lowered text (lowerAfter before text) := by
  induction text generalizing before with
  | nil => exact .nil
  | cons character after ih => exact .cons (ih (character :: before))

theorem lowerAfter_eq_self {text : List Char} (before : List Char)
    (settled : ∀ character ∈ text, ∀ front back, smallForm front character back = [character]) :
    lowerAfter before text = text := by
  induction text generalizing before with
  | nil => rfl
  | cons character after ih =>
    have later := ih (character :: before)
      (fun each member => settled each (List.mem_cons_of_mem character member))
    rw [lowerAfter, settled character List.mem_cons_self, later, List.singleton_append]

namespace Lowered

variable {text lowered : List Char}

theorem exists_of_mem (isLowered : Lowered text lowered) {small : Char} (member : small ∈ lowered) :
    ∃ character ∈ text, ∃ before after, small ∈ smallForm before character after := by
  induction isLowered with
  | nil => cases member
  | @cons before after _ _ character _ ih =>
    rcases List.mem_append.mp member with here | later
    · exact ⟨character, List.mem_cons_self, before, after, here⟩
    · obtain ⟨other, isOther, found⟩ := ih later
      exact ⟨other, List.mem_cons_of_mem character isOther, found⟩

theorem eq_nil_iff (isLowered : Lowered text lowered) : lowered = [] ↔ text = [] := by
  cases isLowered with
  | nil => simp
  | cons => simp [smallForm_ne_nil]

/-- Blanks are caseless, so the words of a text are lowercased one by one. -/
theorem pieces (isLowered : Lowered text lowered) :
    List.Forall₂ Lowered (Text.pieces isBlank text) (Text.pieces isBlank lowered) := by
  induction isLowered with
  | nil => exact .cons .nil .nil
  | @cons before after text lowered character rest ih =>
    -- A blank cuts both texts. Any other character makes the first pieces longer.
    by_cases blank : isBlank character = true
    · rw [caseless_blankSpans.smallForm_eq blank, List.singleton_append, Text.pieces, Text.pieces,
        if_pos blank, if_pos blank]
      exact .cons .nil ih
    · have clear : ∀ small ∈ smallForm before character after, isBlank small = false := by
        intro small member
        refine Bool.eq_false_iff.mpr (fun isBlank => blank ?_)
        exact caseless_blankSpans.eq_of_mem_smallForm member isBlank ▸ isBlank
      have alone : ∀ each ∈ [character], isBlank each = false := by simpa using blank
      rw [pieces_append clear, ← List.singleton_append, pieces_append alone]
      generalize Text.pieces isBlank text = whole at ih
      generalize Text.pieces isBlank lowered = small at ih
      cases ih with
      | nil => exact .nil
      | cons first others => exact .cons (.cons first) others

theorem words (isLowered : Lowered text lowered) :
    List.Forall₂ Lowered (Text.words text) (Text.words lowered) := by
  have related := isLowered.pieces
  unfold Text.words
  generalize Text.pieces isBlank text = whole at related
  generalize Text.pieces isBlank lowered = small at related
  induction related with
  | nil => exact .nil
  | @cons piece small _ _ here _ ih =>
    by_cases empty : piece = []
    · rw [List.filter_cons_of_neg (by simp [empty]),
        List.filter_cons_of_neg (by simp [here.eq_nil_iff.mpr empty])]
      exact ih
    · have smallNonempty : small ≠ [] := fun nothing => empty (here.eq_nil_iff.mp nothing)
      rw [List.filter_cons_of_pos (by simp [empty]),
        List.filter_cons_of_pos (by simp [smallNonempty])]
      exact .cons here ih

theorem exists_of_mem_getLast? (isLowered : Lowered text lowered) {small : Char}
    (last : small ∈ lowered.getLast?) :
    ∃ character ∈ text.getLast?, ∃ before after, small ∈ smallForm before character after := by
  induction isLowered with
  | nil => cases last
  | @cons before after text lowered character rest ih =>
    -- Small forms are not empty, so the two texts end at the same character.
    cases lowered with
    | nil =>
      rw [rest.eq_nil_iff.mp rfl]
      rw [List.append_nil] at last
      exact ⟨character, rfl, before, after, List.mem_of_getLast? last⟩
    | cons next others =>
      have nonempty : text ≠ [] := by
        rintro rfl
        cases rest
      rw [List.getLast?_append_of_ne_nil _ (List.cons_ne_nil next others)] at last
      obtain ⟨other, isLast, found⟩ := ih last
      refine ⟨other, ?_, found⟩
      rwa [← List.singleton_append, List.getLast?_append_of_ne_nil _ nonempty]

theorem count_space (isLowered : Lowered text lowered) : lowered.count ' ' = text.count ' ' := by
  induction isLowered with
  | nil => rfl
  | @cons before after _ _ character _ ih =>
    rw [List.count_append, List.count_cons, ih, Nat.add_comm]
    congr 1
    by_cases space : character = ' '
    · rw [space, caseless_blankSpans.smallForm_eq (by decide)]
      rfl
    · -- A space is caseless, so no other character has one in its small form.
      rw [if_neg (by simpa using space), List.count_eq_zero]
      intro inside
      exact space (caseless_blankSpans.eq_of_mem_smallForm inside (by decide)).symm

end Lowered

theorem exists_lowered_of_mem {texts lowered : List (List Char)}
    (related : List.Forall₂ Lowered texts lowered) {small : List Char} (member : small ∈ lowered) :
    ∃ text ∈ texts, Lowered text small := by
  induction related with
  | nil => cases member
  | @cons text _ _ _ here _ ih =>
    rcases List.mem_cons.mp member with rfl | later
    · exact ⟨text, List.mem_cons_self, here⟩
    · obtain ⟨other, isText, found⟩ := ih later
      exact ⟨other, List.mem_cons_of_mem text isText, found⟩

theorem lower_lower (text : String) : lower (lower text) = lower text := by
  rw [lower, lower, String.toList_ofList, lowerChars, lowerChars, lowerAfter_eq_self]
  intro small member
  obtain ⟨_, _, _, _, inside⟩ := (lowered_lowerAfter [] text.toList).exists_of_mem member
  exact smallForm_of_mem_smallForm inside

end SlotFilling.Text
