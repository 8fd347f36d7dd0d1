import SlotFilling.Text.Blank
import Mathlib.Data.List.Basic
import Mathlib.Data.List.TakeWhile

/-!
# Words of joined texts

Splitting at blanks undoes joining with single spaces, as long as the words are solid: not
empty and without blanks. The other way round, a text with no blanks but single spaces
between its words is its own join.
-/
namespace SlotFilling

namespace Text

/-! ## Pieces -/

theorem pieces_eq_splitOnP (separator : Char → Bool) (text : List Char) :
    pieces separator text = text.splitOnP separator := by
  induction text with
  | nil => simp [pieces]
  | cons character rest ih =>
    rw [pieces, List.splitOnP_cons_eq_if_modifyHead, ← ih]
    split
    · rfl
    · cases split_rest : pieces separator rest with
      | nil => exact absurd split_rest (pieces_ne_nil separator rest)
      | cons => rfl

theorem pieces_congr {separator other : Char → Bool} {text : List Char}
    (agree : ∀ character ∈ text, separator character = other character) :
    pieces separator text = pieces other text := by
  induction text with
  | nil => rfl
  | cons character rest ih =>
    have later := ih (fun each member => agree each (List.mem_cons_of_mem character member))
    rw [pieces, pieces, agree character List.mem_cons_self, later]

theorem length_pieces (separator : Char → Bool) (text : List Char) :
    (pieces separator text).length = text.countP separator + 1 := by
  induction text with
  | nil => rfl
  | cons character rest ih =>
    rw [pieces_eq_splitOnP] at ih ⊢
    rw [List.splitOnP_cons_eq_if_modifyHead, List.countP_cons]
    split <;> simp [ih]

/-- Characters in front that are no separators belong to the first piece. -/
theorem pieces_append {separator : Char → Bool} {left : List Char}
    (clear : ∀ character ∈ left, separator character = false) (right : List Char) :
    pieces separator (left ++ right) = (pieces separator right).modifyHead (left ++ ·) := by
  rw [pieces_eq_splitOnP, pieces_eq_splitOnP]
  induction left with
  | nil => exact (congrFun List.modifyHead_id _).symm
  | cons character rest ih =>
    obtain ⟨here, later⟩ := List.forall_mem_cons.mp clear
    rw [List.cons_append, List.splitOnP_cons_eq_if_modifyHead, if_neg (by simp [here]), ih later,
      List.modifyHead_modifyHead]
    rfl

/-! ## Trimming -/

/-- A text without blanks has nothing to trim. -/
theorem trim_of_not_isBlank {text : List Char}
    (clear : ∀ character ∈ text, isBlank character = false) : trim text = text := by
  have whole : ∀ characters : List Char, (∀ character ∈ characters, character ∈ text) →
      characters.dropWhile isBlank = characters := by
    intro characters within
    rw [List.dropWhile_eq_self_iff]
    intro nonempty
    simp [clear _ (within _ (List.getElem_mem nonempty))]
  rw [trim, whole text (fun _ member => member), dropTrailing,
    whole text.reverse (fun _ member => List.mem_reverse.mp member), List.reverse_reverse]

/-! ## Solid words -/

/-- A word as texts are split into: not empty, and without blanks. -/
def Solid (word : List Char) : Prop :=
  word ≠ [] ∧ ∀ character ∈ word, isBlank character = false

theorem solid_of_mem_words {text word : List Char} (member : word ∈ words text) : Solid word := by
  obtain ⟨isPiece, nonempty⟩ := List.mem_filter.mp member
  exact ⟨by simpa using nonempty, separator_of_mem_pieces _ _ _ isPiece⟩

theorem pieces_intercalate {parts : List (List Char)} (solid : ∀ part ∈ parts, Solid part)
    (nonempty : parts ≠ []) : pieces isBlank ([' '].intercalate parts) = parts := by
  rw [pieces_eq_splitOnP]
  induction parts with
  | nil => exact absurd rfl nonempty
  | cons first rest ih =>
    have clear := (solid first List.mem_cons_self).2
    -- A space follows only where there is a second part.
    cases rest with
    | nil =>
      rw [List.intercalate_singleton]
      exact List.splitOnP_eq_singleton clear
    | cons second others =>
      have later := ih (fun part member => solid part (List.mem_cons_of_mem first member))
        (List.cons_ne_nil second others)
      rw [List.intercalate_cons_cons, List.append_assoc, List.singleton_append,
        List.splitOnP_append_cons_of_forall_mem clear ' ' (by decide), later]

theorem eq_space_of_mem_intercalate {parts : List (List Char)} (solid : ∀ part ∈ parts, Solid part)
    {character : Char} (member : character ∈ [' '].intercalate parts)
    (blank : isBlank character = true) : character = ' ' := by
  induction parts with
  | nil => cases member
  | cons first rest ih =>
    obtain ⟨here, later⟩ := List.forall_mem_cons.mp solid
    have outside : character ∉ first := fun inside =>
      Bool.false_ne_true ((here.2 character inside).symm.trans blank)
    cases rest with
    | nil =>
      rw [List.intercalate_singleton] at member
      exact absurd member outside
    | cons second others =>
      rw [List.intercalate_cons_cons, List.mem_append, List.mem_append, List.mem_singleton]
        at member
      rcases member with (inside | space) | after
      · exact absurd inside outside
      · exact space
      · exact ih later after

theorem words_intercalate {parts : List (List Char)} (solid : ∀ part ∈ parts, Solid part) :
    words ([' '].intercalate parts) = parts := by
  cases parts with
  | nil => rfl
  | cons first rest =>
    rw [words, pieces_intercalate solid (List.cons_ne_nil first rest), List.filter_eq_self]
    exact fun part member => by simpa using (solid part member).1

/-- A blank ends a word, so what comes before it and after it are split apart. -/
theorem words_append_cons {blank : Char} (isBlank_blank : isBlank blank = true)
    (left right : List Char) : words (left ++ blank :: right) = words left ++ words right := by
  simp only [words, pieces_eq_splitOnP]
  rw [List.splitOnP_append_cons left right isBlank_blank, List.filter_append]

theorem words_append_of_isBlank {blanks : List Char}
    (clear : ∀ character ∈ blanks, isBlank character = true) (right : List Char) :
    words (blanks ++ right) = words right := by
  induction blanks with
  | nil => rfl
  | cons blank rest ih =>
    obtain ⟨here, later⟩ := List.forall_mem_cons.mp clear
    rw [List.cons_append, ← List.nil_append (blank :: _), words_append_cons here, ih later]
    rfl

/-- A text with no blanks but single spaces between its words is the join of its words. -/
theorem intercalate_words {text : List Char}
    (spaced : ∀ character ∈ text, isBlank character = true → character = ' ')
    (filled : ∀ piece ∈ pieces isBlank text, piece ≠ []) :
    [' '].intercalate (words text) = text := by
  have whole : words text = pieces isBlank text := by
    rw [words, List.filter_eq_self]
    exact fun piece member => by simpa using filled piece member
  -- All blanks are spaces, so the text is cut at the same places.
  have atSpaces : pieces isBlank text = pieces (· == ' ') text := by
    apply pieces_congr
    intro character member
    by_cases blank : isBlank character = true
    · rw [spaced character member blank]
      decide
    · have other : character ≠ ' ' := by
        rintro rfl
        exact blank (by decide)
      rw [eq_false_of_ne_true blank, beq_false_of_ne other]
  rw [whole, atSpaces, pieces_eq_splitOnP, ← List.splitOn_eq_splitOnP, List.intercalate_splitOn]

/-! ## Joins -/

theorem mem_intercalate {separator piece : List Char} {pieces : List (List Char)}
    {character : Char} (member : piece ∈ pieces) (inside : character ∈ piece) :
    character ∈ separator.intercalate pieces := by
  induction pieces with
  | nil => cases member
  | cons first rest ih =>
    cases rest with
    | nil =>
      rw [List.mem_singleton] at member
      simpa [← member] using inside
    | cons second others =>
      rw [List.intercalate_cons_cons, List.mem_append]
      rcases List.mem_cons.mp member with rfl | later
      · exact .inl (List.mem_append_left separator inside)
      · exact .inr (ih later)

theorem intercalate_append {left right : List (List Char)} (leftNonempty : left ≠ [])
    (rightNonempty : right ≠ []) :
    [' '].intercalate (left ++ right) =
      [' '].intercalate left ++ ' ' :: [' '].intercalate right := by
  obtain ⟨second, others, rfl⟩ := List.exists_cons_of_ne_nil rightNonempty
  induction left with
  | nil => exact absurd rfl leftNonempty
  | cons first rest ih =>
    cases rest with
    | nil => simp [List.intercalate_cons_cons]
    | cons next more =>
      have later := ih (List.cons_ne_nil next more)
      rw [List.cons_append, List.cons_append, List.intercalate_cons_cons, ← List.cons_append, later,
        List.intercalate_cons_cons]
      simp only [List.append_assoc]

theorem intercalate_flatten {groups : List (List (List Char))}
    (filled : ∀ group ∈ groups, group ≠ []) :
    [' '].intercalate (groups.map [' '].intercalate) = [' '].intercalate groups.flatten := by
  induction groups with
  | nil => rfl
  | cons group rest ih =>
    obtain ⟨here, later⟩ := List.forall_mem_cons.mp filled
    cases rest with
    | nil => simp
    | cons second others =>
      have nonempty : (second :: others).flatten ≠ [] := by
        rw [List.flatten_cons]
        exact List.append_ne_nil_of_left_ne_nil (later second List.mem_cons_self) _
      rw [List.flatten_cons, intercalate_append here nonempty, ← ih later, List.map_cons,
        List.map_cons, List.intercalate_cons_cons]
      simp

/-- Between the words there is one space fewer than there are words. -/
theorem count_intercalate {parts : List (List Char)} (nonempty : parts ≠ []) :
    ([' '].intercalate parts).count ' ' + 1 = parts.length + parts.flatten.count ' ' := by
  induction parts with
  | nil => exact absurd rfl nonempty
  | cons first rest ih =>
    cases rest with
    | nil => simp [Nat.add_comm]
    | cons second others =>
      have later := ih (List.cons_ne_nil second others)
      rw [List.intercalate_cons_cons, List.count_append, List.count_append, List.flatten_cons,
        List.count_append, List.count_singleton_self, List.length_cons]
      omega

end Text

end SlotFilling
