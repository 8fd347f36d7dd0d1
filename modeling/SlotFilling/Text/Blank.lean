import SlotFilling.Text.Span

/-!
# Blanks, words and trimming

Blanks are the characters with the White_Space property, not only those of
ASCII. Words are the maximal runs of other characters.
-/
namespace SlotFilling.Text

/-- The code points with the White_Space property. -/
def blankSpans : List Span :=
  [⟨0x9, 0xD⟩, ⟨0x20, 0x20⟩, ⟨0x85, 0x85⟩, ⟨0xA0, 0xA0⟩, ⟨0x1680, 0x1680⟩, ⟨0x2000, 0x200A⟩,
   ⟨0x2028, 0x2029⟩, ⟨0x202F, 0x202F⟩, ⟨0x205F, 0x205F⟩, ⟨0x3000, 0x3000⟩]

def isBlank (character : Char) : Bool := inSpans blankSpans character

/-- Split at every separator; two neighbouring separators enclose an empty piece. -/
def pieces (separator : Char → Bool) : List Char → List (List Char)
  | [] => [[]]
  | character :: rest =>
    if separator character then [] :: pieces separator rest
    else match pieces separator rest with
      | [] => [[character]]
      | piece :: others => (character :: piece) :: others

/-- The words of a text: its pieces between blanks that are not empty. -/
def words (text : List Char) : List (List Char) :=
  (pieces isBlank text).filter fun piece => !piece.isEmpty

def dropTrailing (unwanted : Char → Bool) (text : List Char) : List Char :=
  (text.reverse.dropWhile unwanted).reverse

/-- A text without the blanks at its two ends. -/
def trim (text : List Char) : List Char := dropTrailing isBlank (text.dropWhile isBlank)

/-- A text with no blank at either end. -/
def Unpadded (text : List Char) : Prop :=
  (∀ character ∈ text.head?, isBlank character = false) ∧
    ∀ character ∈ text.getLast?, isBlank character = false

theorem pieces_ne_nil (separator : Char → Bool) (text : List Char) :
    pieces separator text ≠ [] := by
  cases text with
  | nil => simp [pieces]
  | cons character rest =>
    simp only [pieces]
    split
    · simp
    · split <;> simp

/-- No piece holds a separator. -/
theorem separator_of_mem_pieces (separator : Char → Bool) (text piece : List Char)
    (member : piece ∈ pieces separator text) :
    ∀ character ∈ piece, separator character = false := by
  induction text generalizing piece with
  | nil =>
    simp only [pieces, List.mem_singleton] at member
    simp [member]
  | cons first rest ih =>
    simp only [pieces] at member
    split at member
    · rcases List.mem_cons.mp member with rfl | later
      · simp
      · exact ih piece later
    next kept =>
      split at member
      next empty => exact absurd empty (pieces_ne_nil separator rest)
      next head others split_rest =>
        rcases List.mem_cons.mp member with rfl | later
        · intro character inside
          rcases List.mem_cons.mp inside with rfl | inside
          · simpa using kept
          · exact ih head (by simp [split_rest]) character inside
        · exact ih piece (by simp [split_rest, later])

end SlotFilling.Text
