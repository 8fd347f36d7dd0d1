import Mathlib.Computability.Language

/-!
# Languages made from classes of characters

A class of characters gives the language of its one-character texts, and from such languages
patterns are put together. Repeating a class any number of times gives the texts that have no
other characters.
-/
namespace SlotFilling.Text

open scoped Computability

/-- The texts of one character of a class. -/
def oneOf (members : Set Char) : Language Char := {text | ∃ character ∈ members, text = [character]}

/-- One or more texts of a language in a row. -/
def many (language : Language Char) : Language Char := language * language∗

/-- One or more characters of a class in a row. -/
def IsRow (members : Set Char) (text : List Char) : Prop :=
  text ≠ [] ∧ ∀ character ∈ text, character ∈ members

variable {members : Set Char} {language before after : Language Char} {text : List Char}

theorem mem_oneOf_mul_iff :
    text ∈ oneOf members * language ↔
      ∃ first later, text = first :: later ∧ first ∈ members ∧ later ∈ language := by
  rw [Language.mem_mul]
  constructor
  · rintro ⟨_, ⟨first, isMember, rfl⟩, later, inside, rfl⟩
    exact ⟨first, later, rfl, isMember, inside⟩
  · rintro ⟨first, later, rfl, isMember, inside⟩
    exact ⟨[first], ⟨first, isMember, rfl⟩, later, inside, rfl⟩

theorem mem_kstar_oneOf_iff :
    text ∈ (oneOf members)∗ ↔ ∀ character ∈ text, character ∈ members := by
  rw [Language.mem_kstar]
  constructor
  · rintro ⟨pieces, rfl, single⟩ character inside
    obtain ⟨piece, isPiece, within⟩ := List.mem_flatten.mp inside
    obtain ⟨only, isMember, rfl⟩ := single piece isPiece
    rwa [List.mem_singleton.mp within]
  · intro allowed
    refine ⟨text.map fun character => [character], ?_, ?_⟩
    · rw [← List.flatMap_def, List.flatMap_singleton']
    · intro piece isPiece
      obtain ⟨character, inside, rfl⟩ := List.mem_map.mp isPiece
      exact ⟨character, allowed character inside, rfl⟩

theorem mem_many_oneOf_iff : text ∈ many (oneOf members) ↔ IsRow members text := by
  simp only [many, mem_oneOf_mul_iff, mem_kstar_oneOf_iff]
  constructor
  · rintro ⟨first, later, rfl, isMember, allowed⟩
    exact ⟨List.cons_ne_nil first later, List.forall_mem_cons.mpr ⟨isMember, allowed⟩⟩
  · rintro ⟨nonempty, allowed⟩
    obtain ⟨first, later, rfl⟩ := List.exists_cons_of_ne_nil nonempty
    exact ⟨first, later, rfl, List.forall_mem_cons.mp allowed⟩

theorem mem_oneOf_mul_many_iff :
    text ∈ oneOf members * many (oneOf members) ↔
      2 ≤ text.length ∧ ∀ character ∈ text, character ∈ members := by
  simp only [mem_oneOf_mul_iff, mem_many_oneOf_iff]
  constructor
  · rintro ⟨first, later, rfl, isMember, nonempty, allowed⟩
    have more := List.length_pos_iff.mpr nonempty
    exact ⟨by rw [List.length_cons]; omega, List.forall_mem_cons.mpr ⟨isMember, allowed⟩⟩
  · rintro ⟨several, allowed⟩
    obtain ⟨first, later, rfl⟩ := List.exists_cons_of_length_pos (by omega : 0 < text.length)
    obtain ⟨isMember, others⟩ := List.forall_mem_cons.mp allowed
    rw [List.length_cons] at several
    have more : later ≠ [] := List.length_pos_iff.mp (by omega)
    exact ⟨first, later, rfl, isMember, more, others⟩

theorem mem_mul_mark_iff {mark : Char} :
    text ∈ before * (oneOf {mark} * after) ↔
      ∃ left right, text = left ++ mark :: right ∧ left ∈ before ∧ right ∈ after := by
  simp only [Language.mem_mul (l := before), mem_oneOf_mul_iff]
  constructor
  · rintro ⟨left, inBefore, _, ⟨_, right, rfl, rfl, inAfter⟩, rfl⟩
    exact ⟨left, right, rfl, inBefore, inAfter⟩
  · rintro ⟨left, right, rfl, inBefore, inAfter⟩
    exact ⟨left, inBefore, _, ⟨mark, right, rfl, rfl, inAfter⟩, rfl⟩

theorem IsRow.not_mem {mark : Char} (row : IsRow members text) (foreign : mark ∉ members) :
    mark ∉ text :=
  fun inside => foreign (row.2 mark inside)

end SlotFilling.Text
