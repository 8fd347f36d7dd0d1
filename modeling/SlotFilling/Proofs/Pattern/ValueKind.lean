import Mathlib
import SlotFilling.Pattern.Basic

/-!
# Names of value kinds in any letter case

A token is asked for a category with the 26 letters of ASCII in either case, while the kind
of its value comes from the category in full lower case. Two characters outside ASCII have
small forms that start with a letter of ASCII, but neither letter occurs in a name of a
kind. So the two ways of ignoring case agree on which categories ask for numbers and which
ask for dates.
-/
namespace SlotFilling

namespace Text

/-- A small letter of ASCII that starts no small form of a character outside ASCII. The
Kelvin sign has the small form k, and a capital I with a dot above has i and a dot. -/
def isPlainSmall (letter : Char) : Bool :=
  letter.isLower && letter != 'i' && letter != 'k'

theorem isPlainSmall_bounds {letter : Char} (plain : isPlainSmall letter = true) :
    0x61 ≤ letter.toNat ∧ letter.toNat ≤ 0x7A ∧ letter ≠ 'i' ∧ letter ≠ 'k' := by
  simp only [isPlainSmall, Char.isLower, Bool.and_eq_true, decide_eq_true_eq, bne_iff_ne] at plain
  obtain ⟨⟨⟨lower, upper⟩, notI⟩, notK⟩ := plain
  exact ⟨lower, upper, notI, notK⟩

theorem toLower_of_plain {letter : Char} (plain : isPlainSmall letter = true) :
    letter.toLower = letter := by
  simp only [isPlainSmall, Bool.and_eq_true] at plain
  exact Char.toLower_eq_of_not_isUpper (Char.not_isUpper_of_isLower plain.1.1)

theorem toLower_of_beyond {character : Char} (beyond : 0x80 ≤ character.toNat) :
    character.toLower = character := by
  apply Char.toLower_eq_of_not_isUpper
  simp only [Char.isUpper, decide_eq_true_eq, not_and]
  intro _ upper
  have small : character.toNat ≤ 0x5A := upper
  omega

theorem small_of_mem_capitals : ∀ row ∈ capitals, 0x80 ≤ row.smallOfFirst ∨
    row.smallOfFirst = 'k'.toNat ∧ row.strides.first = row.strides.last := by
  decide +kernel

theorem smallPoint_of_beyond {point : Nat} (beyond : 0x80 ≤ point) :
    0x80 ≤ smallPoint point ∨ smallPoint point = 'k'.toNat := by
  unfold smallPoint
  rw [if_neg (Nat.not_lt.mpr beyond)]
  split
  next row found =>
    have within := List.find?_some found
    rw [Stride.contains_iff] at within
    rcases small_of_mem_capitals row (List.mem_of_find?_eq_some found) with large | ⟨small, single⟩
    · left
      omega
    · right
      omega
  next => exact .inl beyond

theorem ofNat_smallPoint_of_ascii {character : Char} (ascii : character.toNat < 0x80) :
    Char.ofNat (smallPoint character.toNat) = character.toLower := by
  have each : ∀ point < 0x80,
      Char.ofNat (smallPoint (Char.ofNat point).toNat) = (Char.ofNat point).toLower := by
    decide +kernel
  have here := each character.toNat ascii
  rwa [Char.ofNat_toNat] at here

theorem ofNat_ne_of_plain {point : Nat} {letter : Char} (plain : isPlainSmall letter = true)
    (beyond : 0x80 ≤ point ∨ point = 'k'.toNat) : Char.ofNat point ≠ letter := by
  obtain ⟨lower, upper, _, notK⟩ := isPlainSmall_bounds plain
  rintro rfl
  rcases beyond with large | rfl
  · rw [Char.toNat_ofNat] at lower upper
    by_cases valid : point.isValidChar
    · rw [if_pos valid] at upper
      omega
    · rw [if_neg valid] at lower
      omega
  · exact notK rfl

/-- A plain letter starts the small form of a character only if it is the whole of it. -/
theorem smallForm_append_eq_cons_iff {letter : Char} (plain : isPlainSmall letter = true)
    (before : List Char) (character : Char) (after rest target : List Char) :
    smallForm before character after ++ rest = letter :: target ↔
      character.toLower = letter ∧ rest = target := by
  obtain ⟨_, upper, notI, _⟩ := isPlainSmall_bounds plain
  by_cases ascii : character.toNat < 0x80
  · have notDotted : character ≠ '\u0130' := by
      rintro rfl
      exact absurd ascii (by decide)
    have notSigma : character ≠ '\u03A3' := by
      rintro rfl
      exact absurd ascii (by decide)
    rw [smallForm, if_neg notDotted, if_neg notSigma, ofNat_smallPoint_of_ascii ascii,
      List.singleton_append, List.cons.injEq]
  · have beyond : 0x80 ≤ character.toNat := Nat.le_of_not_lt ascii
    -- Outside ASCII neither side can hold: the first letter of every small form differs.
    have unlike : character.toLower ≠ letter := by
      rw [toLower_of_beyond beyond]
      rintro rfl
      omega
    refine iff_of_false (fun same => ?_) (fun same => unlike same.1)
    unfold smallForm at same
    split at same
    · exact notI (List.cons.inj same).1.symm
    · split at same
      · -- Both forms of a small sigma lie outside ASCII.
        split at same <;>
          exact absurd ((List.cons.inj same).1 ▸ upper) (by decide)
      · exact ofNat_ne_of_plain plain (smallPoint_of_beyond beyond) (List.cons.inj same).1

theorem smallForm_ne_nil (before : List Char) (character : Char) (after : List Char) :
    smallForm before character after ≠ [] := by
  unfold smallForm
  split
  · exact List.cons_ne_nil _ _
  · split
    · split <;> exact List.cons_ne_nil _ _
    · exact List.cons_ne_nil _ _

theorem lowerAfter_eq_iff {target : List Char}
    (plain : ∀ letter ∈ target, isPlainSmall letter = true) (before text : List Char) :
    lowerAfter before text = target ↔ text.map Char.toLower = target := by
  -- What comes before and after a character matters for sigma alone, and no target holds one.
  induction text generalizing before target with
  | nil => rfl
  | cons character after ih =>
    cases target with
    | nil => simp [lowerAfter, smallForm_ne_nil]
    | cons letter rest =>
      have here := plain letter List.mem_cons_self
      have later : ∀ other ∈ rest, isPlainSmall other = true :=
        fun other member => plain other (List.mem_cons_of_mem letter member)
      rw [lowerAfter, smallForm_append_eq_cons_iff here, ih later, List.map_cons, List.cons.injEq]

/-- Full lower case finds a name of plain letters exactly where ASCII case does. -/
theorem lower_eq_iff {name : String} (plain : ∀ letter ∈ name.toList, isPlainSmall letter = true)
    (text : String) : lower text = name ↔ sameIgnoringCase text name = true := by
  have lowered : name.toList.map Char.toLower = name.toList := by
    conv_rhs => rw [← List.map_id name.toList]
    exact List.map_congr_left (fun letter member => toLower_of_plain (plain letter member))
  rw [sameIgnoringCase, beq_iff_eq, lowered, ← lowerAfter_eq_iff plain [], ← String.toList_inj,
    lower, String.toList_ofList, lowerChars]

end Text

theorem valueKind_eq_number_iff (category : String) :
    valueKind category = .number ↔ Text.sameIgnoringCase category "number" = true := by
  rw [← Text.lower_eq_iff (by simp [Text.isPlainSmall, Char.isLower])]
  simp only [valueKind]
  split
  next number => simp [number]
  next other => split <;> simp [other]

theorem valueKind_eq_date_iff (category : String) :
    valueKind category = .date ↔ Text.sameIgnoringCase category "date" = true := by
  rw [← Text.lower_eq_iff (by simp [Text.isPlainSmall, Char.isLower])]
  simp only [valueKind]
  split
  next number => simp [number]
  next => split <;> simp_all

theorem valueKind_congr {left right : String} (same : Text.sameIgnoringCase left right = true) :
    valueKind left = valueKind right := by
  have agree : ∀ name : String,
      Text.sameIgnoringCase left name = true ↔ Text.sameIgnoringCase right name = true := by
    intro name
    have reversed := (Text.sameIgnoringCase_comm right left).trans same
    exact ⟨Text.sameIgnoringCase_trans reversed, Text.sameIgnoringCase_trans same⟩
  have number : valueKind left = .number ↔ valueKind right = .number := by
    rw [valueKind_eq_number_iff, valueKind_eq_number_iff, agree]
  have date : valueKind left = .date ↔ valueKind right = .date := by
    rw [valueKind_eq_date_iff, valueKind_eq_date_iff, agree]
  cases kind : valueKind right with
  | number => exact number.mpr kind
  | date => exact date.mpr kind
  | text =>
    rw [kind] at number date
    cases other : valueKind left with
    | number => exact absurd (number.mp other) (by decide)
    | date => exact absurd (date.mp other) (by decide)
    | text => rfl

end SlotFilling
