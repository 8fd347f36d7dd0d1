import SlotFilling.Calendar.Month
import SlotFilling.Tagger.WordClass
import Mathlib.Data.List.TakeWhile

/-!
# How days and months are written

A day is written in one or two ASCII digits, alone or as an ordinal, and a month as its name
or the first three letters of it. No word is written for two months, so the first month of
the list that a word names is the only one.
-/
namespace SlotFilling

/-! ## Days -/

/-- One or two ASCII digits with that value, and possibly the ending of an ordinal. -/
def SpellsDay (word : String) (day : Nat) : Prop :=
  ∃ digits : List Char, ∃ ending ∈ ["", "st", "nd", "rd", "th"],
    word.toList = digits ++ ending.toList ∧ (digits.length = 1 ∨ digits.length = 2) ∧
      (∀ digit ∈ digits, digit.isDigit = true) ∧ day = digitsValue digits

theorem mem_ordinalEndings_iff {text : List Char} :
    text ∈ ordinalEndings ↔ ∃ ending ∈ ["", "st", "nd", "rd", "th"], ending.toList = text := by
  have listed : ordinalEndings = ["", "st", "nd", "rd", "th"].map String.toList := by
    decide +kernel
  rw [listed, List.mem_map]

theorem dayNumber?_eq_some_iff {word : String} {day : Nat} :
    dayNumber? word = some day ↔ SpellsDay word day := by
  simp only [dayNumber?, Option.ite_none_right_eq_some, Option.some.injEq, mem_ordinalEndings_iff]
  constructor
  · rintro ⟨⟨count, ending, listed, same⟩, rfl⟩
    refine ⟨_, ending, listed, ?_, count, fun _ => List.mem_takeWhile_imp, rfl⟩
    rw [same, List.takeWhile_append_dropWhile]
  · rintro ⟨digits, ending, listed, split, count, ascii, rfl⟩
    -- No ending starts with a digit, so the digits of the word stop where its ending starts.
    have noDigit : ∀ ending ∈ ["", "st", "nd", "rd", "th"],
        ending.toList.takeWhile Char.isDigit = [] ∧
          ending.toList.dropWhile Char.isDigit = ending.toList := by
      decide +kernel
    obtain ⟨nothing, whole⟩ := noDigit ending listed
    rw [split, List.takeWhile_append_of_pos ascii, List.dropWhile_append_of_pos ascii, nothing,
      whole, List.append_nil]
    exact ⟨⟨count, ending, listed, rfl⟩, rfl⟩

/-! ## Months -/

/-- The full name of a month and the three letters it is cut to. -/
def monthSpellings (name : String) : List String := [name, String.ofList (name.toList.take 3)]

/-- A spelling of the month with that number, in any letter case. -/
def SpellsMonth (word : String) (month : Nat) : Prop :=
  ∃ index name, monthNames[index]? = some name ∧ month = index + 1 ∧
    ∃ spelling ∈ monthSpellings name, Text.sameIgnoringCase word spelling = true

theorem namesMonth_iff {word name : String} :
    namesMonth word name = true ↔
      ∃ spelling ∈ monthSpellings name, Text.sameIgnoringCase word spelling = true := by
  simp [namesMonth, monthSpellings]

/-- Different months have no spelling in common. -/
theorem pairwise_monthNames : monthNames.Pairwise fun earlier later =>
    ∀ spelling ∈ monthSpellings earlier, ∀ other ∈ monthSpellings later,
      Text.sameIgnoringCase spelling other = false := by
  decide +kernel

theorem namesMonth_of_lt {word : String} {earlier later : Nat} (inside : later < monthNames.length)
    (before : earlier < later) (named : namesMonth word monthNames[later] = true) :
    ¬ namesMonth word monthNames[earlier] = true := by
  intro alsoNamed
  obtain ⟨spelling, listed, same⟩ := namesMonth_iff.mp named
  obtain ⟨other, alsoListed, alsoSame⟩ := namesMonth_iff.mp alsoNamed
  -- A word that names both months would make two of their spellings the same.
  have apart := List.pairwise_iff_getElem.mp pairwise_monthNames earlier later
    (Nat.lt_trans before inside) inside before other alsoListed spelling listed
  rw [Text.sameIgnoringCase_comm] at alsoSame
  rw [Text.sameIgnoringCase_trans alsoSame same] at apart
  cases apart

theorem monthNumber?_eq_some_iff {word : String} {month : Nat} :
    monthNumber? word = some month ↔ SpellsMonth word month := by
  simp only [monthNumber?, SpellsMonth, Option.map_eq_some_iff,
    List.findIdx?_eq_some_iff_getElem, ← namesMonth_iff, List.getElem?_eq_some_iff]
  constructor
  · rintro ⟨index, ⟨inside, named, _⟩, rfl⟩
    exact ⟨index, _, ⟨inside, rfl⟩, rfl, named⟩
  · rintro ⟨index, _, ⟨inside, rfl⟩, rfl, named⟩
    exact ⟨index, ⟨inside, named, fun _ before => namesMonth_of_lt inside before named⟩, rfl⟩

end SlotFilling
