import SlotFilling.Dictionary
import Mathlib.Data.List.Perm.Basic

/-!
# Dictionaries by their values

A dictionary is known by the values at its keys, so laws of dictionaries are laws of looking
up. As the entries stand in ascending order, the first one that passes a test has the least key
of all that pass it, and the last one has the greatest.
-/
namespace SlotFilling.Dictionary

variable {α : Type} {dictionary other : Dictionary α} {entry : String × α}

/-! ## Entries and keys -/

theorem eq_of_mem_of_key_eq {another : String × α} (member : entry ∈ dictionary.entries)
    (isAnother : another ∈ dictionary.entries) (same : entry.1 = another.1) : entry = another := by
  obtain ⟨key, value⟩ := entry
  obtain ⟨_, _⟩ := another
  cases same
  have found := get?_eq_some_iff.mpr member
  rw [get?_eq_some_iff.mpr isAnother] at found
  cases found
  rfl

theorem mem_keys_iff {key : String} :
    key ∈ dictionary.keys ↔ ∃ value, dictionary.get? key = some value := by
  simp [keys, get?_eq_some_iff]

/-- Of the entries that pass a test, a listing in some order of keys has the one first whose key
is before all others. -/
theorem find?_eq_some_iff_of_pairwise (before : String → String → Prop)
    (refl : ∀ key, before key key)
    (antisymm : ∀ first second, before first second → before second first → first = second)
    {entries : List (String × α)} (same : ∀ each, each ∈ entries ↔ each ∈ dictionary.entries)
    (ordered : entries.Pairwise fun first second => before first.1 second.1)
    (test : String × α → Bool) :
    entries.find? test = some entry ↔
      entry ∈ dictionary.entries ∧ test entry = true ∧
        ∀ each ∈ dictionary.entries, test each = true → before entry.1 each.1 := by
  have first {found : String × α} (isFound : entries.find? test = some found) :
      found ∈ dictionary.entries ∧ test found = true ∧
        ∀ each ∈ dictionary.entries, test each = true → before found.1 each.1 := by
    obtain ⟨passed, front, back, cut, failed⟩ := List.find?_eq_some_iff_append.mp isFound
    refine ⟨(same found).mp (by simp [cut]), passed, ?_⟩
    intro each member alsoPassed
    rw [← same, cut] at member
    rw [cut] at ordered
    rcases List.mem_append.mp member with infront | here
    · -- Everything in front fails the test.
      have no := failed each infront
      rw [alsoPassed] at no
      cases no
    · rcases List.mem_cons.mp here with rfl | behind
      · exact refl each.1
      · exact List.rel_of_pairwise_cons (List.pairwise_append.mp ordered).2.1 behind
  refine ⟨first, ?_⟩
  rintro ⟨member, passed, least⟩
  have some : (entries.find? test).isSome = true :=
    List.find?_isSome.mpr ⟨entry, (same entry).mpr member, passed⟩
  obtain ⟨found, isFound⟩ := Option.isSome_iff_exists.mp some
  obtain ⟨isEntry, alsoPassed, before_all⟩ := first isFound
  have key := antisymm _ _ (least found isEntry alsoPassed) (before_all entry member passed)
  rw [isFound, eq_of_mem_of_key_eq member isEntry key]

/-- The first entry that passes a test is the one with the least key. -/
theorem find?_entries_eq_some_iff (test : String × α → Bool) :
    dictionary.entries.find? test = some entry ↔
      entry ∈ dictionary.entries ∧ test entry = true ∧
        ∀ each ∈ dictionary.entries, test each = true → entry.1 ≤ each.1 :=
  find?_eq_some_iff_of_pairwise (· ≤ ·) String.le_refl (fun _ _ => String.le_antisymm)
    (fun _ => Iff.rfl) (dictionary.ascending.imp Std.le_of_lt) test

/-- The last entry that passes a test is the one with the greatest key. -/
theorem find?_reverse_entries_eq_some_iff (test : String × α → Bool) :
    dictionary.entries.reverse.find? test = some entry ↔
      entry ∈ dictionary.entries ∧ test entry = true ∧
        ∀ each ∈ dictionary.entries, test each = true → each.1 ≤ entry.1 :=
  find?_eq_some_iff_of_pairwise (fun first second => second ≤ first) String.le_refl
    (fun _ _ after before => String.le_antisymm before after) (fun _ => List.mem_reverse)
    (List.pairwise_reverse.mpr (dictionary.ascending.imp Std.le_of_lt)) test

/-! ## Equality -/

/-- Dictionaries with the same value at every key are equal. -/
theorem ext_get? (same : ∀ key, dictionary.get? key = other.get? key) : dictionary = other := by
  have distinct (each : Dictionary α) : each.entries.Nodup := by
    refine each.ascending.imp ?_
    rintro first _ before rfl
    exact String.lt_irrefl _ before
  have perm : dictionary.entries.Perm other.entries := by
    rw [List.perm_ext_iff_of_nodup (distinct dictionary) (distinct other)]
    rintro ⟨key, value⟩
    rw [← get?_eq_some_iff, ← get?_eq_some_iff, same]
  have entries := List.Perm.eq_of_pairwise
    (fun _ _ _ _ before after => absurd (String.lt_trans before after) (String.lt_irrefl _))
    dictionary.ascending other.ascending perm
  obtain ⟨_, _⟩ := dictionary
  obtain ⟨_, _⟩ := other
  cases entries
  rfl

/-! ## Overriding -/

theorem get?_override (dictionary other : Dictionary α) (key : String) :
    (dictionary.override other).get? key = (other.get? key).or (dictionary.get? key) := by
  have last : (other.entries.reverse.find? fun entry => entry.1 == key).map (·.2) =
      other.get? key := by
    apply Option.ext
    intro value
    rw [get?_eq_some_iff, Option.map_eq_some_iff]
    constructor
    · rintro ⟨⟨_, _⟩, found, rfl⟩
      obtain ⟨member, same, -⟩ := (find?_reverse_entries_eq_some_iff _).mp found
      cases eq_of_beq same
      exact member
    · intro member
      refine ⟨(key, value), (find?_reverse_entries_eq_some_iff _).mpr ⟨member, by simp, ?_⟩, rfl⟩
      intro each _ same
      exact Std.le_of_eq (by simpa using same)
  rw [override, get?_insertAll, last]

theorem override_assoc (first second third : Dictionary α) :
    (first.override second).override third = first.override (second.override third) := by
  apply ext_get?
  intro key
  simp only [get?_override, Option.or_assoc]

@[simp] theorem override_empty (dictionary : Dictionary α) :
    dictionary.override empty = dictionary := rfl

@[simp] theorem empty_override (dictionary : Dictionary α) :
    empty.override dictionary = dictionary := by
  apply ext_get?
  intro key
  rw [get?_override, get?_empty, Option.or_none]

theorem override_self (dictionary : Dictionary α) :
    dictionary.override dictionary = dictionary := by
  apply ext_get?
  intro key
  rw [get?_override, Option.or_self]

theorem ofList_entries (dictionary : Dictionary α) : ofList dictionary.entries = dictionary :=
  empty_override dictionary

end SlotFilling.Dictionary
