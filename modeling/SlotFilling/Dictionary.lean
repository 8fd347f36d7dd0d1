/-!
# Dictionaries

Finite maps from texts to values, kept as a list in strictly ascending order of
keys. Texts are ordered by code point, which is also the order of their UTF-8
bytes. The order is part of the type, so two dictionaries with the same values
at every key are equal, and listing one always gives the same list.
-/
namespace SlotFilling

variable {α β : Type}

/-- Put a value at its place in an ascending list, replacing the value of an equal key. -/
def insertAscending (key : String) (value : α) : List (String × α) → List (String × α)
  | [] => [(key, value)]
  | entry :: rest =>
    if key < entry.1 then (key, value) :: entry :: rest
    else if key = entry.1 then (key, value) :: rest
    else entry :: insertAscending key value rest

def Ascending (entries : List (String × α)) : Prop :=
  entries.Pairwise fun earlier later => earlier.1 < later.1

theorem mem_insertAscending {key : String} {value : α} {entry : String × α}
    {entries : List (String × α)} (member : entry ∈ insertAscending key value entries) :
    entry = (key, value) ∨ entry ∈ entries := by
  induction entries with
  | nil => simpa [insertAscending] using member
  | cons first rest ih =>
    simp only [insertAscending] at member
    split at member
    · simpa using member
    · split at member
      · rcases List.mem_cons.mp member with new | old
        · exact .inl new
        · exact .inr (List.mem_cons_of_mem _ old)
      · rcases List.mem_cons.mp member with rfl | later
        · exact .inr (List.mem_cons_self ..)
        · exact (ih later).imp id (List.mem_cons_of_mem _)

/-- What an insertion replaces makes no difference to a test that the new value passes
whenever the old one did. -/
theorem any_insertAscending {test : String × α → Bool} {key : String} {value : α}
    (kept : ∀ old, test (key, old) = true → test (key, value) = true)
    (entries : List (String × α)) :
    (insertAscending key value entries).any test = (test (key, value) || entries.any test) := by
  induction entries with
  | nil => simp [insertAscending]
  | cons first rest ih =>
    simp only [insertAscending]
    split
    · simp
    · split
      next equal =>
        have replaced : test first = true → test (key, value) = true := by
          intro passed
          exact kept first.2 (by rwa [equal])
        cases here : test first with
        | false => simp [here]
        | true => simp [replaced here]
      · simp only [List.any_cons, ih]
        exact Bool.or_left_comm ..

theorem insertAscending_ascending (key : String) (value : α) {entries : List (String × α)}
    (ascending : Ascending entries) : Ascending (insertAscending key value entries) := by
  induction entries with
  | nil => simp [insertAscending, Ascending]
  | cons first rest ih =>
    have later : ∀ entry ∈ rest, first.1 < entry.1 :=
      fun _ member => List.rel_of_pairwise_cons ascending member
    have tail : Ascending rest := List.Pairwise.of_cons ascending
    simp only [insertAscending]
    split
    next before =>
      refine List.Pairwise.cons (fun entry member => ?_) ascending
      rcases List.mem_cons.mp member with rfl | member
      · exact before
      · exact String.lt_trans before (later entry member)
    next not_before =>
      split
      next equal => exact List.Pairwise.cons (fun entry member => equal ▸ later entry member) tail
      next different =>
        refine List.Pairwise.cons (fun entry member => ?_) (ih tail)
        rcases mem_insertAscending member with rfl | member
        · exact Std.lt_of_le_of_ne (String.not_lt.mp not_before) (Ne.symm different)
        · exact later entry member

/-- A finite map from texts to values, in ascending order of keys. -/
structure Dictionary (α : Type) where
  entries : List (String × α)
  ascending : Ascending entries
  deriving DecidableEq

namespace Dictionary

def empty : Dictionary α := ⟨[], List.Pairwise.nil⟩

instance : Inhabited (Dictionary α) := ⟨empty⟩

def insert (dictionary : Dictionary α) (key : String) (value : α) : Dictionary α :=
  ⟨insertAscending key value dictionary.entries,
    insertAscending_ascending key value dictionary.ascending⟩

/-- Insert pairs from left to right; a later pair replaces an earlier one of the same key. -/
def insertAll (dictionary : Dictionary α) (pairs : List (String × α)) : Dictionary α :=
  pairs.foldl (fun result pair => result.insert pair.1 pair.2) dictionary

def ofList (pairs : List (String × α)) : Dictionary α := empty.insertAll pairs

def get? (dictionary : Dictionary α) (key : String) : Option α :=
  (dictionary.entries.find? fun entry => entry.1 == key).map (·.2)

def keys (dictionary : Dictionary α) : List String := dictionary.entries.map (·.1)

/-- Both dictionaries together; where both have a key, the second one's value counts. -/
def override (dictionary other : Dictionary α) : Dictionary α :=
  dictionary.insertAll other.entries

def filter (keep : String → α → Bool) (dictionary : Dictionary α) : Dictionary α :=
  ⟨dictionary.entries.filter fun entry => keep entry.1 entry.2,
    List.Pairwise.filter _ dictionary.ascending⟩

def mapValues (change : α → β) (dictionary : Dictionary α) : Dictionary β :=
  ⟨dictionary.entries.map fun entry => (entry.1, change entry.2), by
    simpa [Ascending, List.pairwise_map] using dictionary.ascending⟩

private theorem find_insertAscending_self (key : String) (value : α)
    (entries : List (String × α)) :
    ((insertAscending key value entries).find? fun entry => entry.1 == key) =
      some (key, value) := by
  induction entries with
  | nil => simp [insertAscending]
  | cons first rest ih =>
    simp only [insertAscending]
    split
    · simp
    · split
      · simp
      next different => simp [Ne.symm different, ih]

private theorem find_insertAscending_ne {key other : String} (value : α)
    (different : other ≠ key) (entries : List (String × α)) :
    ((insertAscending key value entries).find? fun entry => entry.1 == other) =
      entries.find? fun entry => entry.1 == other := by
  induction entries with
  | nil => simp [insertAscending, Ne.symm different]
  | cons first rest ih =>
    simp only [insertAscending]
    split
    · simp [List.find?_cons, Ne.symm different]
    · split
      next equal => simp [← equal, Ne.symm different]
      · simp [List.find?_cons, ih]

@[simp] theorem get?_empty (key : String) : (empty : Dictionary α).get? key = none := rfl

@[simp] theorem get?_insert_self (dictionary : Dictionary α) (key : String) (value : α) :
    (dictionary.insert key value).get? key = some value := by
  simp [get?, insert, find_insertAscending_self]

theorem get?_insert_of_ne (dictionary : Dictionary α) {key other : String} (value : α)
    (different : other ≠ key) :
    (dictionary.insert key value).get? other = dictionary.get? other := by
  simp [get?, insert, find_insertAscending_ne value different]

theorem get?_insert (dictionary : Dictionary α) (key other : String) (value : α) :
    (dictionary.insert key value).get? other =
      if other = key then some value else dictionary.get? other := by
  split
  next equal => rw [equal, get?_insert_self]
  next different => exact get?_insert_of_ne dictionary value different

theorem mem_insertAll {dictionary : Dictionary α} {pairs : List (String × α)}
    {entry : String × α} (member : entry ∈ (dictionary.insertAll pairs).entries) :
    entry ∈ dictionary.entries ∨ entry ∈ pairs := by
  induction pairs generalizing dictionary with
  | nil => exact .inl member
  | cons pair rest ih =>
    rcases ih member with inserted | later
    · rcases mem_insertAscending inserted with rfl | old
      · exact .inr List.mem_cons_self
      · exact .inl old
    · exact .inr (List.mem_cons_of_mem pair later)

theorem mem_ofList {pairs : List (String × α)} {entry : String × α}
    (member : entry ∈ (ofList pairs).entries) : entry ∈ pairs := by
  rcases mem_insertAll member with none | listed
  · cases none
  · exact listed

theorem mem_of_get? {dictionary : Dictionary α} {key : String} {value : α}
    (found : dictionary.get? key = some value) : (key, value) ∈ dictionary.entries := by
  simp only [get?, Option.map_eq_some_iff] at found
  obtain ⟨entry, here, rfl⟩ := found
  have same := List.find?_some here
  simp only [beq_iff_eq] at same
  rw [← same]
  exact List.mem_of_find?_eq_some here

private theorem find_of_mem {entries : List (String × α)} (ascending : Ascending entries)
    {entry : String × α} (member : entry ∈ entries) :
    (entries.find? fun other => other.1 == entry.1) = some entry := by
  induction entries with
  | nil => cases member
  | cons first rest ih =>
    rcases List.mem_cons.mp member with rfl | later
    · simp
    · have before : first.1 < entry.1 := List.rel_of_pairwise_cons ascending later
      have different : first.1 ≠ entry.1 := fun same => String.lt_irrefl _ (same ▸ before)
      rw [List.find?_cons_of_neg (by simpa using different),
        ih (List.Pairwise.of_cons ascending) later]

/-- Each key has one value, so looking it up finds the entry. -/
theorem get?_eq_some_iff {dictionary : Dictionary α} {key : String} {value : α} :
    dictionary.get? key = some value ↔ (key, value) ∈ dictionary.entries := by
  constructor
  · exact mem_of_get?
  · intro member
    rw [get?, find_of_mem dictionary.ascending member]
    rfl

/-- Of several pairs with one key the last counts. -/
theorem get?_insertAll (dictionary : Dictionary α) (pairs : List (String × α)) (key : String) :
    (dictionary.insertAll pairs).get? key =
      ((pairs.reverse.find? fun pair => pair.1 == key).map (·.2)).or (dictionary.get? key) := by
  induction pairs generalizing dictionary with
  | nil => rfl
  | cons pair rest ih =>
    have inserted : dictionary.insertAll (pair :: rest) =
        (dictionary.insert pair.1 pair.2).insertAll rest := rfl
    rw [inserted, ih, List.reverse_cons, List.find?_append, get?_insert]
    cases rest.reverse.find? fun pair => pair.1 == key with
    | some later => rfl
    | none =>
      by_cases same : key = pair.1
      · simp [same]
      · simp [same, Ne.symm same]

theorem get?_ofList (pairs : List (String × α)) (key : String) :
    (ofList pairs).get? key = (pairs.reverse.find? fun pair => pair.1 == key).map (·.2) := by
  rw [ofList, get?_insertAll, get?_empty, Option.or_none]

theorem get?_mapValues (change : α → β) (dictionary : Dictionary α) (key : String) :
    (dictionary.mapValues change).get? key = (dictionary.get? key).map change := by
  simp only [get?, mapValues, List.find?_map, Option.map_map]
  rfl

theorem get?_filter (keep : String → α → Bool) (dictionary : Dictionary α) (key : String) :
    (dictionary.filter keep).get? key = (dictionary.get? key).filter (keep key) := by
  apply Option.ext
  intro value
  rw [get?_eq_some_iff, Option.filter_eq_some_iff, get?_eq_some_iff]
  exact List.mem_filter

end Dictionary

end SlotFilling
