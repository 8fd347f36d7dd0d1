import SlotFilling.Proofs.RuleFile.ListingOrder
import SlotFilling.Proofs.Text.Marks

/-!
# Places of rule files

A place in a folder is a list of numbers, one for the entry to take in each folder on the way. The
walk through a folder meets every file below it at its place, and the places come in ascending
order. Of these files only those count whose names have an extension of one of the formats.
-/
namespace SlotFilling

/-! ## Names of rule files -/

def RuleFormat.extensions : RuleFormat → List String
  | json => ["json"]
  | yaml => ["yaml", "yml"]

/-- The name is some text, a point and an extension of the format. -/
def RuleFormat.Names (format : RuleFormat) (name : String) : Prop :=
  ∃ stem extension : String, stem ≠ "" ∧ extension ∈ format.extensions ∧
    name = stem ++ "." ++ extension

def IsRuleFileName (name : String) : Prop := ∃ format : RuleFormat, format.Names name

theorem fileExtension?_append {stem extension : String} (nonempty : stem ≠ "")
    (plain : '.' ∉ extension.toList) :
    fileExtension? (stem ++ "." ++ extension) = some extension := by
  have letters : (stem ++ "." ++ extension).toList.reverse =
      extension.toList.reverse ++ '.' :: stem.toList.reverse := by
    simp [String.toList_append]
  have clear : '.' ∉ extension.toList.reverse := fun point => plain (List.mem_reverse.mp point)
  have more : stem.toList.reverse ≠ [] := by
    simpa [String.toList_eq_nil_iff] using nonempty
  obtain ⟨last, others, before⟩ := List.exists_cons_of_ne_nil more
  unfold fileExtension?
  simp only [letters, Text.dropWhile_append_mark clear, Text.takeWhile_append_mark clear, before,
    List.reverse_reverse, String.ofList_toList]

theorem exists_stem_of_fileExtension? {name extension : String}
    (found : fileExtension? name = some extension) :
    ∃ stem : String, stem ≠ "" ∧ name = stem ++ "." ++ extension := by
  -- Read from the end, the name is the extension, the point, and the rest.
  unfold fileExtension? at found
  simp only at found
  split at found
  next point last others atPoint =>
    have cut := Text.eq_append_of_dropWhile atPoint
    cases found
    refine ⟨String.ofList (last :: others).reverse, ?_, ?_⟩
    · simp [← String.toList_eq_nil_iff]
    · generalize name.toList.reverse.takeWhile (· ≠ '.') = letters at cut
      rw [← String.toList_inj, ← List.reverse_inj, cut]
      simp [String.toList_append]
  next => cases found

theorem RuleFormat.names_of_fileExtension? {format : RuleFormat} {name extension : String}
    (known : extension ∈ format.extensions) (found : fileExtension? name = some extension) :
    format.Names name := by
  obtain ⟨stem, nonempty, spelled⟩ := exists_stem_of_fileExtension? found
  exact ⟨stem, extension, nonempty, known, spelled⟩

theorem RuleFormat.ofName?_eq_some_iff {name : String} {format : RuleFormat} :
    ofName? name = some format ↔ format.Names name := by
  constructor
  · intro found
    unfold ofName? at found
    split at found
    next isJson =>
      cases found
      exact names_of_fileExtension? (by simp [extensions]) isJson
    next isYaml =>
      cases found
      exact names_of_fileExtension? (by simp [extensions]) isYaml
    next isYml =>
      cases found
      exact names_of_fileExtension? (by simp [extensions]) isYml
    next => cases found
  · rintro ⟨stem, extension, nonempty, known, rfl⟩
    have plain : '.' ∉ extension.toList := by
      revert extension
      cases format <;> decide
    rw [ofName?, fileExtension?_append nonempty plain]
    cases format <;> simp only [extensions, List.mem_cons, List.not_mem_nil, or_false] at known
    · obtain rfl := known
      rfl
    · rcases known with rfl | rfl <;> rfl

theorem isSome_ofName?_iff {name : String} :
    (RuleFormat.ofName? name).isSome = true ↔ IsRuleFileName name := by
  simp only [Option.isSome_iff_exists, RuleFormat.ofName?_eq_some_iff, IsRuleFileName]

instance (name : String) : Decidable (IsRuleFileName name) :=
  decidable_of_iff _ isSome_ofName?_iff

/-- The last point counts, but not at the start, and so does the case of letters. -/
example :
    IsRuleFileName "menu.v2.yml" ∧ ¬ IsRuleFileName ".yaml" ∧ ¬ IsRuleFileName "menu.JSON" := by
  decide

/-! ## Places -/

/-- The file at a place, and nothing where the numbers do not lead to a file. -/
def fileAt? (path : String) (entries : List (String × FileTree)) : List Nat → Option FoundFile
  | [] => none
  | number :: later =>
    match entries[number]? with
    | some (name, .file content) =>
      if later = [] then some ⟨entryPath path name, name, content⟩ else none
    | some (name, .folder inner) => fileAt? (entryPath path name) inner later
    | none => none

/-- Some files are those of a folder that have names of rule files, each of them once, in the
order in which the folder lists them. -/
def IsListing (path : String) (entries : List (String × FileTree)) (listed : List FoundFile) :
    Prop :=
  ∃ places : List (List Nat), places.Pairwise (List.Lex (· < ·)) ∧
    (∀ place, place ∈ places ↔
      ∃ file, fileAt? path entries place = some file ∧ IsRuleFileName file.name) ∧
    List.Forall₂ (fun place file => fileAt? path entries place = some file) places listed

mutual

/-- The places of all files in a tree. -/
def FileTree.filePlaces : FileTree → List (List Nat)
  | .file _ => [[]]
  | .folder entries => SlotFilling.filePlaces entries

/-- The places of all files below the entries of a folder. -/
def filePlaces : List (String × FileTree) → List (List Nat)
  | [] => []
  | (_, tree) :: rest =>
    tree.filePlaces.map (0 :: ·) ++ (filePlaces rest).map (List.modifyHead (· + 1))

end

section

variable {path name : String} {content : List UInt8} {inner rest : List (String × FileTree)}
  {entry : String × FileTree} {number : Nat} {later : List Nat}

@[simp]
theorem fileAt?_nil {entries : List (String × FileTree)} : fileAt? path entries [] = none := rfl

@[simp]
theorem fileAt?_no_entries (place : List Nat) : fileAt? path [] place = none := by
  cases place <;> rfl

@[simp]
theorem fileAt?_file_zero :
    fileAt? path ((name, .file content) :: rest) (0 :: later) =
      if later = [] then some ⟨entryPath path name, name, content⟩ else none := rfl

@[simp]
theorem fileAt?_folder_zero :
    fileAt? path ((name, .folder inner) :: rest) (0 :: later) =
      fileAt? (entryPath path name) inner later := rfl

@[simp]
theorem fileAt?_succ :
    fileAt? path (entry :: rest) ((number + 1) :: later) = fileAt? path rest (number :: later) :=
  rfl

theorem fileAt?_shifted (place : List Nat) :
    fileAt? path (entry :: rest) (place.modifyHead (· + 1)) = fileAt? path rest place := by
  cases place <;> rfl

theorem filePlaces_file :
    filePlaces ((name, .file content) :: rest) =
      [0] :: (filePlaces rest).map (List.modifyHead (· + 1)) := by
  rw [filePlaces, FileTree.filePlaces, List.map_singleton, List.singleton_append]

theorem filePlaces_folder :
    filePlaces ((name, .folder inner) :: rest) =
      (filePlaces inner).map (0 :: ·) ++ (filePlaces rest).map (List.modifyHead (· + 1)) := by
  rw [filePlaces, FileTree.filePlaces]

end

theorem mem_shifted_iff {place : List Nat} {places : List (List Nat)} :
    place ∈ places.map (List.modifyHead (· + 1)) ↔
      (place = [] ∧ [] ∈ places) ∨
        ∃ number later, place = (number + 1) :: later ∧ number :: later ∈ places := by
  simp only [List.mem_map]
  constructor
  · rintro ⟨_ | ⟨number, later⟩, member, rfl⟩
    · exact .inl ⟨rfl, member⟩
    · exact .inr ⟨number, later, rfl, member⟩
  · rintro (⟨rfl, member⟩ | ⟨number, later, rfl, member⟩)
    · exact ⟨[], member, rfl⟩
    · exact ⟨number :: later, member, rfl⟩

theorem mem_filePlaces_iff (path : String) : (entries : List (String × FileTree)) →
    (place : List Nat) → (place ∈ filePlaces entries ↔ (fileAt? path entries place).isSome = true)
  | [], place => by simp [filePlaces]
  | (name, .file content) :: rest, place => by
    rw [filePlaces_file, List.mem_cons, mem_shifted_iff]
    simp only [mem_filePlaces_iff path rest]
    -- The first number takes this entry or one behind it.
    rcases place with _ | ⟨_ | number, later⟩ <;> simp
  | (name, .folder inner) :: rest, place => by
    rw [filePlaces_folder, List.mem_append, mem_shifted_iff, List.mem_map]
    simp only [mem_filePlaces_iff path rest, mem_filePlaces_iff (entryPath path name) inner]
    rcases place with _ | ⟨_ | number, later⟩ <;> simp

theorem exists_succ_of_mem_shifted {place : List Nat} {entries : List (String × FileTree)}
    (shifted : place ∈ (filePlaces entries).map (List.modifyHead (· + 1))) :
    ∃ number later, place = (number + 1) :: later := by
  rcases mem_shifted_iff.mp shifted with ⟨-, member⟩ | ⟨number, later, rfl, -⟩
  · simp [mem_filePlaces_iff ""] at member
  · exact ⟨number, later, rfl⟩

theorem pairwise_shifted {places : List (List Nat)}
    (ascending : places.Pairwise (List.Lex (· < ·))) :
    (places.map (List.modifyHead (· + 1))).Pairwise (List.Lex (· < ·)) := by
  rw [List.pairwise_map]
  refine ascending.imp fun less => ?_
  cases less with
  | nil => exact .nil
  | cons less => exact .cons less
  | rel less => exact .rel (Nat.succ_lt_succ less)

theorem pairwise_filePlaces : (entries : List (String × FileTree)) →
    (filePlaces entries).Pairwise (List.Lex (· < ·))
  | [] => by
    rw [filePlaces]
    exact .nil
  | (name, .file content) :: rest => by
    rw [filePlaces_file, List.pairwise_cons]
    refine ⟨fun place shifted => ?_, pairwise_shifted (pairwise_filePlaces rest)⟩
    obtain ⟨number, later, rfl⟩ := exists_succ_of_mem_shifted shifted
    exact .rel (Nat.zero_lt_succ number)
  | (name, .folder inner) :: rest => by
    rw [filePlaces_folder, List.pairwise_append, List.pairwise_map]
    refine ⟨(pairwise_filePlaces inner).imp .cons, pairwise_shifted (pairwise_filePlaces rest), ?_⟩
    -- Places below this entry start with zero, and those behind it do not.
    intro place inside other shifted
    obtain ⟨later, -, rfl⟩ := List.mem_map.mp inside
    obtain ⟨number, later, rfl⟩ := exists_succ_of_mem_shifted shifted
    exact .rel (Nat.zero_lt_succ number)

theorem forall₂_filePlaces (path : String) : (entries : List (String × FileTree)) →
    List.Forall₂ (fun place file => fileAt? path entries place = some file)
      (filePlaces entries) (entryFiles path entries)
  | [] => by
    rw [filePlaces, entryFiles]
    exact .nil
  | (name, .file content) :: rest => by
    rw [filePlaces_file, entryFiles, FileTree.files]
    refine .cons (by simp) ?_
    simp only [List.forall₂_map_left_iff, fileAt?_shifted]
    exact forall₂_filePlaces path rest
  | (name, .folder inner) :: rest => by
    rw [filePlaces_folder, entryFiles, FileTree.files]
    refine List.rel_append ?_ ?_
    · rw [List.forall₂_map_left_iff]
      exact forall₂_filePlaces (entryPath path name) inner
    · simp only [List.forall₂_map_left_iff, fileAt?_shifted]
      exact forall₂_filePlaces path rest

/-- The walk through a folder lists its rule files. -/
theorem isListing_entryFiles (path : String) (entries : List (String × FileTree)) :
    IsListing path entries
      ((entryFiles path entries).filter fun file => IsRuleFileName file.name) := by
  refine ⟨(filePlaces entries).filter fun place =>
    (fileAt? path entries place).any fun file => IsRuleFileName file.name,
    (pairwise_filePlaces entries).filter _, fun place => ?_, ?_⟩
  · rw [List.mem_filter, mem_filePlaces_iff path]
    cases fileAt? path entries place <;> simp
  · refine List.rel_filter (fun place file found => ?_) (forall₂_filePlaces path entries)
    simp [found]

/-! ## Other files -/

mutual

/-- An entry without the files in it that are not named as rule files. -/
def FileTree.onlyRuleFiles (name : String) : FileTree → List (String × FileTree)
  | .file content => if IsRuleFileName name then [(name, .file content)] else []
  | .folder entries => [(name, .folder (SlotFilling.onlyRuleFiles entries))]

/-- The entries of a folder without the files that are not named as rule files. -/
def onlyRuleFiles : List (String × FileTree) → List (String × FileTree)
  | [] => []
  | (name, tree) :: rest => tree.onlyRuleFiles name ++ onlyRuleFiles rest

end

theorem entryFiles_onlyRuleFiles (path : String) : (entries : List (String × FileTree)) →
    entryFiles path (onlyRuleFiles entries) =
      (entryFiles path entries).filter fun file => IsRuleFileName file.name
  | [] => by simp [onlyRuleFiles, entryFiles]
  | (name, .file content) :: rest => by
    have behind := entryFiles_onlyRuleFiles path rest
    by_cases named : IsRuleFileName name <;>
      simp [onlyRuleFiles, FileTree.onlyRuleFiles, entryFiles, FileTree.files, named, behind]
  | (name, .folder inner) :: rest => by
    rw [onlyRuleFiles, FileTree.onlyRuleFiles, List.singleton_append, entryFiles, entryFiles,
      FileTree.files, FileTree.files, List.filter_append,
      entryFiles_onlyRuleFiles (entryPath path name) inner, entryFiles_onlyRuleFiles path rest]

end SlotFilling
