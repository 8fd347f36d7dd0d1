import SlotFilling.Proofs.RuleFile.Categories
import SlotFilling.Proofs.RuleFile.Places
import SlotFilling.Proofs.Text.ByteOrder

/-!
# Loading a folder

Every file that has the name of a rule file is read in the format that its name tells. If each of
them holds rules, the rule files are exactly the ones that they hold, sorted by name; otherwise
the first file that does not is the fault. No other file matters.
-/
namespace SlotFilling

/-! ## Reading one file -/

namespace FoundFile

/-- The file reads, in the format that its name tells, as a rule file with rules. -/
def Holds (file : FoundFile) (ruleFile : RuleFile) : Prop :=
  ∃ format : RuleFormat, format.Names file.name ∧
    format.read? file.content = some ruleFile ∧ ruleFile.patterns ≠ []

/-- The file has the name of a rule file but cannot be read, or holds no rules. -/
inductive Fails (file : FoundFile) : FolderFault → Prop
  | malformed {format : RuleFormat} :
      format.Names file.name → format.read? file.content = none →
      Fails file (.malformedFile file.path)
  | noRules {format : RuleFormat} {ruleFile : RuleFile} :
      format.Names file.name → format.read? file.content = some ruleFile →
      ruleFile.patterns = [] → Fails file (.noRules file.path ruleFile.name)

/-- The format that the name tells; what is not said to be JSON is read as YAML. -/
def format (file : FoundFile) : RuleFormat := (RuleFormat.ofName? file.name).getD .yaml

variable {file : FoundFile}

theorem format_eq {format : RuleFormat} (named : format.Names file.name) :
    file.format = format := by
  rw [FoundFile.format, RuleFormat.ofName?_eq_some_iff.mpr named, Option.getD_some]

theorem names_format (named : IsRuleFileName file.name) : file.format.Names file.name := by
  obtain ⟨format, names⟩ := named
  rwa [format_eq names]

theorem holds_iff {ruleFile : RuleFile} :
    file.Holds ruleFile ↔
      IsRuleFileName file.name ∧ RuleFile.ofFound file file.format = .ok ruleFile := by
  constructor
  · rintro ⟨format, named, read, filled⟩
    refine ⟨⟨format, named⟩, ?_⟩
    simp [RuleFile.ofFound, format_eq named, read, filled]
  · rintro ⟨named, loaded⟩
    unfold RuleFile.ofFound at loaded
    split at loaded
    next => cases loaded
    next found read =>
      split at loaded
      next => cases loaded
      next filled =>
        cases loaded
        exact ⟨file.format, names_format named, read, by simpa using filled⟩

theorem fails_iff {fault : FolderFault} :
    file.Fails fault ↔
      IsRuleFileName file.name ∧ RuleFile.ofFound file file.format = .error fault := by
  constructor
  · rintro (⟨named, read⟩ | ⟨named, read, bare⟩)
    · exact ⟨⟨_, named⟩, by simp [RuleFile.ofFound, format_eq named, read]⟩
    · exact ⟨⟨_, named⟩, by simp [RuleFile.ofFound, format_eq named, read, bare]⟩
  · rintro ⟨named, failed⟩
    unfold RuleFile.ofFound at failed
    split at failed
    next read =>
      cases failed
      exact .malformed (names_format named) read
    next found read =>
      split at failed
      next bare =>
        cases failed
        exact .noRules (names_format named) read (by simpa using bare)
      next => cases failed

theorem Holds.categorized {ruleFile : RuleFile} (holds : file.Holds ruleFile) :
    ruleFile.Categorized := by
  obtain ⟨_, _, read, _⟩ := holds
  exact RuleFormat.categorized_of_read? read

end FoundFile

/-! ## Reading all files -/

namespace RuleFile

theorem ofFiles_eq_mapM (files : List FoundFile) :
    ofFiles files = (files.filter fun file => IsRuleFileName file.name).mapM
      fun file => ofFound file file.format := by
  have formats : (files.filterMap fun file => (RuleFormat.ofName? file.name).map (file, ·)) =
      (files.filter fun file => IsRuleFileName file.name).map fun file => (file, file.format) := by
    induction files with
    | nil => rfl
    | cons file rest ih =>
      cases format : RuleFormat.ofName? file.name with
      | none =>
        have other : ¬ IsRuleFileName file.name := by simp [← isSome_ofName?_iff, format]
        simp [format, other, ih]
      | some found =>
        have named : IsRuleFileName file.name := by simp [← isSome_ofName?_iff, format]
        simp [format, named, ih, FoundFile.format]
  rw [ofFiles, formats, List.mapM_map]
  rfl

variable {files : List FoundFile}

theorem ofFiles_eq_ok_iff {found : List RuleFile} :
    ofFiles files = .ok found ↔
      List.Forall₂ FoundFile.Holds (files.filter fun file => IsRuleFileName file.name) found := by
  have named : ∀ file ∈ files.filter fun file => IsRuleFileName file.name,
      IsRuleFileName file.name := by simp
  have holds : FoundFile.Holds = fun file ruleFile =>
      IsRuleFileName file.name ∧ ofFound file file.format = .ok ruleFile := by
    funext file ruleFile
    exact propext FoundFile.holds_iff
  rw [ofFiles_eq_mapM, mapM_eq_ok_iff, holds, List.forall₂_and_left]
  exact (and_iff_right named).symm

theorem ofFiles_eq_error_iff {fault : FolderFault} :
    ofFiles files = .error fault ↔
      ∃ before file after,
        (files.filter fun file => IsRuleFileName file.name) = before ++ file :: after ∧
        (∀ earlier ∈ before, ∃ ruleFile, earlier.Holds ruleFile) ∧ file.Fails fault := by
  rw [ofFiles_eq_mapM, mapM_eq_error_iff]
  -- All parts of the list have names of rule files, whatever is read from them.
  refine exists_congr fun before => exists_congr fun file => exists_congr fun after =>
    and_congr_right fun cut => ?_
  have named : ∀ listed ∈ before ++ file :: after, IsRuleFileName listed.name := by
    rw [← cut]
    simp
  rw [FoundFile.fails_iff, and_iff_right (named file (by simp))]
  refine and_congr_left' (forall₂_congr fun earlier member => ?_)
  simp [FoundFile.holds_iff, named earlier (by simp [member])]

theorem exists_ofFiles_iff :
    (∃ found, ofFiles files = .ok found) ↔
      ∀ file ∈ files.filter fun file => IsRuleFileName file.name,
        ∃ ruleFile, file.Holds ruleFile := by
  simp only [ofFiles_eq_ok_iff]
  induction files.filter fun file => IsRuleFileName file.name with
  | nil => simp
  | cons file rest ih => simp [List.forall₂_cons_left_iff, ← ih]

theorem categorized_of_holds {found : List RuleFile}
    (holds : List.Forall₂ FoundFile.Holds files found) : ∀ file ∈ found, file.Categorized :=
  ((List.forall₂_and_left _ _).mp
    (holds.flip.imp fun _ _ held => ⟨FoundFile.Holds.categorized held, held⟩)).1

/-! ## Sorting by name -/

theorem name_le_of_filter_eq {first other : RuleFile} {later right : List RuleFile}
    (sorted : (first :: later).Pairwise fun file other => byName file other = true)
    (same : ∀ name, (first :: later).filter (·.name = name) = right.filter (·.name = name))
    (member : other ∈ right) : first.name ≤ other.name := by
  have listed : other ∈ (first :: later).filter (·.name = other.name) := by
    rw [same]
    exact List.mem_filter.mpr ⟨member, by simp⟩
  rcases List.mem_cons.mp (List.mem_filter.mp listed).1 with rfl | behind
  · exact String.le_refl _
  · exact of_decide_eq_true ((List.pairwise_cons.mp sorted).1 other behind)

/-- Sorted lists are equal when they have the same files of each name in the same order. -/
theorem eq_of_filter_eq {left right : List RuleFile}
    (leftSorted : left.Pairwise fun file other => byName file other = true)
    (rightSorted : right.Pairwise fun file other => byName file other = true)
    (same : ∀ name, left.filter (·.name = name) = right.filter (·.name = name)) :
    left = right := by
  induction left generalizing right with
  | nil =>
    cases right with
    | nil => rfl
    | cons other others => simpa using same other.name
  | cons file rest ih =>
    cases right with
    | nil => simpa using same file.name
    | cons other others =>
      -- Each list has a file with the first name of the other one, so no first name is smaller.
      have sameName : file.name = other.name := String.le_antisymm
        (name_le_of_filter_eq leftSorted same List.mem_cons_self)
        (name_le_of_filter_eq rightSorted (fun name => (same name).symm) List.mem_cons_self)
      have first := same other.name
      rw [List.filter_cons_of_pos (by simpa using sameName), List.filter_cons_of_pos (by simp)]
        at first
      obtain ⟨rfl, -⟩ := List.cons.inj first
      have behind : rest = others := by
        refine ih leftSorted.of_cons rightSorted.of_cons fun name => ?_
        have here := same name
        simp only [List.filter_cons] at here
        split at here
        next => exact (List.cons.inj here).2
        next => exact here
      rw [behind]

/-- Sorting by name is fixed by what it gives: the same files, in the order of the bytes of their
names, and those of one name in their order. -/
theorem eq_mergeSort_iff {found sorted : List RuleFile} :
    sorted = found.mergeSort byName ↔
      sorted.Perm found ∧
        (sorted.Pairwise fun file other => Text.bytes file.name ≤ Text.bytes other.name) ∧
        ∀ name, sorted.filter (·.name = name) = found.filter (·.name = name) := by
  have ascending (files : List RuleFile) :
      (files.Pairwise fun file other => byName file other = true) ↔
        files.Pairwise fun file other => Text.bytes file.name ≤ Text.bytes other.name := by
    simp only [byName, decide_eq_true_eq, Text.bytes_le_bytes_iff]
  rw [← ascending]
  constructor
  · rintro rfl
    exact ⟨List.mergeSort_perm found byName, pairwise_byName found,
      fun name => filter_mergeSort_byName name found⟩
  · rintro ⟨-, sortedAscending, same⟩
    refine eq_of_filter_eq sortedAscending (pairwise_byName found) fun name => ?_
    rw [same, filter_mergeSort_byName]

/-! ## Loading -/

theorem ofFolder_eq_error_iff {path : String} {entries : List (String × FileTree)}
    {fault : FolderFault} :
    ofFolder path entries = .error fault ↔ ofFiles (entryFiles path entries) = .error fault := by
  unfold ofFolder
  cases ofFiles (entryFiles path entries) <;> simp [Except.map]

theorem ofFolder_onlyRuleFiles (path : String) (entries : List (String × FileTree)) :
    ofFolder path (onlyRuleFiles entries) = ofFolder path entries := by
  rw [ofFolder, ofFolder, ofFiles_eq_mapM, ofFiles_eq_mapM, entryFiles_onlyRuleFiles,
    List.filter_filter]
  simp only [Bool.and_self]

/-- The rule files of a folder are loaded just when each file with the name of a rule file holds
rules. They are then what these files hold, each once, in the order of the bytes of their names
and otherwise as the folder lists them, and all their patterns have categories. If some file does
not hold rules, the first one that is listed is the fault. Other files change nothing. -/
theorem ofFolder_complete (path : String) (entries : List (String × FileTree)) :
    ∃ listed, IsListing path entries listed ∧
      ((∃ files, ofFolder path entries = .ok files) ↔
        ∀ file ∈ listed, ∃ ruleFile, file.Holds ruleFile) ∧
      (∀ files, ofFolder path entries = .ok files ↔
        ∃ found, List.Forall₂ FoundFile.Holds listed found ∧ files.Perm found ∧
          (files.Pairwise fun file other => Text.bytes file.name ≤ Text.bytes other.name) ∧
          ∀ name, files.filter (·.name = name) = found.filter (·.name = name)) ∧
      (∀ files, ofFolder path entries = .ok files →
        ∀ file ∈ files, ∀ pattern ∈ file.patterns, pattern.category ≠ "") ∧
      (∀ fault, ofFolder path entries = .error fault ↔
        ∃ before file after, listed = before ++ file :: after ∧
          (∀ earlier ∈ before, ∃ ruleFile, earlier.Holds ruleFile) ∧ file.Fails fault) ∧
      ∀ others, onlyRuleFiles others = onlyRuleFiles entries →
        ofFolder path others = ofFolder path entries := by
  have loaded (files : List RuleFile) : ofFolder path entries = .ok files ↔
      ∃ found, List.Forall₂ FoundFile.Holds
          ((entryFiles path entries).filter fun file => IsRuleFileName file.name) found ∧
        files.Perm found ∧
        (files.Pairwise fun file other => Text.bytes file.name ≤ Text.bytes other.name) ∧
        ∀ name, files.filter (·.name = name) = found.filter (·.name = name) := by
    rw [ofFolder_eq_ok_iff]
    simp only [ofFiles_eq_ok_iff, eq_mergeSort_iff]
  refine ⟨_, isListing_entryFiles path entries, ?_, loaded, ?_, fun fault => ?_, ?_⟩
  · rw [← exists_ofFiles_iff]
    constructor
    · rintro ⟨files, isLoaded⟩
      obtain ⟨found, read, -⟩ := (ofFolder_eq_ok_iff path entries files).mp isLoaded
      exact ⟨found, read⟩
    · rintro ⟨found, read⟩
      exact ⟨_, (ofFolder_eq_ok_iff path entries _).mpr ⟨found, read, rfl⟩⟩
  · intro files isLoaded file member
    obtain ⟨found, holds, perm, -⟩ := (loaded files).mp isLoaded
    exact categorized_of_holds holds file (perm.mem_iff.mp member)
  · rw [ofFolder_eq_error_iff, ofFiles_eq_error_iff]
  · intro others same
    rw [← ofFolder_onlyRuleFiles path others, same, ofFolder_onlyRuleFiles]

/-- Both formats, on two levels, among files that do not count. -/
theorem ofFolder_complete_drinks :
    let coffee : FileTree := .file "[\"coffee\",[\"coffee[noun]\"]]".toUTF8.toList
    let tea : FileTree := .file "name: tea\nrules: [type: noun]\n".toUTF8.toList
    let notes : FileTree := .file "[".toUTF8.toList
    let entries := [("hot", .folder [(".yaml", notes), ("tea.yml", tea)]), ("coffee.json", coffee)]
    let others := [("notes.txt", notes), ("hot", .folder [("tea.yml", tea)]),
      ("coffee.json", coffee)]
    let files : List RuleFile :=
      [⟨"coffee", [⟨some "coffee", "noun", none⟩], []⟩, ⟨"tea", [⟨none, "noun", none⟩], []⟩]
    ofFolder "rules" entries = .ok files ∧
    (∃ listed, IsListing "rules" entries listed ∧
      (∀ file ∈ listed, ∃ ruleFile, file.Holds ruleFile) ∧
      ∃ found, List.Forall₂ FoundFile.Holds listed found ∧ files.Perm found) ∧
    onlyRuleFiles others = onlyRuleFiles entries ∧ ofFolder "rules" others = .ok files := by
  intro coffee tea notes entries others files
  have sorted : files.mergeSort byName = files := List.mergeSort_of_pairwise (by decide +kernel)
  have turned : files.mergeSort byName = files.reverse.mergeSort byName :=
    mergeSort_eq_of_perm files.reverse_perm.symm (by decide +kernel)
  have loaded : ofFolder "rules" entries = .ok files :=
    (ofFolder_eq_ok_iff "rules" entries files).mpr
      ⟨files.reverse, by decide +kernel, sorted.symm.trans turned⟩
  have same : onlyRuleFiles others = onlyRuleFiles entries := by
    have hidden : ¬ IsRuleFileName ".yaml" := by decide
    have text : ¬ IsRuleFileName "notes.txt" := by decide
    simp [others, entries, notes, onlyRuleFiles, FileTree.onlyRuleFiles, hidden, text]
  obtain ⟨listed, listing, loads_iff, ok_iff, -, -, unchanged⟩ :=
    ofFolder_complete "rules" entries
  obtain ⟨found, holds, perm, -⟩ := (ok_iff files).mp loaded
  exact ⟨loaded, ⟨listed, listing, loads_iff.mp ⟨files, loaded⟩, found, holds, perm⟩, same,
    (unchanged others same).trans loaded⟩

/-- The file that is listed first is the fault, though the one behind it cannot be read. -/
example :
    let empty : FileTree := .file "[\"empty\",[]]".toUTF8.toList
    let broken : FileTree := .file "[".toUTF8.toList
    ofFolder "rules" [("a.txt", broken), ("b", .folder [("c.json", empty)]), ("d.json", broken)] =
      .error (.noRules "rules/b/c.json" "empty") := by
  decide +kernel

end RuleFile

end SlotFilling
