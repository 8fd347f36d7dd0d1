import Mathlib.Data.List.Perm.Basic
import SlotFilling.RuleFile.Folder
import SlotFilling.Proofs.Pattern.CompactSyntax
import SlotFilling.Proofs.Report.Accounts

/-!
# The order in which folders list their entries

A folder may list its entries in any order, on every level, and the files below it come in
an order that depends on that. The rule files read from them are the same ones, and sorting
by name hides the order of all files whose names differ. What stays open is the order of
different rule files of one name: the sort keeps them as they are listed, and whenever a
folder holds two such files, some other listing of it puts them in another order.
-/
namespace SlotFilling

/-! ## Listings -/

/-- Two listings of one folder: on every level the same entries, in any order. -/
inductive Relisted : List (String × FileTree) → List (String × FileTree) → Prop
  | nil : Relisted [] []
  | file {name : String} {content : List UInt8} {rest others : List (String × FileTree)} :
      Relisted rest others →
      Relisted ((name, .file content) :: rest) ((name, .file content) :: others)
  | folder {name : String} {inner relisted rest others : List (String × FileTree)} :
      Relisted inner relisted → Relisted rest others →
      Relisted ((name, .folder inner) :: rest) ((name, .folder relisted) :: others)
  | swap {first second : String × FileTree} {rest : List (String × FileTree)} :
      Relisted (first :: second :: rest) (second :: first :: rest)
  | trans {left middle right : List (String × FileTree)} :
      Relisted left middle → Relisted middle right → Relisted left right

namespace Relisted

theorem refl : (entries : List (String × FileTree)) → Relisted entries entries
  | [] => .nil
  | (_, .file _) :: rest => .file (refl rest)
  | (_, .folder inner) :: rest => .folder (refl inner) (refl rest)

theorem cons (entry : String × FileTree) {rest others : List (String × FileTree)}
    (relisted : Relisted rest others) : Relisted (entry :: rest) (entry :: others) := by
  obtain ⟨name, tree⟩ := entry
  cases tree with
  | file content => exact .file relisted
  | folder inner => exact .folder (refl inner) relisted

theorem of_perm {entries others : List (String × FileTree)} (perm : entries.Perm others) :
    Relisted entries others := by
  induction perm with
  | nil => exact .nil
  | cons entry _ ih => exact ih.cons entry
  | swap => exact .swap
  | trans _ _ first second => exact .trans first second

end Relisted

theorem entryFiles_append (path : String) (entries others : List (String × FileTree)) :
    entryFiles path (entries ++ others) = entryFiles path entries ++ entryFiles path others := by
  induction entries with
  | nil => rfl
  | cons entry rest ih =>
    simp only [List.cons_append, entryFiles, ih, List.append_assoc]

theorem Relisted.perm_entryFiles {entries others : List (String × FileTree)}
    (relisted : Relisted entries others) (path : String) :
    (entryFiles path entries).Perm (entryFiles path others) := by
  -- The path is open, since what a folder holds is listed below its own path.
  induction relisted generalizing path with
  | nil => exact .nil
  | file _ ih => exact (ih path).append_left _
  | @folder name _ _ _ _ _ _ inside ih => exact (inside (entryPath path name)).append (ih path)
  | swap =>
    simp only [entryFiles, ← List.append_assoc]
    exact List.perm_append_comm.append_right _
  | trans _ _ first second => exact (first path).trans (second path)

/-! ## Lists that every listing spells alike -/

/-- All items are the same one. -/
def AllSame {α : Type} (items : List α) : Prop := ∀ item ∈ items, ∀ other ∈ items, item = other

/-- Lists of one item each that can be put either way round are lists of the same item. -/
theorem allSame_append {α : Type} {front back : List α} (frontSame : AllSame front)
    (backSame : AllSame back) (turned : back ++ front = front ++ back) :
    AllSame (front ++ back) := by
  cases front with
  | nil => exact backSame
  | cons first later =>
    cases back with
    | nil =>
      rw [List.append_nil]
      exact frontSame
    | cons other others =>
      obtain ⟨same, _⟩ := List.cons.inj turned
      have isFirst : ∀ item ∈ first :: later ++ other :: others, item = first := by
        intro item member
        rcases List.mem_append.mp member with infront | behind
        · exact frontSame item infront first List.mem_cons_self
        · exact (backSame item behind other List.mem_cons_self).trans same
      intro item isItem another isAnother
      rw [isFirst item isItem, isFirst another isAnother]

/-- What is read from the files of a folder in the same order under every listing is the same
thing each time. -/
theorem allSame_of_fixed {α : Type} (read : FoundFile → Option α) (path : String) :
    (entries : List (String × FileTree)) →
    (∀ others, Relisted entries others →
      (entryFiles path others).filterMap read = (entryFiles path entries).filterMap read) →
    AllSame ((entryFiles path entries).filterMap read)
  | [], _ => by
    intro item member
    cases member
  | (name, tree) :: rest, fixed => by
    have spelled (entry : String × FileTree) (others : List (String × FileTree)) :
        (entryFiles path (entry :: others)).filterMap read =
          (entry.2.files (entryPath path entry.1) entry.1).filterMap read ++
            (entryFiles path others).filterMap read := by
      rw [← List.filterMap_append]
      rfl
    have behind : AllSame ((entryFiles path rest).filterMap read) := by
      refine allSame_of_fixed read path rest fun others relisted => ?_
      have same := fixed _ (relisted.cons (name, tree))
      rw [spelled, spelled] at same
      exact List.append_cancel_left same
    have infront : AllSame ((tree.files (entryPath path name) name).filterMap read) := by
      cases tree with
      | file content =>
        -- A file is read once at most.
        intro item isItem other isOther
        simp only [FileTree.files, List.mem_filterMap, List.mem_singleton, exists_eq_left]
          at isItem isOther
        exact Option.some.inj (isItem.symm.trans isOther)
      | folder inner =>
        refine allSame_of_fixed read (entryPath path name) inner fun others relisted => ?_
        have same := fixed _ (.folder relisted (.refl rest))
        rw [spelled, spelled] at same
        exact List.append_cancel_right same
    -- Listing the first entry last turns the two parts round.
    have turned := fixed (rest ++ [(name, tree)])
      (.of_perm (List.perm_append_singleton (name, tree) rest).symm)
    rw [entryFiles_append, List.filterMap_append, spelled (name, tree) [], spelled, entryFiles,
      List.filterMap_nil, List.append_nil] at turned
    rw [spelled]
    exact allSame_append infront behind turned

/-! ## Sorting by name -/

namespace RuleFile

def byName (file other : RuleFile) : Bool := decide (file.name ≤ other.name)

theorem byName_trans (first second third : RuleFile) (left : byName first second = true)
    (right : byName second third = true) : byName first third = true := by
  simp only [byName, decide_eq_true_eq] at left right ⊢
  exact String.le_trans left right

theorem byName_total (file other : RuleFile) : (byName file other || byName other file) = true := by
  simp only [byName, Bool.or_eq_true, decide_eq_true_eq]
  exact String.le_total file.name other.name

theorem pairwise_byName (files : List RuleFile) :
    (files.mergeSort byName).Pairwise fun file other => byName file other = true :=
  List.pairwise_mergeSort byName_trans byName_total files

/-- The sort keeps files of one name in their order. -/
theorem filter_mergeSort_byName (name : String) (files : List RuleFile) :
    (files.mergeSort byName).filter (·.name = name) = files.filter (·.name = name) := by
  have sorted : (files.filter (·.name = name)).Pairwise
      fun file other => byName file other = true := by
    refine List.pairwise_of_forall_mem_list fun file isFile other isOther => ?_
    simp only [List.mem_filter, decide_eq_true_eq] at isFile isOther
    simp only [byName, isFile.2, isOther.2, decide_eq_true_eq]
    exact String.le_refl name
  have kept := (List.sublist_mergeSort byName_trans byName_total sorted
    List.filter_sublist).filter (·.name = name)
  simp only [List.filter_filter, Bool.and_self] at kept
  exact (kept.eq_of_length ((List.mergeSort_perm files byName).filter _).length_eq.symm).symm

section Sorted

variable {files others : List RuleFile} (perm : files.Perm others)
include perm

theorem perm_mergeSort : (files.mergeSort byName).Perm (others.mergeSort byName) :=
  ((List.mergeSort_perm files byName).trans perm).trans (List.mergeSort_perm others byName).symm

theorem map_name_mergeSort :
    (files.mergeSort byName).map (·.name) = (others.mergeSort byName).map (·.name) := by
  have ascending (files : List RuleFile) :
      ((files.mergeSort byName).map (·.name)).Pairwise (· ≤ ·) :=
    List.pairwise_map.mpr ((pairwise_byName files).imp of_decide_eq_true)
  exact List.Perm.eq_of_pairwise (fun _ _ _ _ => String.le_antisymm) (ascending files)
    (ascending others) ((perm_mergeSort perm).map _)

/-- Files that their names tell apart are sorted in one way only. -/
theorem mergeSort_eq_of_perm
    (apart : ∀ file ∈ files, ∀ other ∈ files, file.name = other.name → file = other) :
    files.mergeSort byName = others.mergeSort byName := by
  refine List.Perm.eq_of_pairwise ?_ (pairwise_byName files) (pairwise_byName others)
    (perm_mergeSort perm)
  intro file other isFile isOther before after
  have sameName := String.le_antisymm (of_decide_eq_true before) (of_decide_eq_true after)
  exact apart file (List.mem_mergeSort.mp isFile) other
    (perm.mem_iff.mpr (List.mem_mergeSort.mp isOther)) sameName

end Sorted

/-! ## Loading -/

theorem ofFolder_eq_ok_iff (path : String) (entries : List (String × FileTree))
    (files : List RuleFile) :
    ofFolder path entries = .ok files ↔
      ∃ found, ofFiles (entryFiles path entries) = .ok found ∧ files = found.mergeSort byName := by
  unfold ofFolder
  cases ofFiles (entryFiles path entries) with
  | error fault => simp [Except.map]
  | ok found =>
    simp only [Except.map, Except.ok.injEq, exists_eq_left']
    exact eq_comm

theorem exists_ofFiles_of_perm {files others : List FoundFile} {found : List RuleFile}
    (perm : files.Perm others) (loaded : ofFiles files = .ok found) :
    ∃ refound, ofFiles others = .ok refound ∧ refound.Perm found := by
  rw [ofFiles, mapM_eq_ok_iff] at loaded
  obtain ⟨refound, read, reordered⟩ := List.perm_comp_forall₂ (perm.symm.filterMap _) loaded
  exact ⟨refound, (mapM_eq_ok_iff _ _).mpr read, reordered⟩

/-- The rule file that a file holds, if it is one and can be read. -/
def ofFound? (file : FoundFile) : Option RuleFile :=
  (RuleFormat.ofName? file.name).bind fun format => (ofFound file format).toOption

theorem eq_filterMap_of_ofFiles {files : List FoundFile} {found : List RuleFile}
    (loaded : ofFiles files = .ok found) : found = files.filterMap ofFound? := by
  rw [ofFiles, mapM_eq_ok_iff] at loaded
  have read {items : List (FoundFile × RuleFormat)} {results : List RuleFile}
      (each : List.Forall₂ (fun item result => ofFound item.1 item.2 = .ok result) items results) :
      results = items.filterMap fun item => (ofFound item.1 item.2).toOption := by
    induction each with
    | nil => rfl
    | cons here _ ih => rw [List.filterMap_cons, here, ← ih]; rfl
  rw [read loaded, List.filterMap_filterMap]
  congr 1
  funext file
  rw [ofFound?]
  cases RuleFormat.ofName? file.name <;> rfl

/-- A folder that is loaded alike under every listing holds no two different rule files of one
name. -/
theorem eq_of_name_of_fixed {path : String} {entries : List (String × FileTree)}
    {files : List RuleFile}
    (fixed : ∀ others, Relisted entries others → ofFolder path others = .ok files) :
    ∀ file ∈ files, ∀ other ∈ files, file.name = other.name → file = other := by
  intro file isFile other isOther sameName
  -- The sort keeps files of one name in order, so where the sorted list is fixed, the order in
  -- which the folder lists them is fixed as well.
  have spelled {others : List (String × FileTree)} (relisted : Relisted entries others) :
      (entryFiles path others).filterMap
          (fun found => (ofFound? found).filter (·.name = file.name)) =
        files.filter (·.name = file.name) := by
    obtain ⟨found, loaded, sorted⟩ :=
      (ofFolder_eq_ok_iff path others files).mp (fixed others relisted)
    rw [sorted, filter_mergeSort_byName, eq_filterMap_of_ofFiles loaded, List.filter_filterMap]
  have same := allSame_of_fixed _ path entries fun others relisted =>
    (spelled relisted).trans (spelled (.refl entries)).symm
  rw [spelled (.refl entries)] at same
  exact same file (List.mem_filter.mpr ⟨isFile, by simp⟩) other
    (List.mem_filter.mpr ⟨isOther, by simpa using sameName.symm⟩)

/-- If the rule files of a folder can be loaded under one listing, they can be loaded under all.
The same files are found, with the same names in the same places, and so the same cases are
run. They come in one order under all listings just when no two different files have one name. -/
theorem ofFolder_relisted (path : String) (entries : List (String × FileTree))
    (files : List RuleFile) (loaded : ofFolder path entries = .ok files) :
    (∀ others, Relisted entries others →
      ∃ found, ofFolder path others = .ok found ∧ found.Perm files ∧
        found.map (·.name) = files.map (·.name) ∧
        ∀ tokenize options, (Report.ofFiles tokenize options found).cases.Perm
          (Report.ofFiles tokenize options files).cases) ∧
    ((∀ others, Relisted entries others → ofFolder path others = .ok files) ↔
      ∀ file ∈ files, ∀ other ∈ files, file.name = other.name → file = other) := by
  obtain ⟨listed, read, rfl⟩ := (ofFolder_eq_ok_iff path entries files).mp loaded
  have reread {others : List (String × FileTree)} (relisted : Relisted entries others) :
      ∃ refound : List RuleFile, ofFolder path others = .ok (refound.mergeSort byName) ∧
        refound.Perm listed := by
    obtain ⟨refound, again, perm⟩ :=
      exists_ofFiles_of_perm (relisted.perm_entryFiles path) read
    exact ⟨refound, (ofFolder_eq_ok_iff path others _).mpr ⟨refound, again, rfl⟩, perm⟩
  refine ⟨?_, eq_of_name_of_fixed, ?_⟩
  · intro others relisted
    obtain ⟨refound, again, perm⟩ := reread relisted
    refine ⟨_, again, perm_mergeSort perm, map_name_mergeSort perm, ?_⟩
    intro tokenize options
    rw [Report.cases_ofFiles, Report.cases_ofFiles]
    exact (perm_mergeSort perm).flatMap_right _
  · intro apart others relisted
    obtain ⟨refound, again, perm⟩ := reread relisted
    have same := mergeSort_eq_of_perm perm.symm fun file isFile other isOther =>
      apart file (List.mem_mergeSort.mpr isFile) other (List.mem_mergeSort.mpr isOther)
    rw [again, same]

/-- The folder inside may be listed before the file or after it. -/
theorem ofFolder_relisted_drinks :
    let coffee : FileTree := .file "[\"coffee\",[\"coffee[noun]\"]]".toUTF8.toList
    let tea : FileTree := .file "[\"tea\",[\"tea[noun]\"]]".toUTF8.toList
    let entries := [("coffee.json", coffee), ("hot", .folder [("tea.json", tea)])]
    let others := [("hot", .folder [("tea.json", tea)]), ("coffee.json", coffee)]
    let files : List RuleFile :=
      [⟨"coffee", [⟨some "coffee", "noun", none⟩], []⟩, ⟨"tea", [⟨some "tea", "noun", none⟩], []⟩]
    ofFolder "rules" entries = .ok files ∧ Relisted entries others ∧
    ofFolder "rules" others = .ok files := by
  intro coffee tea entries others files
  have loaded : ofFolder "rules" entries = .ok files :=
    (ofFolder_eq_ok_iff "rules" entries files).mpr
      ⟨files, by decide +kernel, (List.mergeSort_of_pairwise (by decide +kernel)).symm⟩
  have relisted : Relisted entries others := .swap
  have fixed := (ofFolder_relisted "rules" entries files loaded).2.mpr (by decide +kernel)
  exact ⟨loaded, relisted, fixed others relisted⟩

/-- Three rule files of one name, two of them alike, stay as the folder lists them. -/
theorem ofFolder_one_name :
    let coffee : FileTree := .file "[\"drinks\",[\"coffee[noun]\"]]".toUTF8.toList
    let tea : FileTree := .file "[\"drinks\",[\"tea[noun]\"]]".toUTF8.toList
    let listed := [("a.json", coffee), ("b.json", tea), ("c.json", coffee)]
    let relisted := [("a.json", coffee), ("c.json", coffee), ("b.json", tea)]
    let coffeeRules : RuleFile := ⟨"drinks", [⟨some "coffee", "noun", none⟩], []⟩
    let teaRules : RuleFile := ⟨"drinks", [⟨some "tea", "noun", none⟩], []⟩
    Relisted listed relisted ∧
    ofFolder "rules" listed = .ok [coffeeRules, teaRules, coffeeRules] ∧
    ofFolder "rules" relisted = .ok [coffeeRules, coffeeRules, teaRules] ∧
    [coffeeRules, teaRules, coffeeRules] ≠ [coffeeRules, coffeeRules, teaRules] := by
  intro coffee tea listed relisted coffeeRules teaRules
  refine ⟨.file .swap, ?_, ?_, by decide⟩
  · exact (ofFolder_eq_ok_iff _ _ _).mpr
      ⟨_, by decide +kernel, (List.mergeSort_of_pairwise (by decide +kernel)).symm⟩
  · exact (ofFolder_eq_ok_iff _ _ _).mpr
      ⟨_, by decide +kernel, (List.mergeSort_of_pairwise (by decide +kernel)).symm⟩

end RuleFile

end SlotFilling
