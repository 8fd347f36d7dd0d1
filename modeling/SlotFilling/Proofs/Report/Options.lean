import SlotFilling.Proofs.Report.Accounts
import SlotFilling.Proofs.Report.Cases

/-!
# Reports under other options

A case looks at the first alignment only. That one is found whatever may overlap it and
however short a limit cuts the list, as long as an alignment is wanted at all. So two reports
of searches that skip tokens without a value count different numbers of alignments at most,
and agree in everything that they say about the tests.
-/
namespace SlotFilling

/-- A search with these options returns, and the first alignment is among its results. -/
structure SearchOptions.FindsFirst (options : SearchOptions) : Prop where
  skips : options.onMismatch = .skipToken
  wanted : options.limit ≠ some 0

/-- Two cases are the same but for the number of alignments. -/
structure CaseResult.Agrees (left right : CaseResult) : Prop where
  rule : left.rule = right.rule
  input : left.input = right.input
  expected : left.expected = right.expected
  actual : left.actual = right.actual
  verdict : left.verdict = right.verdict
  fault : left.fault = right.fault

/-- Two reports are the same but for the numbers of alignments of their cases. -/
structure Report.Agrees (left right : Report) : Prop where
  ruleCount : left.ruleCount = right.ruleCount
  testCount : left.testCount = right.testCount
  passed : left.passed = right.passed
  failed : left.failed = right.failed
  errors : left.errors = right.errors
  cases : List.Forall₂ CaseResult.Agrees left.cases right.cases

/-! ## One case -/

theorem Outcome.ofAlignments_congr {left right : List RuleSet} (same : left.head? = right.head?) :
    ofAlignments left = ofAlignments right := by
  cases left with
  | nil =>
    rw [List.head?_nil, eq_comm, List.head?_eq_none_iff] at same
    rw [same]
  | cons first later =>
    rw [List.head?_cons, eq_comm, List.head?_eq_some_iff] at same
    obtain ⟨others, rfl⟩ := same
    rfl

theorem length_selected_le {options : SearchOptions} {most : Nat}
    (limited : options.limit = some most) (results : List RuleSet) :
    (selected options results).length ≤ most := by
  rw [selected, limited]
  exact List.length_take_le most _

namespace TestCase

variable {left right : SearchOptions}

theorem run_agrees (leftFinds : left.FindsFirst) (rightFinds : right.FindsFirst)
    (tokenize : String → List Token) (name : String) (rules : RuleSet) (test : TestCase) :
    (test.run tokenize left name rules).Agrees (test.run tokenize right name rules) := by
  by_cases empty : rules = []
  · -- A search without rules fails under all options.
    subst empty
    exact ⟨rfl, rfl, rfl, rfl, rfl, rfl⟩
  · have returned {options : SearchOptions} (finds : options.FindsFirst) :
        search options (tokenize test.input) rules =
          .ok (selected options (alignments rules.patterns (tokenize test.input))) := by
      have ending := search_ending options (tokenize test.input) rules empty
      rw [finds.skips] at ending
      exact ending.eq_ok_of_skipToken
    have same := Outcome.ofAlignments_congr ((head?_selected left leftFinds.wanted _).trans
      (head?_selected right rightFinds.wanted
        (alignments rules.patterns (tokenize test.input))).symm)
    rw [run, run, returned leftFinds, returned rightFinds]
    constructor
    case actual => exact same
    case verdict => simp only [same]
    all_goals rfl

/-- Under every policy a case counts no more alignments than are wanted. -/
theorem alignments_run_le {options : SearchOptions} {most : Nat}
    (limited : options.limit = some most) (tokenize : String → List Token) (name : String)
    (rules : RuleSet) (test : TestCase) :
    (test.run tokenize options name rules).alignments ≤ most := by
  rw [run]
  cases answer : search options (tokenize test.input) rules with
  | error fault => exact Nat.zero_le most
  | ok found =>
    rw [(eq_selected_of_search answer).2]
    exact length_selected_le limited _

end TestCase

/-! ## All cases -/

namespace Report

theorem cases_agree {left right : SearchOptions} (leftFinds : left.FindsFirst)
    (rightFinds : right.FindsFirst) (tokenize : String → List Token) (files : List RuleFile) :
    List.Forall₂ CaseResult.Agrees (ofFiles tokenize left files).cases
      (ofFiles tokenize right files).cases := by
  rw [cases_ofFiles, cases_ofFiles, RuleFile.flatMap_run, RuleFile.flatMap_run,
    List.forall₂_map_left_iff, List.forall₂_map_right_iff, List.forall₂_same]
  exact fun assigned _ => assigned.2.run_agrees leftFinds rightFinds tokenize _ _

theorem countP_eq_of_agree {left right : List CaseResult}
    (agree : List.Forall₂ CaseResult.Agrees left right) (verdict : Verdict) :
    left.countP (·.verdict = verdict) = right.countP (·.verdict = verdict) := by
  induction agree with
  | nil => rfl
  | cons same _ ih => rw [List.countP_cons, List.countP_cons, ih, same.verdict]

theorem alignments_le {options : SearchOptions} {most : Nat} (limited : options.limit = some most)
    (tokenize : String → List Token) (files : List RuleFile) :
    ∀ result ∈ (ofFiles tokenize options files).cases, result.alignments ≤ most := by
  rw [cases_ofFiles, RuleFile.flatMap_run]
  intro result member
  obtain ⟨assigned, _, rfl⟩ := List.mem_map.mp member
  exact assigned.2.alignments_run_le limited tokenize _ _

/-- Reports of searches that skip tokens without a value, and that want an alignment, agree
whatever they do about overlaps and whatever their limits are. Only the numbers of alignments
may differ, and none exceeds its limit. -/
theorem ofFiles_agrees (tokenize : String → List Token) (files : List RuleFile)
    (left right : SearchOptions) (leftFinds : left.FindsFirst) (rightFinds : right.FindsFirst) :
    (ofFiles tokenize left files).Agrees (ofFiles tokenize right files) ∧
    (∀ most, left.limit = some most →
      ∀ result ∈ (ofFiles tokenize left files).cases, result.alignments ≤ most) ∧
    ∀ most, right.limit = some most →
      ∀ result ∈ (ofFiles tokenize right files).cases, result.alignments ≤ most := by
  -- Counting verdicts does not look at anything else that a case says.
  have agree := cases_agree leftFinds rightFinds tokenize files
  have same (verdict : Verdict) : (ofFiles tokenize left files).tally verdict =
      (ofFiles tokenize right files).tally verdict := by
    rw [tally_ofFiles, tally_ofFiles]
    exact countP_eq_of_agree agree verdict
  refine ⟨?_, fun _ limited => alignments_le limited tokenize files,
    fun _ limited => alignments_le limited tokenize files⟩
  constructor
  case ruleCount => rw [ruleCount_ofFiles, ruleCount_ofFiles]
  case testCount => exact agree.length_eq
  case passed => exact same .pass
  case failed => exact same .fail
  case errors => exact same .error
  case cases => exact agree

/-- The first reminder finds its date beyond the second one, so one search counts three
alignments and the other one. -/
theorem ofFiles_agrees_reminders :
    let files : List RuleFile := [⟨"reminders", reminderRules.patterns,
      [⟨"", ⟨true, .ofList [("when", "2026-05-10")]⟩⟩, ⟨"", .unmatched⟩]⟩]
    let all := ofFiles (fun _ => reminders) ⟨.skipToken, .keep, none⟩ files
    let first := ofFiles (fun _ => reminders) ⟨.skipToken, .suppress, some 1⟩ files
    SearchOptions.FindsFirst ⟨.skipToken, .keep, none⟩ ∧
    SearchOptions.FindsFirst ⟨.skipToken, .suppress, some 1⟩ ∧
    all.Agrees first ∧ first.passed = 1 ∧ first.failed = 1 ∧
    all.cases.map (·.alignments) = [3, 3] ∧ first.cases.map (·.alignments) = [1, 1] ∧
    ∀ result ∈ first.cases, result.alignments ≤ 1 := by
  intro files all first
  have allFinds : SearchOptions.FindsFirst ⟨.skipToken, .keep, none⟩ := ⟨rfl, by decide⟩
  have firstFinds : SearchOptions.FindsFirst ⟨.skipToken, .suppress, some 1⟩ := ⟨rfl, by decide⟩
  obtain ⟨agrees, _, bounded⟩ :=
    ofFiles_agrees (fun _ => reminders) files _ _ allFinds firstFinds
  exact ⟨allFinds, firstFinds, agrees, by decide +kernel, by decide +kernel, by decide +kernel,
    by decide +kernel, bounded 1 rfl⟩

end Report

end SlotFilling
