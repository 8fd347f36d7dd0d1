import SlotFilling.CommandLine.Run
import Mathlib.Data.List.Forall2

/-!
# What a report accounts for

A report is filled by two nested loops, over the files and over the tests of each file. Every
step puts one case behind the others and counts its verdict, so the counts are those of the
cases listed so far. In the end each test of each file has its own case, and the report over
two lists of files is the sum of the reports over either.
-/
namespace SlotFilling

/-! ## Cases -/

/-- A case is that of a test of some file: it names both, and it is an error just when the
search of the sentence fails. -/
structure CaseResult.Records (tokenize : String → List Token) (options : SearchOptions)
    (file : RuleFile) (test : TestCase) (result : CaseResult) : Prop where
  rule : result.rule = file.name
  input : result.input = test.input
  expected : result.expected = test.expected
  error_iff : result.verdict = .error ↔
    ∃ fault, search options (tokenize test.input) (.ofPatterns file.patterns) = .error fault
  failed : ∀ fault,
    search options (tokenize test.input) (.ofPatterns file.patterns) = .error fault →
    result.actual = .unmatched ∧ result.alignments = 0 ∧ result.fault = some fault

theorem TestCase.run_records (tokenize : String → List Token) (options : SearchOptions)
    (file : RuleFile) (test : TestCase) :
    CaseResult.Records tokenize options file test
      (test.run tokenize options file.name (.ofPatterns file.patterns)) := by
  unfold TestCase.run
  cases answer : search options (tokenize test.input) (.ofPatterns file.patterns) with
  | error fault =>
    constructor
    case error_iff => exact ⟨fun _ => ⟨fault, answer⟩, fun _ => rfl⟩
    case failed =>
      intro other failed
      cases answer.symm.trans failed
      exact ⟨rfl, rfl, rfl⟩
    all_goals rfl
  | ok found =>
    constructor
    case error_iff =>
      -- A search that returns is judged by its outcome, and that judgement is no error.
      constructor
      · intro verdict
        simp only at verdict
        split at verdict <;> cases verdict
      · rintro ⟨fault, failed⟩
        cases answer.symm.trans failed
    case failed =>
      intro fault failed
      cases answer.symm.trans failed
    all_goals rfl

/-- The tests of some files in order, each with its file. -/
def RuleFile.allTests (files : List RuleFile) : List (RuleFile × TestCase) :=
  files.flatMap fun file => file.tests.map (file, ·)

theorem RuleFile.flatMap_run (tokenize : String → List Token) (options : SearchOptions)
    (files : List RuleFile) :
    files.flatMap (RuleFile.run tokenize options) =
      (allTests files).map fun (file, test) =>
        test.run tokenize options file.name (.ofPatterns file.patterns) := by
  simp only [allTests, List.map_flatMap, List.map_map]
  rfl

namespace Report

/-! ## One step -/

/-- The count of a verdict. -/
def tally (report : Report) : Verdict → Nat
  | .pass => report.passed
  | .fail => report.failed
  | .error => report.errors

theorem cases_add (report : Report) (result : CaseResult) :
    (report.add result).cases = report.cases ++ [result] := by
  unfold add
  cases result.verdict <;> rfl

theorem ruleCount_add (report : Report) (result : CaseResult) :
    (report.add result).ruleCount = report.ruleCount := by
  unfold add
  cases result.verdict <;> rfl

theorem tally_add (report : Report) (result : CaseResult) (verdict : Verdict) :
    (report.add result).tally verdict =
      report.tally verdict + if result.verdict = verdict then 1 else 0 := by
  unfold add
  cases result.verdict <;> cases verdict <;> rfl

/-! ## The whole run -/

theorem cases_foldl_add (results : List CaseResult) (report : Report) :
    (results.foldl add report).cases = report.cases ++ results := by
  induction results generalizing report with
  | nil => exact (List.append_nil _).symm
  | cons result later ih => rw [List.foldl_cons, ih, cases_add, List.append_assoc]; rfl

theorem ruleCount_foldl_add (results : List CaseResult) (report : Report) :
    (results.foldl add report).ruleCount = report.ruleCount := by
  induction results generalizing report with
  | nil => rfl
  | cons result later ih => rw [List.foldl_cons, ih, ruleCount_add]

theorem tally_foldl_add (results : List CaseResult) (report : Report) (verdict : Verdict) :
    (results.foldl add report).tally verdict =
      report.tally verdict + results.countP (·.verdict = verdict) := by
  induction results generalizing report with
  | nil => rfl
  | cons result later ih =>
    rw [List.foldl_cons, ih, tally_add, List.countP_cons, Nat.add_assoc]
    simp only [decide_eq_true_eq, Nat.add_comm]

section OfFiles

variable (tokenize : String → List Token) (options : SearchOptions) (files more : List RuleFile)

/-- The two loops are one over the cases of all files. -/
theorem ofFiles_eq_foldl :
    ofFiles tokenize options files =
      let report := (files.flatMap (RuleFile.run tokenize options)).foldl add
        { ruleCount := files.length }
      { report with testCount := report.cases.length } := by
  rw [List.foldl_flatMap]
  rfl

theorem cases_ofFiles :
    (ofFiles tokenize options files).cases = files.flatMap (RuleFile.run tokenize options) := by
  rw [ofFiles_eq_foldl]
  exact cases_foldl_add _ _

theorem ruleCount_ofFiles : (ofFiles tokenize options files).ruleCount = files.length := by
  rw [ofFiles_eq_foldl]
  exact ruleCount_foldl_add _ _

theorem testCount_ofFiles :
    (ofFiles tokenize options files).testCount = (ofFiles tokenize options files).cases.length :=
  rfl

theorem tally_ofFiles (verdict : Verdict) :
    (ofFiles tokenize options files).tally verdict =
      (ofFiles tokenize options files).cases.countP (·.verdict = verdict) := by
  have counted := tally_foldl_add (files.flatMap (RuleFile.run tokenize options))
    { ruleCount := files.length } verdict
  have empty : ({ ruleCount := files.length } : Report).tally verdict = 0 := by
    cases verdict <;> rfl
  rw [empty, Nat.zero_add] at counted
  rw [cases_ofFiles, ← counted, ofFiles_eq_foldl]
  cases verdict <;> rfl

/-- The report that lists the cases of one report and then those of another. -/
def append (report more : Report) : Report where
  ruleCount := report.ruleCount + more.ruleCount
  testCount := report.testCount + more.testCount
  passed := report.passed + more.passed
  failed := report.failed + more.failed
  errors := report.errors + more.errors
  cases := report.cases ++ more.cases

theorem ofFiles_append :
    ofFiles tokenize options (files ++ more) =
      (ofFiles tokenize options files).append (ofFiles tokenize options more) := by
  -- The cases settle the rest, as every count is that of a verdict among them.
  have listed : (ofFiles tokenize options (files ++ more)).cases =
      (ofFiles tokenize options files).cases ++ (ofFiles tokenize options more).cases := by
    rw [cases_ofFiles, cases_ofFiles, cases_ofFiles, List.flatMap_append]
  have counted (verdict : Verdict) : (ofFiles tokenize options (files ++ more)).tally verdict =
      (ofFiles tokenize options files).tally verdict +
        (ofFiles tokenize options more).tally verdict := by
    rw [tally_ofFiles, tally_ofFiles, tally_ofFiles, listed, List.countP_append]
  apply Report.ext
  case ruleCount =>
    rw [append, ruleCount_ofFiles, ruleCount_ofFiles, ruleCount_ofFiles, List.length_append]
  case testCount =>
    rw [append, testCount_ofFiles, testCount_ofFiles, testCount_ofFiles, listed,
      List.length_append]
  case passed => exact counted .pass
  case failed => exact counted .fail
  case errors => exact counted .error
  case cases => exact listed

/-- Every case has one of the three verdicts. -/
theorem countP_verdicts (results : List CaseResult) :
    results.countP (·.verdict = .pass) + results.countP (·.verdict = .fail) +
      results.countP (·.verdict = .error) = results.length := by
  induction results with
  | nil => rfl
  | cons result later ih =>
    simp only [List.countP_cons, List.length_cons]
    cases result.verdict <;> simp <;> omega

theorem unpassed_eq_zero_iff :
    (ofFiles tokenize options files).unpassed = 0 ↔
      ∀ result ∈ (ofFiles tokenize options files).cases, result.verdict = .pass := by
  have failed := tally_ofFiles tokenize options files .fail
  have errors := tally_ofFiles tokenize options files .error
  simp only [tally] at failed errors
  rw [unpassed, Nat.add_eq_zero_iff, failed, errors, List.countP_eq_zero, List.countP_eq_zero,
    ← forall₂_and]
  refine forall₂_congr fun result _ => ?_
  cases result.verdict <;> simp

end OfFiles

end Report

/-! ## The command line -/

namespace CommandLine.Arguments

/-- The lexicon of a run and the rule files of its folder have been loaded. -/
structure Loads (arguments : Arguments) (sources : Sources) (year : Int) (tagger : Tagger)
    (files : List RuleFile) : Prop where
  tagger : arguments.tagger sources year = .ok tagger
  files : ∃ path entries, arguments.rules = some path ∧ sources.rules = .ok entries ∧
    RuleFile.ofFolder path entries = .ok files

variable {arguments : Arguments} {sources : Sources} {year : Int} {tagger : Tagger}
  {files : List RuleFile}

theorem run_of_loads (loads : arguments.Loads sources year tagger files) :
    arguments.run sources year = arguments.testFiles tagger files := by
  obtain ⟨path, entries, named, opened, loaded⟩ := loads.files
  simp only [run, loads.tagger, named, opened, loaded, bind, Except.bind]
  rfl

theorem code_testFiles (arguments : Arguments) (tagger : Tagger) (files : List RuleFile) :
    (arguments.testFiles tagger files).code = 0 ↔
      (Report.ofFiles tagger.tokenize arguments.searchOptions files).unpassed = 0 := by
  simp only [testFiles, Run.code]
  by_cases passed :
      (Report.ofFiles tagger.tokenize arguments.searchOptions files).unpassed = 0 <;>
    simp [passed]

end CommandLine.Arguments

/-- A report has one case for each test of each file, in order. Its counts are those of the
verdicts of the cases and add up to all of them, and a case is an error just when its search
fails. The report over more files adds the cases of those files and their counts. A run of the
command line over a folder of rules succeeds just when every case passes. -/
theorem Report.ofFiles_accounts (tokenize : String → List Token) (options : SearchOptions)
    (files : List RuleFile) :
    let report := Report.ofFiles tokenize options files
    List.Forall₂ (fun assigned => CaseResult.Records tokenize options assigned.1 assigned.2)
      (RuleFile.allTests files) report.cases ∧
    report.ruleCount = files.length ∧ report.testCount = report.cases.length ∧
    report.passed = report.cases.countP (·.verdict = .pass) ∧
    report.failed = report.cases.countP (·.verdict = .fail) ∧
    report.errors = report.cases.countP (·.verdict = .error) ∧
    report.passed + report.failed + report.errors = report.testCount ∧
    (∀ more, Report.ofFiles tokenize options (files ++ more) =
      report.append (Report.ofFiles tokenize options more)) ∧
    ∀ (arguments : CommandLine.Arguments) (sources : CommandLine.Sources) (year : Int)
      (tagger : Tagger), arguments.Loads sources year tagger files →
      ((arguments.run sources year).code = 0 ↔
        ∀ result ∈ (Report.ofFiles tagger.tokenize arguments.searchOptions files).cases,
          result.verdict = .pass) := by
  intro report
  have passed : report.passed = _ := tally_ofFiles tokenize options files .pass
  have failed : report.failed = _ := tally_ofFiles tokenize options files .fail
  have errors : report.errors = _ := tally_ofFiles tokenize options files .error
  have recorded : List.Forall₂
      (fun assigned => CaseResult.Records tokenize options assigned.1 assigned.2)
      (RuleFile.allTests files) report.cases := by
    rw [cases_ofFiles, RuleFile.flatMap_run, List.forall₂_map_right_iff, List.forall₂_same]
    exact fun assigned _ => assigned.2.run_records tokenize options assigned.1
  refine ⟨recorded, ruleCount_ofFiles tokenize options files, rfl, passed, failed, errors, ?_,
    ofFiles_append tokenize options files, ?_⟩
  · rw [passed, failed, errors]
    exact countP_verdicts report.cases
  · intro arguments sources year tagger loads
    rw [CommandLine.Arguments.run_of_loads loads, CommandLine.Arguments.code_testFiles]
    exact unpassed_eq_zero_iff tagger.tokenize arguments.searchOptions files

/-- Of two tests the first one passes, so the run fails. -/
theorem Report.ofFiles_accounts_tea :
    let arguments : CommandLine.Arguments := { rules := some "rules", year := some 2026 }
    let content := "[\"tea\",[\"tea[noun]\"],[[\"black tea\"],[\"coffee\"]]]".toUTF8.toList
    let sources : CommandLine.Sources := ⟨.ok [], .ok [("tea.json", .file content)]⟩
    let tagger : Tagger := ⟨Lexicon.english, 2026⟩
    let files : List RuleFile := [⟨"tea", [⟨some "tea", "noun", none⟩],
      [⟨"black tea", true, .empty⟩, ⟨"coffee", true, .empty⟩]⟩]
    let report := Report.ofFiles tagger.tokenize arguments.searchOptions files
    arguments.Loads sources 2026 tagger files ∧
    report.passed = 1 ∧ report.failed = 1 ∧ report.errors = 0 ∧ report.testCount = 2 ∧
    (arguments.run sources 2026).code ≠ 0 := by
  intro arguments content sources tagger files report
  have loads : arguments.Loads sources 2026 tagger files :=
    ⟨rfl, "rules", _, rfl, rfl, by decide +kernel⟩
  have verdicts : report.cases.map (·.verdict) = [.pass, .fail] := by decide +kernel
  obtain ⟨_, _, tests, passed, failed, errors, _, _, code⟩ :=
    Report.ofFiles_accounts tagger.tokenize arguments.searchOptions files
  have counted (verdict : Verdict) : report.cases.countP (·.verdict = verdict) =
      [Verdict.pass, .fail].countP (· = verdict) := by
    rw [← verdicts, List.countP_map]
    rfl
  refine ⟨loads, passed.trans (counted .pass), failed.trans (counted .fail),
    errors.trans (counted .error), tests.trans ?_, ?_⟩
  · rw [← List.length_map (·.verdict), verdicts]
    rfl
  · rw [Ne, code arguments sources 2026 tagger loads]
    intro passes
    have failing : Verdict.fail ∈ report.cases.map (·.verdict) := by rw [verdicts]; simp
    obtain ⟨result, member, isFail⟩ := List.mem_map.mp failing
    rw [passes result member] at isFail
    cases isFail

end SlotFilling
