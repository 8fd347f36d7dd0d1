import SlotFilling.RuleFile.Basic
import SlotFilling.Search

/-!
# Test reports

Every test case of every rule file is searched with the rules of its file. A case
passes if the first alignment is as expected; a search that fails is an error and
counts as no alignment. The report lists the cases in the order of the files and
of their tests, and counts the verdicts as the cases come in.
-/
namespace SlotFilling

inductive Verdict where
  | pass
  | fail
  | error
  deriving DecidableEq, Repr

structure CaseResult where
  rule : String
  input : String
  expected : Outcome
  actual : Outcome
  alignments : Nat
  verdict : Verdict
  fault : Option Fault
  deriving DecidableEq

@[ext]
structure Report where
  /-- The number of rule files. -/
  ruleCount : Nat
  testCount : Nat := 0
  passed : Nat := 0
  failed : Nat := 0
  errors : Nat := 0
  cases : List CaseResult := []
  deriving DecidableEq

/-- The outcome of a search: the texts of the first alignment. -/
def Outcome.ofAlignments : List RuleSet → Outcome
  | [] => .unmatched
  | first :: _ => ⟨true, first.bindings.mapValues SlotValue.display⟩

/-- Search one sentence and compare. -/
def TestCase.run (tokenize : String → List Token) (options : SearchOptions) (rule : String)
    (rules : RuleSet) (test : TestCase) : CaseResult :=
  match search options (tokenize test.input) rules with
  | .error fault => ⟨rule, test.input, test.expected, .unmatched, 0, .error, some fault⟩
  | .ok alignments =>
    let actual := Outcome.ofAlignments alignments
    ⟨rule, test.input, test.expected, actual, alignments.length,
      if actual.meets test.expected then .pass else .fail, none⟩

/-- Run the tests of one file. -/
def RuleFile.run (tokenize : String → List Token) (options : SearchOptions) (file : RuleFile) :
    List CaseResult :=
  file.tests.map (·.run tokenize options file.name (RuleSet.ofPatterns file.patterns))

namespace Report

/-- Put a case behind the others and count its verdict. -/
def add (report : Report) (result : CaseResult) : Report :=
  let listed := { report with cases := report.cases ++ [result] }
  match result.verdict with
  | .pass => { listed with passed := listed.passed + 1 }
  | .fail => { listed with failed := listed.failed + 1 }
  | .error => { listed with errors := listed.errors + 1 }

/-- Run the tests of some files. -/
def ofFiles (tokenize : String → List Token) (options : SearchOptions) (files : List RuleFile) :
    Report :=
  let report := files.foldl (fun report file => (file.run tokenize options).foldl add report)
    { ruleCount := files.length }
  { report with testCount := report.cases.length }

/-- The number of cases that did not pass. -/
def unpassed (report : Report) : Nat := report.failed + report.errors

/-- The share of passed tests in percent; zero if there are none. -/
def passRate (report : Report) : Binary64 :=
  if report.testCount = 0 then ⟨0⟩
  else Binary64.nearest false (report.passed * 100) report.testCount

end Report

end SlotFilling
