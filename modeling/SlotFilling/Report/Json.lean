import SlotFilling.Json.Basic
import SlotFilling.Report.Basic

/-!
# Reports as JSON

A case has a member for a fault only if its search failed.
-/
namespace SlotFilling

def Outcome.toJson (outcome : Outcome) : Json :=
  .object [("matched", .bool outcome.matched),
    ("args", .object (outcome.args.mapValues Json.text).entries)]

def Verdict.name : Verdict → String
  | .pass => "pass"
  | .fail => "fail"
  | .error => "error"

def CaseResult.toJson (result : CaseResult) : Json :=
  .object ([("rule", .text result.rule), ("input", .text result.input),
    ("expected", result.expected.toJson), ("actual", result.actual.toJson),
    ("alignments", .natural result.alignments), ("status", .text result.verdict.name)] ++
    (result.fault.map fun fault => ("error", Json.text fault.message)).toList)

def Report.toJson (report : Report) : Json :=
  .object [("rule_count", .natural report.ruleCount), ("test_count", .natural report.testCount),
    ("passed", .natural report.passed), ("failed", .natural report.failed),
    ("errors", .natural report.errors), ("cases", .list (report.cases.map CaseResult.toJson))]

end SlotFilling
