import SlotFilling.Report.Basic
import SlotFilling.Text.Quoted

/-!
# Report summaries

The summary for readers: each case that did not pass with both outcomes, and a
table of the counts.
-/
namespace SlotFilling

/-- A text at the right end of some number of columns. -/
def atRight (columns : Nat) (text : String) : String :=
  "".pushn ' ' (columns - text.length) ++ text

def Outcome.display (outcome : Outcome) : String :=
  let args := outcome.args.entries.map fun entry =>
    Text.quoted entry.1 ++ ": " ++ Text.quoted entry.2
  "Outcome \x7b matched: " ++ (if outcome.matched then "true" else "false") ++ ", args: \x7b" ++
    ", ".intercalate args ++ "\x7d \x7d"

def Verdict.label : Verdict → String
  | .pass => "PASS"
  | .fail => "FAIL"
  | .error => "ERROR"

def CaseResult.summary (result : CaseResult) : List String :=
  ["[" ++ result.verdict.label ++ "] " ++ result.rule ++ ": " ++ Text.quoted result.input,
   "    expected: " ++ result.expected.display,
   "    actual:   " ++ result.actual.display] ++
    (result.fault.map fun fault => "    error:    " ++ fault.message).toList

namespace Report

def table (report : Report) : List String :=
  let counts := [report.testCount, report.passed, report.failed, report.errors]
  let row (cells : List String) (last : String) : String :=
    " ".intercalate (cells.map (atRight 8) ++ [last])
  [row ["Total", "Passed", "Failed", "Errors"] (atRight 10 "PassRate"),
   "".pushn '-' 80,
   row (counts.map toString) (atRight 9 report.passRate.oneDecimalText ++ "%")]

/-- The lines of the summary. -/
def summary (report : Report) : List String :=
  let rule := "".pushn '=' 80
  ["", rule, "TEST SUMMARY", rule] ++
    (report.cases.filter (·.verdict != .pass)).flatMap CaseResult.summary ++
    "" :: report.table

end Report

end SlotFilling
