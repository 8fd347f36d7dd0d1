import SlotFilling.Dictionary
import SlotFilling.Pattern.Basic

/-!
# Rule files

A rule file names a list of patterns and may hold test cases: sentences together
with what the rules have to find in them.
-/
namespace SlotFilling

/-- What the rules find in a sentence: whether there is an alignment, and the texts
that the slots of the first one receive. -/
structure Outcome where
  matched : Bool
  args : Dictionary String
  deriving DecidableEq

namespace Outcome

/-- No alignment. -/
def unmatched : Outcome := ⟨false, Dictionary.empty⟩

/-- Whether an outcome is as expected. Slots that are not asked for may have any text. -/
def meets (actual expected : Outcome) : Bool :=
  expected.matched == actual.matched &&
    expected.args.entries.all fun entry => actual.args.get? entry.1 == some entry.2

end Outcome

structure TestCase where
  input : String
  expected : Outcome
  deriving DecidableEq

structure RuleFile where
  name : String
  patterns : List Pattern
  tests : List TestCase
  deriving DecidableEq

/-- Where nothing is said, a test case expects an alignment with any texts. -/
def TestCase.ofParts (input : String) (args : Option (Dictionary String)) (matched : Option Bool) :
    TestCase :=
  ⟨input, ⟨matched.getD true, args.getD Dictionary.empty⟩⟩

end SlotFilling
