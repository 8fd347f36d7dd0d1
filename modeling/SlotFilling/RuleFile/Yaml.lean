import SlotFilling.RuleFile.Basic
import SlotFilling.Yaml.Decode

/-!
# Rule files in YAML

A record is a mapping that gives every field at most once; other keys are passed
over.
-/
namespace SlotFilling.Yaml.Node

def asTestCase (node : Node) : Decoding TestCase := do
  let record ← node.asRecord ["input", "args", "matched"]
  let input ← field asText "input" record
  let args ← optionalField (asDictionary asText) "args" record
  let matched ← optionalField asFlag "matched" record
  return .ofParts input args matched

def asRuleFile (node : Node) : Decoding RuleFile := do
  let record ← node.asRecord ["name", "rules", "tests"]
  let name ← field asText "name" record
  let patterns ← field (asList asPattern) "rules" record
  let tests ← optionalField (asList asTestCase) "tests" record
  return ⟨name, patterns, tests.getD []⟩

end SlotFilling.Yaml.Node

namespace SlotFilling

/-- Read a rule file in YAML. -/
def RuleFile.ofYaml? (bytes : List UInt8) : Option RuleFile :=
  (Yaml.Node.ofBytes? bytes).bind (Yaml.Node.decode? Yaml.Node.asRuleFile)

end SlotFilling
