import SlotFilling.Json.Bytes
import SlotFilling.Json.Decode
import SlotFilling.RuleFile.Basic

/-!
# Rule files in JSON

A record is an object, or a list of its fields in order. Every field is given at
most once, and members of other names are passed over. No field is left out by giving
null for it: null is a value of the wrong type.
-/
namespace SlotFilling.Json

/-- The fields of a record by name. -/
def Parsed.asRecord? (names : List String) : Parsed → Option (List (String × Parsed))
  | .list items => if items.length ≤ names.length then some (names.zip items) else none
  | .object members => do
    let members ← members.mapM fun member => member.1.map (·, member.2)
    let repeats := names.any fun name => decide (1 < members.countP (·.1 == name))
    if repeats || !members.all (·.2.isWhole) then none else some members
  | _ => none

/-- Read the value of a field that may be left out. -/
def field? {α : Type} (read : Parsed → Option α) (name : String) (record : List (String × Parsed)) :
    Option (Option α) :=
  (record.lookup name).mapM read

def Parsed.asText? (value : Parsed) : Option String := value.asText.toOption

def Parsed.asFlag? : Parsed → Option Bool
  | .bool value => some value
  | _ => none

def Parsed.asList? {α : Type} (read : Parsed → Option α) : Parsed → Option (List α)
  | .list items => items.mapM read
  | _ => none

/-- An object with any names; a later member replaces an earlier one of the same name. -/
def Parsed.asDictionary? {α : Type} (read : Parsed → Option α) : Parsed → Option (Dictionary α)
  | .object members => do
    let pairs ← members.mapM fun (name, value) => do return (← name, ← read value)
    return Dictionary.ofList pairs
  | _ => none

def Parsed.asTestCase? (value : Parsed) : Option TestCase := do
  let record ← value.asRecord? ["input", "args", "matched"]
  let input ← (← field? asText? "input" record)
  let args ← field? (asDictionary? asText?) "args" record
  let matched ← field? asFlag? "matched" record
  return .ofParts input args matched

def Parsed.asRuleFile? (value : Parsed) : Option RuleFile := do
  let record ← value.asRecord? ["name", "rules", "tests"]
  let name ← (← field? asText? "name" record)
  let patterns ← (← field? (asList? fun value => value.asPattern.toOption) "rules" record)
  let tests ← field? (asList? asTestCase?) "tests" record
  return ⟨name, patterns, tests.getD []⟩

end SlotFilling.Json

namespace SlotFilling

/-- Read a rule file in JSON. -/
def RuleFile.ofJson? (bytes : List UInt8) : Option RuleFile := do
  let document := Json.Document.ofBytes bytes
  let file ← document.root.asRuleFile?
  if document.complete then some file else none

end SlotFilling
