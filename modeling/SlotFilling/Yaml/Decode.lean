import SlotFilling.Dictionary
import SlotFilling.Pattern.Compact
import SlotFilling.Yaml.Document

/-!
# Values and patterns from YAML

Where a text is wanted, every scalar gives its text as it is written. A value that
is left out is an empty list or mapping. A pattern is a scalar in compact syntax or
a mapping.

An alias is replaced by the node that it names when its value is read; in a value
that nobody reads it stands for nothing. The number of replacements is limited, as
a few aliases of aliases could otherwise make a short text very long.
-/
namespace SlotFilling.Yaml

/-! ### Tags -/

/-- The full tag of a kind of value that the language itself knows. -/
def coreTag (name : String) : Tag := ("tag:yaml.org,2002:" ++ name).toUTF8.toList

/-- Whether a tag belongs to its text alone. It then has to be readable itself. -/
def isLocalTag : Option Tag → Bool
  | some (0x21 :: name) => (String.fromUTF8? name.toByteArray).isSome
  | _ => false

/-- The tags that make a scalar something else than a text. -/
def isTypedScalar (tag : Option Tag) : Bool :=
  isLocalTag tag ||
    tag.any fun tag => (["bool", "int", "float", "null"].map coreTag).contains tag

/-! ### Words -/

/-- The words for the absence of a value. -/
def isNullWord (text : String) : Bool := ["~", "null", "Null", "NULL"].contains text

def readFlagWord? (text : String) : Option Bool :=
  if ["true", "True", "TRUE"].contains text then some true
  else if ["false", "False", "FALSE"].contains text then some false
  else none

namespace Node

/-! ### Aliases -/

/-- Reading a value of a document, which may fail. The nodes that aliases name are
known, and the number of aliases that may still be replaced goes down. -/
abbrev Decoding := ReaderT (List (Nat × Node)) (StateT Nat Option)

/-- The node itself, or the node that it names. -/
def target : Node → Decoding Node
  | .alias number => do
    let left ← get
    if left = 0 then failure
    set (left - 1)
    ((← read).lookup number).getM
  | node => return node

/-- The aliases that may be replaced for each mark of a document. -/
def replacementsPerMark : Nat := 100

/-- Read the value of a document, given its root. -/
def decode? {α : Type} (value : Node → Decoding α) (root : Node) : Option α :=
  (((value root).run root.anchored).run (replacementsPerMark * root.weight)).map (·.1)

/-! ### Values -/

def asText (node : Node) : Decoding String := do
  match ← node.target with
  | .scalar _ _ text => return text
  | _ => failure

/-- A text, or nothing for a plain scalar that is empty or says so. A scalar that is
tagged as absent has to say so. -/
def asOptionalText (node : Node) : Decoding (Option String) := do
  match ← node.target with
  | .scalar ⟨_, none⟩ .plain text =>
    return if text.isEmpty || isNullWord text then none else some text
  | .scalar ⟨_, some tag⟩ .plain text =>
    if tag ≠ coreTag "null" then return some text
    else if isNullWord text then return none
    else failure
  | .scalar _ _ text => return some text
  | _ => failure

/-- A flag, written plainly, or as a literal block with the tag of flags. -/
def asFlag (node : Node) : Decoding Bool := do
  match ← node.target with
  | .scalar given style text =>
    if style = .plain ∨ (style = .literal ∧ given.tag = some (coreTag "bool")) then
      (readFlagWord? text).getM
    else failure
  | _ => failure

/-- The items of a sequence, each read in turn. -/
def asList {α : Type} (value : Node → Decoding α) (node : Node) : Decoding (List α) := do
  match ← node.target with
  | .sequence _ items => items.mapM value
  | .scalar _ .plain "" => return []
  | _ => failure

/-- Read the keys of a mapping, which are scalars. -/
def withKeys (entries : List (Node × Node)) : Decoding (List (String × Node)) :=
  entries.mapM fun (key, value) => do return (← key.asText, value)

/-- The entries of a mapping whose keys are scalars. -/
def asEntries (node : Node) : Decoding (List (String × Node)) := do
  match ← node.target with
  | .mapping _ entries => withKeys entries
  | .scalar _ .plain "" => return []
  | _ => failure

/-- A mapping with any keys; a later entry replaces an earlier one of the same key. -/
def asDictionary {α : Type} (value : Node → Decoding α) (node : Node) :
    Decoding (Dictionary α) := do
  let entries ← (← node.asEntries).mapM fun entry => do return (entry.1, ← value entry.2)
  return Dictionary.ofList entries

/-- The entries of a mapping that has each of some keys at most once. -/
def asRecord (fields : List String) (node : Node) : Decoding (List (String × Node)) := do
  let entries ← node.asEntries
  if fields.any fun field => decide (1 < entries.countP (·.1 == field)) then failure
  else return entries

/-- Read the value of some key, if the mapping has it. -/
def optionalField {α : Type} (value : Node → Decoding α) (name : String)
    (record : List (String × Node)) : Decoding (Option α) :=
  (record.lookup name).mapM value

/-- Read the value of some key, which the mapping has to have. -/
def field {α : Type} (value : Node → Decoding α) (name : String)
    (record : List (String × Node)) : Decoding α := do
  value (← (record.lookup name).getM)

/-- Read every value of some key; the last one counts. -/
def lastOf {α : Type} (value : Node → Decoding α) (name : String)
    (entries : List (String × Node)) : Decoding (Option α) := do
  let values ← (entries.filter (·.1 == name)).mapM fun entry => value entry.2
  return values.getLast?

/-! ### Patterns -/

/-- A pattern from the entries of a mapping. The category is needed and not empty. -/
def patternOfEntries (entries : List (String × Node)) : Decoding Pattern := do
  let literal ← lastOf asOptionalText "text" entries
  let category ← (← lastOf asText "type" entries).getM
  let slot ← lastOf asOptionalText "variable" entries
  if category.isEmpty then failure
  else return ⟨literal.join, category, slot.join⟩

def asPattern (node : Node) : Decoding Pattern := do
  match ← node.target with
  | .scalar given _ text =>
    if isTypedScalar given.tag then failure else (Pattern.ofChars? text.toList).getM
  | .mapping given entries =>
    if isLocalTag given.tag then failure else patternOfEntries (← withKeys entries)
  | _ => failure

end Node

end SlotFilling.Yaml
