import SlotFilling.Json.Basic
import SlotFilling.Json.Reader
import SlotFilling.Pattern.Compact

/-!
# Patterns from JSON

A pattern is read from a string in compact syntax or from an object. The members
of an object are taken in the order of the text: of several members of one name
the last counts, other names are passed over, and the first member of the wrong
type is the fault. Whether a category was given is asked only at the end.
-/
namespace SlotFilling.Json

/-- Why a value could not be taken from a text. -/
inductive ReadFault where
  /-- The text is not JSON. -/
  | broken
  /-- The value is of another type than the one wanted. -/
  | wrongType (found wanted : String)
  | missingMember (name : String)
  | emptyCategory
  | malformedRule (text : String)
  deriving DecidableEq, Repr

namespace ReadFault

/-- The wording of a fault; a text that is not JSON has none. -/
def message? : ReadFault → Option String
  | broken => none
  | wrongType found wanted => some ("invalid type: " ++ found ++ ", expected " ++ wanted)
  | missingMember name => some ("missing field `" ++ name ++ "`")
  | emptyCategory => some "invalid value: string \"\", expected a non-empty category name"
  | malformedRule written => some (Fault.malformedRule written).message

end ReadFault

namespace Parsed

/-- The type of a value and, for simple values, the value. -/
def describe? : Parsed → Option String
  | null => some "null"
  | bool value => some ("boolean `" ++ (if value then "true" else "false") ++ "`")
  | integer value => some ("integer `" ++ toString value ++ "`")
  | number value => some ("floating point `" ++ value.dataText ++ "`")
  | text value => some ("string " ++ Text.quoted value)
  | list _ => some "sequence"
  | object _ => some "map"
  | unreadable => none
  | broken => none

/-- The fault of a value where another type is wanted. -/
def refuse {α : Type} (value : Parsed) (wanted : String) : Except ReadFault α :=
  match value.describe? with
  | some found => .error (.wrongType found wanted)
  | none => .error .broken

def asText : Parsed → Except ReadFault String
  | text value => .ok value
  | other => other.refuse "a string"

/-- A text, or nothing for null. -/
def asOptionalText : Parsed → Except ReadFault (Option String)
  | null => .ok none
  | other => other.asText.map some

/-- The items of a list, each read in turn. -/
def asList {α : Type} (read : Parsed → Except ReadFault α) : Parsed → Except ReadFault (List α)
  | list items => items.mapM read
  | other => other.refuse "a sequence"

/-- A value that is passed over; only a broken place in it is a fault. -/
def passOver (value : Parsed) : Except ReadFault Unit :=
  if value.isWhole then .ok () else .error .broken

end Parsed

/-- What the members of an object have given so far. -/
structure PatternDraft where
  literal : Option String := none
  category : Option String := none
  slot : Option String := none
  deriving DecidableEq, Repr

namespace PatternDraft

/-- Take one more member into account. -/
def withMember (draft : PatternDraft) (member : Option String × Parsed) :
    Except ReadFault PatternDraft :=
  match member.1 with
  | none => .error .broken
  | some "text" => member.2.asOptionalText.map fun literal => { draft with literal }
  | some "type" => member.2.asText.map fun category => { draft with category := some category }
  | some "variable" => member.2.asOptionalText.map fun slot => { draft with slot }
  | some _ => member.2.passOver.map fun _ => draft

def finish (draft : PatternDraft) : Except ReadFault Pattern :=
  match draft.category with
  | none => .error (.missingMember "type")
  | some category =>
    if category = "" then .error .emptyCategory else .ok ⟨draft.literal, category, draft.slot⟩

end PatternDraft

/-- A pattern from the members of an object. -/
def patternOfMembers (members : List (Option String × Parsed)) : Except ReadFault Pattern :=
  (members.foldlM PatternDraft.withMember {}).bind PatternDraft.finish

def Parsed.asPattern : Parsed → Except ReadFault Pattern
  | .text value =>
    match Pattern.ofChars? value.toList with
    | some pattern => .ok pattern
    | none => .error (.malformedRule value)
  | .object members => patternOfMembers members
  | other =>
    other.refuse "a rule string like \"check[noun]->var\" or a \x7btext, type, variable\x7d map"

/-- Read a whole text by a reader of values. -/
def readText {α : Type} (read : Parsed → Except ReadFault α) (text : String) :
    Except ReadFault α := do
  let document := Document.ofChars text.toList
  -- The value is read first, so a fault in it comes before one in what follows it.
  let value ← read document.root
  if document.complete then return value else throw .broken

end SlotFilling.Json
