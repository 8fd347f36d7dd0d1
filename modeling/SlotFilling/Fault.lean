import SlotFilling.Text.Quoted

/-!
# Faults

The causes for which an operation has no answer. A pattern that does not fit a
token is not among them, and neither is a search that finds nothing.
-/
namespace SlotFilling

inductive Fault where
  /-- An index at or beyond the length of a sequence. -/
  | outOfRange (index count : Nat)
  /-- The first element of an empty sequence. -/
  | emptyCollection
  /-- A text that does not follow the compact rule syntax. -/
  | malformedRule (text : String)
  /-- A token that fits a rule of some category but holds no value of its kind. -/
  | typeMismatch (category text : String)
  /-- A lexicon entry that lists no category. -/
  | wordWithoutCategories (word : String)
  /-- A lexicon text of the wrong form. -/
  | unreadableLexicon
  deriving DecidableEq, Repr

namespace Fault

def message : Fault → String
  | outOfRange index count =>
    "index " ++ toString index ++ " out of range for sequence of length " ++ toString count
  | emptyCollection => "empty collection"
  | malformedRule text => "malformed rule syntax: " ++ Text.quoted text
  | typeMismatch category text =>
    "type mismatch: cannot read " ++ Text.quoted text ++ " as " ++ category
  | wordWithoutCategories word =>
    "lexicon error: word " ++ Text.quoted word ++ " has no categories"
  | unreadableLexicon => "lexicon error: unreadable text"

/-- Whether the fault arose while a value was read from a fitting token. -/
def isTypeMismatch : Fault → Bool
  | typeMismatch _ _ => true
  | _ => false

end Fault

end SlotFilling
