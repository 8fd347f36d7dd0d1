import SlotFilling.Dictionary
import SlotFilling.Fault
import SlotFilling.Text.AsciiCase
import SlotFilling.Text.Blank
import SlotFilling.Text.Lowercase

/-!
# Lexicons

A lexicon lists words and phrases with their categories, currencies, and names of
persons. In its normal form every phrase has single spaces between its words and
everything but the categories is in lower case. When two entries have one normal
form, the one that comes later in the order of texts replaces the other.
-/
namespace SlotFilling

structure Lexicon where
  words : Dictionary (List String)
  currencies : List String
  names : List String
  deriving DecidableEq

namespace Lexicon

def empty : Lexicon := ⟨Dictionary.empty, [], []⟩

/-- Both lexicons together. The second one's entry replaces the first one's for
the same word; currencies and names add up. -/
def merge (lexicon other : Lexicon) : Lexicon :=
  ⟨lexicon.words.override other.words, lexicon.currencies ++ other.currencies,
    lexicon.names ++ other.names⟩

/-- A phrase with single spaces between its words, in lower case. -/
def normalPhrase (phrase : String) : String :=
  String.ofList (Text.lowerChars ([' '].intercalate (Text.words phrase.toList)))

/-- The normal form of a lexicon. Every word needs a category; the first word
without one is the fault. -/
def normalize (lexicon : Lexicon) : Except Fault Lexicon :=
  match lexicon.words.entries.find? fun entry => entry.2.isEmpty with
  | some entry => .error (.wordWithoutCategories entry.1)
  | none =>
    let words := lexicon.words.entries.map fun entry => (normalPhrase entry.1, entry.2)
    .ok ⟨Dictionary.ofList words, lexicon.currencies.map Text.lower, lexicon.names.map Text.lower⟩

/-- The categories of a text whose lower case is a word of the lexicon, the
primary one first. A word without categories counts as absent. -/
def entry? (lexicon : Lexicon) (text : String) : Option (String × List String) :=
  match lexicon.words.get? (Text.lower text) with
  | some (primary :: others) => some (primary, others)
  | _ => none

/-- The number of words of the longest phrase, and one for an empty lexicon. -/
def longestPhrase (lexicon : Lexicon) : Nat :=
  (lexicon.words.keys.map fun key => (Text.pieces (· == ' ') key.toList).length).max?.getD 1

/-- Whether a text is listed as a verb. -/
def isVerb (lexicon : Lexicon) (text : String) : Bool :=
  match lexicon.entry? text with
  | some (primary, others) => (primary :: others).any (Text.sameIgnoringCase · "verb")
  | none => false

end Lexicon

end SlotFilling
