import SlotFilling.Dictionary
import SlotFilling.SlotValue
import SlotFilling.Text.AsciiCase

/-!
# Tokens

A token is one unit of a tagged sentence: its text, a primary tag, and the
categories it belongs to. A word can be a noun and an adjective at once. A
category can also be listed as switched off. Entities of several words, such as
dates, are one token that carries the value found by the tagger.
-/
namespace SlotFilling

structure Token where
  text : String
  tag : String
  categories : Dictionary Bool
  entity : Option SlotValue
  deriving DecidableEq

namespace Token

/-- A token whose only category is its tag. -/
def of (text tag : String) : Token := ⟨text, tag, Dictionary.empty.insert tag true, none⟩

def setCategory (token : Token) (category : String) (on : Bool) : Token :=
  { token with categories := token.categories.insert category on }

def withCategory (token : Token) (category : String) : Token := token.setCategory category true

def withEntity (token : Token) (value : SlotValue) : Token := { token with entity := some value }

/-- Whether a token belongs to a category, letter case ignored: some category of
that name is on, or the tag has that name. -/
def belongs (token : Token) (category : String) : Bool :=
  token.categories.entries.any (fun entry => entry.2 && Text.sameIgnoringCase entry.1 category) ||
    Text.sameIgnoringCase token.tag category

/-- The text and the tag with a slash between them. -/
def display (token : Token) : String := token.text ++ "/" ++ token.tag

/-- Equality of tokens, where entities are compared as values. -/
def same (left right : Token) : Bool :=
  left.text == right.text && left.tag == right.tag &&
    left.categories.entries == right.categories.entries && sameValue left.entity right.entity

theorem belongs_congr (token : Token) {left right : String}
    (equal : Text.sameIgnoringCase left right = true) :
    token.belongs left = token.belongs right := by
  simp only [Text.sameIgnoringCase, beq_iff_eq] at equal
  simp only [belongs, Text.sameIgnoringCase, equal]

theorem belongs_of (text tag category : String) :
    (Token.of text tag).belongs category = Text.sameIgnoringCase tag category := by
  simp [belongs, of, Dictionary.insert, Dictionary.empty, insertAscending]

theorem belongs_withCategory (token : Token) (added category : String) :
    (token.withCategory added).belongs category =
      (Text.sameIgnoringCase added category || token.belongs category) := by
  simp only [withCategory, setCategory, belongs, Dictionary.insert]
  rw [any_insertAscending (by simp), Bool.true_and, Bool.or_assoc]

end Token

end SlotFilling
