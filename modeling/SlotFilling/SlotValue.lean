import SlotFilling.Calendar.Date
import SlotFilling.Number.Layout

/-!
# Slot values

What a slot can hold: a number, a text or a date. Values are shown as texts, and
that is also the form in which test cases compare them.
-/
namespace SlotFilling

inductive SlotValue where
  | number (number : Binary64)
  | text (text : String)
  | date (date : Date)
  deriving DecidableEq

namespace SlotValue

def number? : SlotValue → Option Binary64
  | number value => some value
  | _ => none

def text? : SlotValue → Option String
  | text value => some value
  | _ => none

def date? : SlotValue → Option Date
  | date value => some value
  | _ => none

/-- The text that shows a value. -/
def display : SlotValue → String
  | number value => value.plainText
  | text value => value
  | date value => value.text

/-- Equality of values, where numbers are compared as numbers. -/
def same : SlotValue → SlotValue → Bool
  | number left, number right => left.sameNumber right
  | text left, text right => left == right
  | date left, date right => left == right
  | _, _ => false

end SlotValue

/-- Both values absent, or both present and the same. -/
def sameValue : Option SlotValue → Option SlotValue → Bool
  | none, none => true
  | some left, some right => left.same right
  | _, _ => false

end SlotFilling
