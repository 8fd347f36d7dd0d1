import SlotFilling.Text.AsciiCase

/-!
# Month names

A month is named by its full English name or by the first three letters of it,
in any letter case. Months are numbered from one.
-/
namespace SlotFilling

def monthNames : List String :=
  ["January", "February", "March", "April", "May", "June", "July", "August", "September",
   "October", "November", "December"]

/-- Whether a word is a name or the three-letter form of it. -/
def namesMonth (word name : String) : Bool :=
  Text.sameIgnoringCase word name ||
    Text.sameIgnoringCase word (String.ofList (name.toList.take 3))

/-- The number of the month that a word names. -/
def monthNumber? (word : String) : Option Nat :=
  (monthNames.findIdx? (namesMonth word)).map (· + 1)

end SlotFilling
