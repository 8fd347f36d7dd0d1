/-!
# Comparing texts without regard to letter case

Category names and month names are compared letter by letter, where the capital
and small forms of the 26 ASCII letters count as one. All other characters have
to be the same.
-/
namespace SlotFilling.Text

def sameIgnoringCase (left right : String) : Bool :=
  left.toList.map Char.toLower == right.toList.map Char.toLower

theorem sameIgnoringCase_comm (left right : String) :
    sameIgnoringCase left right = sameIgnoringCase right left := by
  simp only [sameIgnoringCase]
  exact Bool.beq_comm

theorem sameIgnoringCase_trans {first second third : String}
    (left : sameIgnoringCase first second = true) (right : sameIgnoringCase second third = true) :
    sameIgnoringCase first third = true := by
  simp only [sameIgnoringCase, beq_iff_eq] at *
  exact left.trans right

end SlotFilling.Text
