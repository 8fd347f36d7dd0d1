import SlotFilling.Fault

/-!
# Reading sequences

Sequences of tokens and rules are lists. The operations here are the ones that
can fail: an element by its index, the first element, and replacing an element.
-/
namespace SlotFilling.Sequence

variable {α : Type}

def fetch (items : List α) (index : Nat) : Except Fault α :=
  match items[index]? with
  | some item => .ok item
  | none => .error (.outOfRange index items.length)

def first (items : List α) : Except Fault α :=
  match items with
  | [] => .error .emptyCollection
  | item :: _ => .ok item

/-- Change the element at an index and leave the others as they are. -/
def modify (items : List α) (index : Nat) (change : α → α) : Except Fault (List α) :=
  if index < items.length then .ok (items.modify index change)
  else .error (.outOfRange index items.length)

theorem fetch_eq_ok_iff (items : List α) (index : Nat) (item : α) :
    fetch items index = .ok item ↔ items[index]? = some item := by
  simp only [fetch]
  split <;> simp_all

end SlotFilling.Sequence
