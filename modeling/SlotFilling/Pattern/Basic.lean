import SlotFilling.Fault
import SlotFilling.Text.Lowercase
import SlotFilling.Token

/-!
# Patterns

A pattern describes one token to look for: a category, possibly a literal text,
and possibly the slot that receives the value. The category also decides what
kind of value a fitting token holds. Numbers are read from the text of the token,
dates are the entity found by the tagger, and every other category yields the
text itself.
-/
namespace SlotFilling

structure Pattern where
  literal : Option String
  category : String
  slot : Option String
  deriving DecidableEq, Repr

/-- The kinds of values that categories ask for. -/
inductive ValueKind where
  | number
  | date
  | text
  deriving DecidableEq, Repr

/-- The kind of value that a category asks for, letter case ignored. -/
def valueKind (category : String) : ValueKind :=
  let name := Text.lower category
  if name = "number" then .number
  else if name = "date" then .date
  else .text

namespace Token

/-- The value of some kind that a token holds. Only finite numbers are numbers. -/
def valueOf? (token : Token) : ValueKind → Option SlotValue
  | .number => (Binary64.read? (Text.trim token.text.toList)).map .number
  | .date => token.entity
  | .text => some (.text token.text)

end Token

namespace Pattern

/-- Whether a token has the category and the literal text that a pattern asks for. -/
def accepts (pattern : Pattern) (token : Token) : Bool :=
  token.belongs pattern.category &&
    match pattern.literal with
    | some literal => token.text == literal
    | none => true

def value? (pattern : Pattern) (token : Token) : Option SlotValue :=
  token.valueOf? (valueKind pattern.category)

/-- Read a token: nothing if it does not fit, otherwise its value, or a fault if
it holds none of the right kind. -/
def read (pattern : Pattern) (token : Token) : Except Fault (Option SlotValue) :=
  if pattern.accepts token then
    match pattern.value? token with
    | some value => .ok (some value)
    | none => .error (.typeMismatch pattern.category token.text)
  else .ok none

theorem read_eq_none_iff (pattern : Pattern) (token : Token) :
    pattern.read token = .ok none ↔ pattern.accepts token = false := by
  simp only [read]
  split
  · split <;> simp_all
  · simp_all

theorem read_eq_some_iff (pattern : Pattern) (token : Token) (value : SlotValue) :
    pattern.read token = .ok (some value) ↔
      pattern.accepts token = true ∧ pattern.value? token = some value := by
  simp only [read]
  split
  · split <;> simp_all
  · simp_all

theorem read_eq_error_iff (pattern : Pattern) (token : Token) (fault : Fault) :
    pattern.read token = .error fault ↔
      pattern.accepts token = true ∧ pattern.value? token = none ∧
        fault = .typeMismatch pattern.category token.text := by
  simp only [read]
  split
  next accepted =>
    split
    next value present => simp [present]
    next absent =>
      simp only [Except.error.injEq, accepted, absent, true_and]
      exact eq_comm
  next rejected => simp [rejected]

end Pattern

end SlotFilling
