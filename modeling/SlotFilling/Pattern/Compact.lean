import SlotFilling.Pattern.Basic
import SlotFilling.Text.Blank

/-!
# The compact rule syntax

A pattern is written as an optional literal text, the category between square
brackets, and optionally an arrow and the slot: `check[noun]->item`. The literal
holds no bracket and has no blank at either end. Category and slot are names of
ASCII letters, digits and underscores that do not start with a digit.
-/
namespace SlotFilling

def isNameStart (character : Char) : Bool := character.isAlpha || character == '_'

def isNamePart (character : Char) : Bool := character.isAlphanum || character == '_'

def isName (text : List Char) : Bool :=
  match text with
  | [] => false
  | first :: rest => isNameStart first && rest.all isNamePart

def isBracket (character : Char) : Bool := character == '[' || character == ']'

/-- A literal is empty, or has no bracket and no blank at either end. -/
def isLiteral (text : List Char) : Bool :=
  text.all (fun character => !isBracket character) &&
    !text.head?.any Text.isBlank && !text.getLast?.any Text.isBlank

/-- What stands after the category: nothing, or an arrow and the slot. -/
def readSlot? : List Char → Option (Option String)
  | [] => some none
  | '-' :: '>' :: slot => if isName slot then some (some (String.ofList slot)) else none
  | _ => none

namespace Pattern

/-- Read the compact syntax. -/
def ofChars? (text : List Char) : Option Pattern :=
  let literal := text.takeWhile (· ≠ '[')
  match text.dropWhile (· ≠ '[') with
  | [] => none
  | _ :: rest =>
    let category := rest.takeWhile isNamePart
    match rest.dropWhile isNamePart with
    | ']' :: tail =>
      if isLiteral literal && isName category then
        (readSlot? tail).map fun slot =>
          { literal := if literal = [] then none else some (String.ofList literal)
            category := String.ofList category
            slot }
      else none
    | _ => none

def parse (text : String) : Except Fault Pattern :=
  match ofChars? text.toList with
  | some pattern => .ok pattern
  | none => .error (.malformedRule text)

/-- Write the compact syntax. -/
def display (pattern : Pattern) : String :=
  pattern.literal.getD "" ++ "[" ++ pattern.category ++ "]" ++
    match pattern.slot with
    | some slot => "->" ++ slot
    | none => ""

end Pattern

end SlotFilling
