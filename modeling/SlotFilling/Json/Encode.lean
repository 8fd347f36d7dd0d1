import SlotFilling.Json.Basic
import SlotFilling.Rule

/-!
# Tokens and rules as JSON

Every part of a pattern or rule is a member, with null for an absent one. A token
without an entity has no member for it.
-/
namespace SlotFilling

def SlotValue.toJson : SlotValue → Json
  | .number value => .number value
  | .text value => .text value
  | .date value => .text value.text

def Token.toJson (token : Token) : Json :=
  let categories := token.categories.entries.map fun entry => (entry.1, Json.bool entry.2)
  let entity := match token.entity with
    | some value => [("entity", value.toJson)]
    | none => []
  .object ([("text", .text token.text), ("tag", .text token.tag),
    ("categories", .object categories)] ++ entity)

/-- The members that define a pattern. -/
def Pattern.members (pattern : Pattern) : List (String × Json) :=
  [("text", Json.ofOption .text pattern.literal), ("type", .text pattern.category),
   ("variable", Json.ofOption .text pattern.slot)]

def Pattern.toJson (pattern : Pattern) : Json := .object pattern.members

def Rule.toJson (rule : Rule) : Json :=
  .object (rule.pattern.members ++
    [("value", Json.ofOption SlotValue.toJson rule.value),
     ("distance", Json.ofOption .natural rule.distance)])

def RuleSet.toJson (rules : RuleSet) : Json := .list (rules.map Rule.toJson)

end SlotFilling
