import SlotFilling.Pattern.Compact

/-!
# Rules and rule sets

A rule is a pattern together with what its last match captured: the value, and
the number of tokens skipped since the rule before it. A rule set is a list of
rules in the order in which they have to be satisfied.
-/
namespace SlotFilling

structure Rule where
  pattern : Pattern
  value : Option SlotValue
  distance : Option Nat
  deriving DecidableEq

namespace Rule

/-- A rule that has matched nothing yet. -/
def ofPattern (pattern : Pattern) : Rule := ⟨pattern, none, none⟩

/-- Match a token. The result is absent if the token does not fit, and otherwise
the rule with the value of the token. -/
def matchToken (rule : Rule) (token : Token) : Except Fault (Option Rule) :=
  match rule.pattern.read token with
  | .ok (some value) => .ok (some { rule with value := some value })
  | .ok none => .ok none
  | .error fault => .error fault

def isMatched (rule : Rule) : Bool := rule.value.isSome

/-- The rule without what it captured. -/
def reset (rule : Rule) : Rule := ofPattern rule.pattern

/-- Equality of rules, where values are compared as values. -/
def same (left right : Rule) : Bool :=
  left.pattern == right.pattern && sameValue left.value right.value &&
    left.distance == right.distance

end Rule

abbrev RuleSet := List Rule

namespace RuleSet

def ofPatterns (patterns : List Pattern) : RuleSet := patterns.map Rule.ofPattern

/-- Read rules in compact syntax; the first text that does not follow it is the fault. -/
def parse (texts : List String) : Except Fault RuleSet :=
  (texts.mapM Pattern.parse).map ofPatterns

def patterns (rules : RuleSet) : List Pattern := rules.map (·.pattern)

/-- The captured values by slot. Of several rules with one slot the last one that
captured a value counts. -/
def bindings (rules : RuleSet) : Dictionary SlotValue :=
  Dictionary.ofList (rules.filterMap fun rule =>
    match rule.pattern.slot, rule.value with
    | some slot, some value => some (slot, value)
    | _, _ => none)

/-- Whether there are rules and all of them carry a value. -/
def isSatisfied (rules : RuleSet) : Bool := !rules.isEmpty && rules.all Rule.isMatched

def reset (rules : RuleSet) : RuleSet := rules.map Rule.reset

theorem patterns_cons (rule : Rule) (others : RuleSet) :
    patterns (rule :: others) = rule.pattern :: others.patterns := rfl

theorem length_patterns (rules : RuleSet) : rules.patterns.length = rules.length :=
  List.length_map _

theorem patterns_append (rules more : RuleSet) :
    RuleSet.patterns (rules ++ more) = rules.patterns ++ more.patterns := List.map_append

theorem patterns_ofPatterns (patterns : List Pattern) :
    (ofPatterns patterns).patterns = patterns := by
  rw [ofPatterns, RuleSet.patterns, List.map_map]
  exact List.map_id patterns

theorem reset_eq_ofPatterns (rules : RuleSet) : rules.reset = ofPatterns rules.patterns := by
  simp [reset, ofPatterns, patterns, Rule.reset]

end RuleSet

end SlotFilling
