import SlotFilling.Proofs.Pattern.ValueKind
import SlotFilling.Proofs.Search.Runs

/-!
# The letter case of categories

A search looks at the category of a rule in two places: a token is asked whether it belongs
to the category, and the kind of the value to read depends on it. Neither tells letter cases
apart. So rule sets that differ in the letter case of their categories make every step of a
search go the same way. What is left of the difference is the categories that the alignments
copy from the rules, and the category that a mismatch names.
-/
namespace SlotFilling

/-- Patterns that differ at most in the letter case of their categories. -/
structure Pattern.Recased (left right : Pattern) : Prop where
  literal : left.literal = right.literal
  category : Text.sameIgnoringCase left.category right.category = true
  slot : left.slot = right.slot

/-- Rules that differ at most in the letter case of their categories. -/
structure Rule.Recased (left right : Rule) : Prop where
  pattern : left.pattern.Recased right.pattern
  value : left.value = right.value
  distance : left.distance = right.distance

/-- Rule sets that differ at most in the letter case of their categories. -/
def RuleSet.Recased (left right : RuleSet) : Prop := List.Forall₂ Rule.Recased left right

/-- Faults that differ at most in the letter case of a category that did not fit. -/
inductive Fault.Recased : Fault → Fault → Prop
  | same (fault : Fault) : Recased fault fault
  | mismatch {left right : String} (text : String) :
      Text.sameIgnoringCase left right = true →
      Recased (.typeMismatch left text) (.typeMismatch right text)

/-- Two runs that go the same way: both return, with results in some relation, or both fail,
with faults that differ at most in the letter case of a category. -/
inductive Alike {α β : Type} (related : α → β → Prop) : Except Fault α → Except Fault β → Prop
  | returned {left : α} {right : β} : related left right → Alike related (.ok left) (.ok right)
  | failed {left right : Fault} : left.Recased right → Alike related (.error left) (.error right)

theorem Alike.bind {α β γ δ : Type} {related : α → β → Prop} {outcome : γ → δ → Prop}
    {left : Except Fault α} {right : Except Fault β} {leftNext : α → Except Fault γ}
    {rightNext : β → Except Fault δ} (alike : Alike related left right)
    (continued : ∀ leftValue rightValue, related leftValue rightValue →
      Alike outcome (leftNext leftValue) (rightNext rightValue)) :
    Alike outcome (left >>= leftNext) (right >>= rightNext) := by
  cases alike with
  | returned values => exact continued _ _ values
  | failed faults => exact .failed faults

/-- Where one result is passed on, the runs that follow need to agree on that result only. -/
theorem Alike.bind_eq {α γ δ : Type} {outcome : γ → δ → Prop} {left right : Except Fault α}
    {leftNext : α → Except Fault γ} {rightNext : α → Except Fault δ} (alike : Alike Eq left right)
    (continued : ∀ value, Alike outcome (leftNext value) (rightNext value)) :
    Alike outcome (left >>= leftNext) (right >>= rightNext) := by
  apply alike.bind
  rintro value _ rfl
  exact continued value

/-! ## One token -/

namespace Pattern

variable {left right : Pattern}

theorem Recased.accepts_eq (recased : left.Recased right) (token : Token) :
    left.accepts token = right.accepts token := by
  rw [accepts, accepts, recased.literal, token.belongs_congr recased.category]

theorem Recased.value?_eq (recased : left.Recased right) (token : Token) :
    left.value? token = right.value? token := by
  rw [value?, value?, valueKind_congr recased.category]

theorem Recased.read (recased : left.Recased right) (token : Token) :
    Alike Eq (left.read token) (right.read token) := by
  rw [Pattern.read, Pattern.read, recased.accepts_eq, recased.value?_eq]
  by_cases accepted : right.accepts token = true
  · rw [if_pos accepted, if_pos accepted]
    cases right.value? token with
    | some value => exact .returned rfl
    | none => exact .failed (.mismatch token.text recased.category)
  · rw [if_neg accepted, if_neg accepted]
    exact .returned rfl

theorem Recased.attempt (recased : left.Recased right) (policy : MismatchPolicy)
    (token : Token) : Alike Eq (left.attempt policy token) (right.attempt policy token) := by
  have reads := recased.read token
  unfold Pattern.attempt
  generalize left.read token = leftRead at reads ⊢
  generalize right.read token = rightRead at reads ⊢
  cases policy with
  | abort => exact reads
  | skipToken =>
    -- A mismatch is passed over on both sides, whatever category it names.
    cases reads with
    | returned same =>
      cases same
      exact .returned rfl
    | failed => exact .returned rfl

/-! ## The loops of a search -/

theorem Recased.firstFit (recased : left.Recased right) (policy : MismatchPolicy)
    (tokens : List Token) :
    Alike Eq (left.firstFit policy tokens) (right.firstFit policy tokens) := by
  induction tokens with
  | nil => exact .returned rfl
  | cons token rest ih =>
    unfold Pattern.firstFit
    apply (recased.attempt policy token).bind_eq
    intro read
    cases read with
    | some value => exact .returned rfl
    | none => exact ih.bind_eq fun _ => .returned rfl

end Pattern

section

variable {leftFirst rightFirst : Pattern} {lefts rights : List Pattern}

theorem fillAll_recased (policy : MismatchPolicy)
    (recased : List.Forall₂ Pattern.Recased lefts rights) (tokens : List Token) :
    Alike Eq (fillAll policy lefts tokens) (fillAll policy rights tokens) := by
  induction recased generalizing tokens with
  | nil => exact .returned rfl
  | cons here _ ih =>
    unfold fillAll
    apply (here.firstFit policy tokens).bind_eq
    intro found
    cases found with
    | none => exact .returned rfl
    | some fit => exact (ih fit.rest).bind_eq fun _ => .returned rfl

theorem alignmentAt_recased (options : SearchOptions) (recased : leftFirst.Recased rightFirst)
    (othersRecased : List.Forall₂ Pattern.Recased lefts rights) (anchor free : Nat)
    (token : Token) (later : List Token) :
    Alike Eq (alignmentAt options leftFirst lefts anchor free token later)
      (alignmentAt options rightFirst rights anchor free token later) := by
  unfold alignmentAt
  apply (recased.attempt options.onMismatch token).bind_eq
  intro read
  cases read with
  | none => exact .returned rfl
  | some value =>
    by_cases covered : anchor < free
    · simp only [if_pos covered]
      exact .returned rfl
    · simp only [if_neg covered]
      have filled := fillAll_recased options.onMismatch othersRecased later
      exact filled.bind_eq fun _ => .returned rfl

theorem populate_recased (recased : List.Forall₂ Pattern.Recased lefts rights)
    (captures : List Capture) :
    RuleSet.Recased (populate lefts captures) (populate rights captures) := by
  induction recased generalizing captures with
  | nil => exact .nil
  | cons here _ ih =>
    cases captures with
    | nil => exact .nil
    | cons capture more => exact .cons ⟨here, rfl, rfl⟩ (ih more)

theorem searchFrom_recased (options : SearchOptions) (recased : leftFirst.Recased rightFirst)
    (othersRecased : List.Forall₂ Pattern.Recased lefts rights) (anchor free : Nat)
    (limit : Option Nat) (tokens : List Token) :
    Alike (List.Forall₂ RuleSet.Recased)
      (searchFrom options leftFirst lefts anchor free limit tokens)
      (searchFrom options rightFirst rights anchor free limit tokens) := by
  -- The captures are equal at each anchor, so the free position and the limit stay equal too.
  induction tokens generalizing anchor free limit with
  | nil => exact .returned .nil
  | cons token later ih =>
    unfold searchFrom
    by_cases exhausted : limit = some 0
    · rw [if_pos exhausted, if_pos exhausted]
      exact .returned .nil
    · rw [if_neg exhausted, if_neg exhausted]
      apply (alignmentAt_recased options recased othersRecased anchor free token later).bind_eq
      intro found
      cases found with
      | none => exact ih (anchor + 1) free limit
      | some captures =>
        have here := populate_recased (.cons recased othersRecased) captures
        exact (ih _ _ _).bind fun _ _ more => .returned (.cons here more)

end

theorem RuleSet.Recased.patterns {left right : RuleSet} (recased : left.Recased right) :
    List.Forall₂ Pattern.Recased left.patterns right.patterns := by
  induction recased with
  | nil => exact .nil
  | cons here _ ih => exact .cons here.pattern ih

/-- Rule sets that differ in the letter case of their categories have the same alignments up to
those categories, or fail with the same fault up to the category of a mismatch. Of all
categories, the ones that ask for numbers and for dates are those that a token takes for
"number" and "date". -/
theorem search_recased (options : SearchOptions) (tokens : List Token) (rules others : RuleSet)
    (recased : rules.Recased others) :
    Alike (List.Forall₂ RuleSet.Recased) (search options tokens rules)
      (search options tokens others) ∧
    ∀ category,
      (valueKind category = .number ↔ Text.sameIgnoringCase category "number" = true) ∧
      (valueKind category = .date ↔ Text.sameIgnoringCase category "date" = true) := by
  refine ⟨?_, fun category => ⟨valueKind_eq_number_iff category, valueKind_eq_date_iff category⟩⟩
  -- No rules on one side are no rules on the other, so both searches fail in the same way.
  cases recased with
  | nil => exact .failed (.same .emptyCollection)
  | cons first later =>
    have othersRecased := RuleSet.Recased.patterns later
    exact searchFrom_recased options first.pattern othersRecased 0 0 options.limit tokens

/-- The rules for reminders, with their categories in capitals. -/
def capitalReminderRules : RuleSet :=
  .ofPatterns [⟨some "remind", "VERB", none⟩, ⟨none, "DATE", some "when"⟩]

theorem search_recased_reminders :
    reminderRules.Recased capitalReminderRules ∧
    search ⟨.abort, .keep, none⟩ reminders capitalReminderRules =
      .error (.typeMismatch "DATE" "someday") ∧
    Alike (List.Forall₂ RuleSet.Recased) (search ⟨.abort, .keep, none⟩ reminders reminderRules)
      (search ⟨.abort, .keep, none⟩ reminders capitalReminderRules) ∧
    Alike (List.Forall₂ RuleSet.Recased) (search ⟨.skipToken, .keep, none⟩ reminders reminderRules)
      (search ⟨.skipToken, .keep, none⟩ reminders capitalReminderRules) := by
  have recased : reminderRules.Recased capitalReminderRules :=
    .cons ⟨⟨rfl, by decide +kernel, rfl⟩, rfl, rfl⟩
      (.cons ⟨⟨rfl, by decide +kernel, rfl⟩, rfl, rfl⟩ .nil)
  exact ⟨recased, by decide +kernel, (search_recased _ reminders _ _ recased).1,
    (search_recased _ reminders _ _ recased).1⟩

end SlotFilling
