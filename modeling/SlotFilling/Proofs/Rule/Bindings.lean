import SlotFilling.Proofs.Dictionary
import SlotFilling.Proofs.Search.Soundness

/-!
# What rule sets bind

A slot is bound by the last rule that has it and carries a value. So the rules behind decide
before those in front, and a rule without a value hides nothing. The rules of an alignment all
carry a value, so there every slot is bound, and by the last rule that has it.
-/
namespace SlotFilling

/-! ## The last rule that binds -/

/-- The last rule with a slot that carries a value carries this one. -/
inductive LastCapture (slot : String) (value : SlotValue) : RuleSet → Prop
  | intro {front : RuleSet} {rule : Rule} {back : RuleSet} :
      rule.pattern.slot = some slot → rule.value = some value →
      (∀ later ∈ back, later.pattern.slot = some slot → later.value = none) →
      LastCapture slot value (front ++ rule :: back)

namespace RuleSet

variable {rules : RuleSet} {tokens : List Token} {slot : String} {value : SlotValue}

/-- A rule binds its slot unless a later one does. -/
theorem get?_bindings_cons (rule : Rule) (others : RuleSet) (slot : String) :
    (bindings (rule :: others)).get? slot =
      (others.bindings.get? slot).or
        (if rule.pattern.slot = some slot then rule.value else none) := by
  rw [bindings, bindings, Dictionary.get?_ofList, Dictionary.get?_ofList, List.filterMap_cons]
  cases rule.pattern.slot with
  | none => simp
  | some own =>
    cases rule.value with
    | none => simp
    | some value =>
      rw [List.reverse_cons, List.find?_append, Option.map_or]
      by_cases same : own = slot
      · simp [same]
      · simp [same]

theorem get?_bindings_append (rules more : RuleSet) (slot : String) :
    (bindings (rules ++ more)).get? slot =
      (more.bindings.get? slot).or (rules.bindings.get? slot) := by
  induction rules with
  | nil => exact (Option.or_none).symm
  | cons rule others ih =>
    rw [List.cons_append, get?_bindings_cons, ih, get?_bindings_cons, Option.or_assoc]

theorem get?_bindings_eq_none_iff : rules.bindings.get? slot = none ↔
    ∀ rule ∈ rules, rule.pattern.slot = some slot → rule.value = none := by
  induction rules with
  | nil => simp [bindings, Dictionary.ofList, Dictionary.insertAll]
  | cons rule others ih =>
    rw [get?_bindings_cons, Option.or_eq_none_iff, ih, List.forall_mem_cons, and_comm]
    refine and_congr_left fun _ => ?_
    by_cases own : rule.pattern.slot = some slot <;> simp [own]

/-- A slot is bound to the value of the last rule that has it and carries one. -/
theorem get?_bindings_eq_some_iff :
    rules.bindings.get? slot = some value ↔ LastCapture slot value rules := by
  constructor
  · intro bound
    induction rules with
    | nil => cases bound
    | cons rule others ih =>
      rw [get?_bindings_cons, Option.or_eq_some_iff] at bound
      rcases bound with later | ⟨unbound, own⟩
      · cases ih later with
        | @intro front _ _ isOwn valueEq unmatched =>
          exact @LastCapture.intro _ _ (rule :: front) _ _ isOwn valueEq unmatched
      · split at own
        next isOwn =>
          have unmatched := get?_bindings_eq_none_iff.mp unbound
          exact @LastCapture.intro _ _ [] _ _ isOwn own unmatched
        next => cases own
  · rintro ⟨isOwn, valueEq, unmatched⟩
    rw [get?_bindings_append, get?_bindings_cons, get?_bindings_eq_none_iff.mpr unmatched,
      if_pos isOwn, valueEq]
    rfl

end RuleSet

/-! ## Readings at positions -/

/-- The value that the last pattern with a slot takes from the token at its position. -/
inductive LastReading (tokens : List Token) (slot : String) :
    List Pattern → List Nat → SlotValue → Prop
  | here {pattern : Pattern} {others : List Pattern} {position : Nat} {later : List Nat}
      {token : Token} {value : SlotValue} :
      pattern.slot = some slot → (∀ other ∈ others, other.slot ≠ some slot) →
      tokens[position]? = some token → pattern.value? token = some value →
      LastReading tokens slot (pattern :: others) (position :: later) value
  | later {pattern : Pattern} {others : List Pattern} {position : Nat} {later : List Nat}
      {value : SlotValue} :
      LastReading tokens slot others later value →
      LastReading tokens slot (pattern :: others) (position :: later) value

namespace LastReading

variable {tokens : List Token} {slot : String} {patterns : List Pattern} {positions : List Nat}
  {value : SlotValue}

theorem exists_slot (last : LastReading tokens slot patterns positions value) :
    ∃ pattern ∈ patterns, pattern.slot = some slot := by
  induction last with
  | here own _ _ _ => exact ⟨_, List.mem_cons_self, own⟩
  | later _ ih =>
    obtain ⟨pattern, member, own⟩ := ih
    exact ⟨pattern, List.mem_cons_of_mem _ member, own⟩

end LastReading

namespace RuleSet

variable {tokens : List Token} {slot : String}

theorem get?_bindings_eq_none_iff_of_matched {rules : RuleSet}
    (valued : ∀ rule ∈ rules, rule.value.isSome = true) :
    rules.bindings.get? slot = none ↔ ∀ pattern ∈ rules.patterns, pattern.slot ≠ some slot := by
  rw [get?_bindings_eq_none_iff, patterns, List.forall_mem_map]
  refine forall₂_congr fun rule member => ?_
  have carries := Option.isSome_iff_ne_none.mp (valued rule member)
  exact ⟨fun unmatched own => carries (unmatched own), fun other own => absurd own other⟩

/-- The bindings of matched rules are the last readings at their positions. -/
theorem get?_bindings_eq_some_iff_lastReading {rules : RuleSet} {positions : List Nat}
    (carried : List.Forall₂ (Carries tokens) rules positions)
    (valued : ∀ rule ∈ rules, rule.value.isSome = true) (slot : String) (value : SlotValue) :
    rules.bindings.get? slot = some value ↔
      LastReading tokens slot rules.patterns positions value := by
  induction carried with
  | nil =>
    constructor
    · intro bound
      cases bound
    · intro last
      cases last
  | @cons rule position others positions here _ ih =>
    obtain ⟨hereValued, laterValued⟩ := List.forall_mem_cons.mp valued
    rw [get?_bindings_cons, patterns_cons]
    cases bound : (bindings others).get? slot with
    | some later =>
      rw [Option.some_or, ← bound, ih laterValued]
      constructor
      · exact .later
      · intro last
        cases last with
        | later last => exact last
        | here _ unused =>
          -- A later rule binds the slot, so this reading is not the last.
          rw [(get?_bindings_eq_none_iff_of_matched laterValued).mpr unused] at bound
          cases bound
    | none =>
      have unused := (get?_bindings_eq_none_iff_of_matched laterValued).mp bound
      obtain ⟨token, present, _, valueEq⟩ := here
      rw [Option.none_or]
      constructor
      · intro own
        split at own
        next isOwn => exact .here isOwn unused present (valueEq ▸ own)
        next => cases own
      · intro last
        cases last with
        | here own _ isToken read =>
          rw [if_pos own, valueEq]
          cases present.symm.trans isToken
          exact read
        | later last =>
          obtain ⟨pattern, member, own⟩ := last.exists_slot
          exact absurd own (unused pattern member)

/-- An alignment binds the slots of its rules, each by the last rule that has it. -/
theorem mem_keys_bindings_iff {rules result : RuleSet} (alignment : IsAlignment rules tokens result)
    (slot : String) :
    slot ∈ result.bindings.keys ↔ ∃ pattern ∈ rules.patterns, pattern.slot = some slot := by
  have unbound : result.bindings.get? slot = none ↔ _ := get?_bindings_eq_none_iff_of_matched
    (fun rule member => (alignment.populated rule member).1)
  rw [alignment.patterns] at unbound
  rw [Dictionary.mem_keys_iff, ← Option.ne_none_iff_exists', Ne, unbound]
  push Not
  rfl

theorem get?_bindings_of_last {front back : RuleSet} {rule : Rule}
    (isOwn : rule.pattern.slot = some slot) (matched : rule.value.isSome = true)
    (unused : ∀ later ∈ back, later.pattern.slot ≠ some slot) :
    (bindings (front ++ rule :: back)).get? slot = rule.value := by
  obtain ⟨value, valueEq⟩ := Option.isSome_iff_exists.mp matched
  rw [valueEq, get?_bindings_eq_some_iff]
  exact .intro isOwn valueEq fun later member own => absurd own (unused later member)

/-- The slots of a rule set are bound by the last rules that have them and carry values, so the
bindings of rules override those of the rules in front of them. An alignment binds exactly the
slots of its rules, each to the value that the last rule with the slot has captured. -/
theorem bindings_last (rules : RuleSet) :
    (∀ slot value, rules.bindings.get? slot = some value ↔ LastCapture slot value rules) ∧
    (∀ more : RuleSet, bindings (rules ++ more) = rules.bindings.override more.bindings ∧
      ∀ slot, (bindings (rules ++ more)).get? slot =
        (more.bindings.get? slot).or (rules.bindings.get? slot)) ∧
    (∀ (rule : Rule) slot value, rules.bindings.get? slot = some value →
      (bindings (rule :: rules)).get? slot = some value) ∧
    ∀ options tokens results, search options tokens rules = .ok results → ∀ result ∈ results,
      (∀ slot, slot ∈ result.bindings.keys ↔
        ∃ pattern ∈ rules.patterns, pattern.slot = some slot) ∧
      (∀ front (rule : Rule) back slot, result = front ++ rule :: back →
        rule.pattern.slot = some slot → (∀ later ∈ back, later.pattern.slot ≠ some slot) →
        rule.value.isSome = true ∧ result.bindings.get? slot = rule.value) ∧
      ∀ slot value, result.bindings.get? slot = some value ↔
        LastReading tokens slot rules.patterns result.positions value := by
  refine ⟨fun _ _ => get?_bindings_eq_some_iff, fun more => ⟨?_, ?_⟩, ?_, ?_⟩
  · apply Dictionary.ext_get?
    intro slot
    rw [get?_bindings_append, Dictionary.get?_override]
  · exact get?_bindings_append rules more
  · intro rule slot value bound
    rw [get?_bindings_cons, bound, Option.some_or]
  · intro options tokens results returned result member
    have alignment := isAlignment_of_search returned member
    have matched : ∀ rule ∈ result, rule.value.isSome = true :=
      fun rule isRule => (alignment.populated rule isRule).1
    refine ⟨mem_keys_bindings_iff alignment, ?_, fun slot value => ?_⟩
    · rintro front rule back slot rfl isOwn unused
      have here := matched rule (by simp)
      exact ⟨here, get?_bindings_of_last isOwn here unused⟩
    · rw [← alignment.patterns]
      exact get?_bindings_eq_some_iff_lastReading alignment.carried matched slot value

end RuleSet

/-- A later rule without a value hides nothing. -/
example :
    let noted (value : Option SlotValue) : Rule := ⟨⟨none, "noun", some "drink"⟩, value, none⟩
    (RuleSet.bindings [noted (some (.text "tea")), noted (some (.text "coffee")), noted none]).get?
      "drink" = some (.text "coffee") := by decide +kernel

end SlotFilling
