import SlotFilling.Rule
import SlotFilling.Sequence

/-!
# What rules carry over calls

The rules of a set can be matched and reset in place, one by one and in any order. A match that
does not fit, or whose token holds no value of the right kind, changes nothing. So what a rule
carries is decided by the last call that touched it: a match that fitted, or a reset. What it
looks for never changes.
-/
namespace SlotFilling

/-- The value of a token that fits. -/
def Pattern.extract (pattern : Pattern) (token : Token) : Except Fault SlotValue :=
  match pattern.value? token with
  | some value => .ok value
  | none => .error (.typeMismatch pattern.category token.text)

/-- Match a token with a rule that is changed in place, and answer whether it fits. The value
is stored only after it has been extracted. -/
def Rule.matchInPlace (token : Token) : ExceptT Fault (StateM Rule) Bool := do
  let rule ← get
  if rule.pattern.accepts token then
    let value ← rule.pattern.extract token
    set { rule with value := some value }
    return true
  else return false

namespace RuleSet

/-- A call on a rule set: a match or a reset of the rule at an index, or a reset of all. -/
inductive Call where
  | matchToken (index : Nat) (token : Token)
  | resetRule (index : Nat)
  | reset

/-- Do something with the rule at an index. -/
def atIndex {α : Type} (index : Nat) (action : ExceptT Fault (StateM Rule) α) :
    ExceptT Fault (StateM RuleSet) α :=
  ExceptT.mk fun rules =>
    match Sequence.fetch rules index with
    | .ok rule =>
      let (answer, after) := action.run.run rule
      (answer, List.set rules index after)
    | .error fault => (.error fault, rules)

/-- Only a match has something to answer. -/
def Call.program : Call → ExceptT Fault (StateM RuleSet) (Option Bool)
  | matchToken index token => return some (← atIndex index (Rule.matchInPlace token))
  | resetRule index => do
    atIndex index (modify Rule.reset)
    return none
  | reset => do
    modify RuleSet.reset
    return none

/-- The answer to a call, and the rules after it. -/
def perform (rules : RuleSet) (call : Call) : Except Fault (Option Bool) × RuleSet :=
  call.program.run.run rules

structure Event where
  call : Call
  answer : Except Fault (Option Bool)

/-- Perform calls one after the other. The results are the calls with their answers, and the
rules after all of them. -/
def record (rules : RuleSet) : List Call → List Event × RuleSet
  | [] => ([], rules)
  | call :: later =>
    let (answer, next) := rules.perform call
    let (log, last) := record next later
    (⟨call, answer⟩ :: log, last)

/-! ## One call -/

/-- What a call can do. -/
inductive Performed (rules : RuleSet) : Call → Except Fault (Option Bool) × RuleSet → Prop
  | matched {index : Nat} {rule : Rule} {token : Token} {value : SlotValue} :
      rules[index]? = some rule → rule.pattern.accepts token = true →
      rule.pattern.value? token = some value →
      Performed rules (.matchToken index token)
        (.ok (some true), List.set rules index { rule with value := some value })
  | unfit {index : Nat} {rule : Rule} {token : Token} :
      rules[index]? = some rule → rule.pattern.accepts token = false →
      Performed rules (.matchToken index token) (.ok (some false), rules)
  | mismatch {index : Nat} {rule : Rule} {token : Token} :
      rules[index]? = some rule → rule.pattern.accepts token = true →
      rule.pattern.value? token = none →
      Performed rules (.matchToken index token)
        (.error (.typeMismatch rule.pattern.category token.text), rules)
  | resetRule {index : Nat} {rule : Rule} :
      rules[index]? = some rule →
      Performed rules (.resetRule index) (.ok none, List.set rules index rule.reset)
  | reset : Performed rules .reset (.ok none, rules.reset)
  | outside {index : Nat} {call : Call} :
      rules[index]? = none → (call = .resetRule index ∨ ∃ token, call = .matchToken index token) →
      Performed rules call (.error (.outOfRange index rules.length), rules)

theorem run_matchInPlace (rule : Rule) (token : Token) :
    (Rule.matchInPlace token).run.run rule =
      match rule.matchToken token with
      | .ok (some after) => (.ok true, after)
      | .ok none => (.ok false, rule)
      | .error fault => (.error fault, rule) := by
  unfold Rule.matchInPlace Rule.matchToken Pattern.read Pattern.extract
  change StateT.run (ExceptT.run (if rule.pattern.accepts token then _ else _)) rule = _
  by_cases accepted : rule.pattern.accepts token = true
  · rw [if_pos accepted, if_pos accepted]
    cases rule.pattern.value? token <;> rfl
  · rw [if_neg accepted, if_neg accepted]
    rfl

theorem run_return {α β : Type} (rules : RuleSet) (action : ExceptT Fault (StateM RuleSet) α)
    (result : α → β) :
    (do return result (← action) : ExceptT Fault (StateM RuleSet) β).run.run rules =
      ((action.run.run rules).1.map result, (action.run.run rules).2) := by
  change StateT.run (ExceptT.bindCont _ (action.run.run rules).1 : StateT _ _ _)
    (action.run.run rules).2 = _
  cases (action.run.run rules).1 <;> rfl

theorem run_atIndex {α : Type} (rules : RuleSet) (index : Nat)
    (action : ExceptT Fault (StateM Rule) α) :
    (atIndex index action).run.run rules =
      match rules[index]? with
      | some rule => ((action.run.run rule).1, List.set rules index (action.run.run rule).2)
      | none => (.error (.outOfRange index rules.length), rules) := by
  change (match Sequence.fetch rules index with
    | .ok rule => ((action.run.run rule).1, List.set rules index (action.run.run rule).2)
    | .error fault => (.error fault, rules)) = _
  rw [Sequence.fetch]
  cases rules[index]? <;> rfl

theorem set_of_getElem? {α : Type} {items : List α} {index : Nat} {item : α}
    (present : items[index]? = some item) : items.set index item = items := by
  obtain ⟨inside, rfl⟩ := List.getElem?_eq_some_iff.mp present
  exact List.set_getElem_self inside

theorem perform_performed (rules : RuleSet) (call : Call) :
    Performed rules call (rules.perform call) := by
  cases call with
  | matchToken index token =>
    rw [perform, Call.program, run_return, run_atIndex]
    cases present : rules[index]? with
    | none => exact .outside present (.inr ⟨token, rfl⟩)
    | some rule =>
      simp only [run_matchInPlace, Rule.matchToken]
      have kept := set_of_getElem? present
      cases read : rule.pattern.read token with
      | error fault =>
        obtain ⟨accepted, missing, rfl⟩ := (rule.pattern.read_eq_error_iff token fault).mp read
        rw [kept]
        exact .mismatch present accepted missing
      | ok answer =>
        cases answer with
        | none =>
          have rejected := (rule.pattern.read_eq_none_iff token).mp read
          rw [kept]
          exact .unfit present rejected
        | some value =>
          obtain ⟨accepted, valueEq⟩ := (rule.pattern.read_eq_some_iff token value).mp read
          exact .matched present accepted valueEq
  | resetRule index =>
    rw [perform, Call.program, run_return, run_atIndex]
    cases present : rules[index]? with
    | none => exact .outside present (.inl rfl)
    | some rule => exact .resetRule present
  | reset => exact .reset

/-- A match that does not fit, or fails, changes nothing, and it does not fit exactly if the
rule does not accept the token. -/
structure ChangesOnlyOnMatch (rules : RuleSet) (index : Nat) (token : Token)
    (performed : Except Fault (Option Bool) × RuleSet) : Prop where
  kept : performed.1 ≠ .ok (some true) → performed.2 = rules
  unfit_iff : ∀ rule, rules[index]? = some rule →
    (performed.1 = .ok (some false) ↔ rule.pattern.accepts token = false)

theorem changesOnlyOnMatch_perform (rules : RuleSet) (index : Nat) (token : Token) :
    ChangesOnlyOnMatch rules index token (rules.perform (.matchToken index token)) := by
  have performed := perform_performed rules (.matchToken index token)
  generalize rules.perform (.matchToken index token) = result at performed
  -- The rule is the one that the call has found.
  have same {found rule : Rule} (here : rules[index]? = some found)
      (present : rules[index]? = some rule) : rule = found :=
    Option.some.inj (present.symm.trans here)
  cases performed with
  | matched present accepted _ =>
    refine ⟨fun changed => absurd rfl changed, fun rule here => ?_⟩
    rw [same present here, accepted]
    simp
  | unfit present rejected =>
    refine ⟨fun _ => rfl, fun rule here => ?_⟩
    rw [same present here]
    exact iff_of_true rfl rejected
  | mismatch present accepted _ =>
    refine ⟨fun _ => rfl, fun rule here => ?_⟩
    rw [same present here, accepted]
    simp
  | outside absent which =>
    refine ⟨fun _ => rfl, fun rule here => ?_⟩
    simp only [reduceCtorEq, Call.matchToken.injEq, exists_and_left, false_or] at which
    obtain ⟨rfl, -⟩ := which
    rw [absent] at here
    cases here

/-! ## One rule -/

namespace Event

/-- A match of the rule at an index that fitted. -/
def Matches (index : Nat) (event : Event) : Prop :=
  ∃ token, event = ⟨.matchToken index token, .ok (some true)⟩

/-- A reset of the rule at an index, alone or with all others. -/
def Resets (index : Nat) (event : Event) : Prop :=
  event.call = .resetRule index ∨ event.call = .reset

def Touches (index : Nat) (event : Event) : Prop := event.Matches index ∨ event.Resets index

end Event

/-- What a call makes of the rule at an index. -/
inductive Changed (index : Nat) (rule : Rule) (event : Event) : Rule → Prop
  | kept : ¬ event.Touches index → Changed index rule event rule
  | matched {token : Token} {value : SlotValue} :
      event = ⟨.matchToken index token, .ok (some true)⟩ →
      rule.pattern.accepts token = true → rule.pattern.value? token = some value →
      Changed index rule event { rule with value := some value }
  | reset : event.Resets index → Changed index rule event rule.reset

theorem changed_perform {rules : RuleSet} {index : Nat} {rule : Rule}
    (present : rules[index]? = some rule) (call : Call) :
    ∃ after, (rules.perform call).2[index]? = some after ∧
      Changed index rule ⟨call, (rules.perform call).1⟩ after := by
  have performed := perform_performed rules call
  generalize rules.perform call = result at performed
  cases performed with
  | @matched other found token value here accepted valueEq =>
    by_cases same : other = index
    · subst same
      cases present.symm.trans here
      exact ⟨_, List.getElem?_set_self (List.getElem?_eq_some_iff.mp present).1,
        .matched rfl accepted valueEq⟩
    · refine ⟨rule, (List.getElem?_set_ne same).trans present, .kept ?_⟩
      simp [Event.Touches, Event.Matches, Event.Resets, same]
  | @resetRule other found here =>
    by_cases same : other = index
    · subst same
      cases present.symm.trans here
      exact ⟨_, List.getElem?_set_self (List.getElem?_eq_some_iff.mp present).1, .reset (.inl rfl)⟩
    · refine ⟨rule, (List.getElem?_set_ne same).trans present, .kept ?_⟩
      simp [Event.Touches, Event.Matches, Event.Resets, same]
  | reset =>
    refine ⟨rule.reset, ?_, .reset (.inr rfl)⟩
    rw [RuleSet.reset, List.getElem?_map, present]
    rfl
  | unfit =>
    refine ⟨rule, present, .kept ?_⟩
    simp [Event.Touches, Event.Matches, Event.Resets]
  | mismatch =>
    refine ⟨rule, present, .kept ?_⟩
    simp [Event.Touches, Event.Matches, Event.Resets]
  | @outside other call absent which =>
    have different : other ≠ index := by
      rintro rfl
      rw [absent] at present
      cases present
    refine ⟨rule, present, .kept ?_⟩
    rcases which with rfl | ⟨token, rfl⟩ <;>
      simp [Event.Touches, Event.Matches, Event.Resets, different]

/-! ## Runs -/

/-- The value that a rule has after some calls: that of the last token that matched, none if it
was reset since, and the value it started with if no call has touched it. -/
inductive ValueAfter (index : Nat) (rule : Rule) (log : List Event) : Option SlotValue → Prop
  | initial : (∀ event ∈ log, ¬ event.Touches index) → ValueAfter index rule log rule.value
  | matched {front back : List Event} {token : Token} {value : SlotValue} :
      log = front ++ ⟨.matchToken index token, .ok (some true)⟩ :: back →
      rule.pattern.accepts token = true → rule.pattern.value? token = some value →
      (∀ event ∈ back, ¬ event.Touches index) → ValueAfter index rule log (some value)
  | reset {front back : List Event} {event : Event} :
      log = front ++ event :: back → event.Resets index →
      (∀ event ∈ back, ¬ event.Touches index) → ValueAfter index rule log none

/-- What a rule carries after some calls. Its distance stays unless it was reset. -/
structure Tracks (index : Nat) (rule : Rule) (log : List Event) (after : Rule) : Prop where
  value : ValueAfter index rule log after.value
  distance : (∃ event ∈ log, event.Resets index) ∧ after.distance = none ∨
    (∀ event ∈ log, ¬ event.Resets index) ∧ after.distance = rule.distance

variable {index : Nat} {rule next after : Rule} {event : Event} {log : List Event}

theorem Changed.pattern (changed : Changed index rule event next) :
    next.pattern = rule.pattern := by
  cases changed <;> rfl

theorem ValueAfter.cons {value : Option SlotValue} (changed : Changed index rule event next)
    (later : ValueAfter index next log value) : ValueAfter index rule (event :: log) value := by
  cases later with
  | initial untouched =>
    -- The call itself is the last one that touches the rule, if it does.
    cases changed with
    | kept untouchedHere => exact .initial (List.forall_mem_cons.mpr ⟨untouchedHere, untouched⟩)
    | matched isMatch accepted valueEq =>
      subst isMatch
      exact .matched (List.nil_append _).symm accepted valueEq untouched
    | reset resets => exact .reset (List.nil_append _).symm resets untouched
  | matched cut accepted valueEq untouched =>
    rw [changed.pattern] at accepted valueEq
    subst cut
    exact .matched (List.cons_append ..).symm accepted valueEq untouched
  | reset cut resets untouched =>
    subst cut
    exact .reset (List.cons_append ..).symm resets untouched

theorem Tracks.cons (changed : Changed index rule event next)
    (tracks : Tracks index next log after) : Tracks index rule (event :: log) after where
  value := tracks.value.cons changed
  distance := by
    rcases tracks.distance with ⟨⟨later, member, resets⟩, none⟩ | ⟨unreset, kept⟩
    · exact .inl ⟨⟨later, List.mem_cons_of_mem _ member, resets⟩, none⟩
    · cases changed with
      | kept untouched =>
        exact .inr ⟨List.forall_mem_cons.mpr ⟨fun resets => untouched (.inr resets), unreset⟩, kept⟩
      | matched isMatch _ _ =>
        subst isMatch
        exact .inr ⟨List.forall_mem_cons.mpr ⟨by simp [Event.Resets], unreset⟩, kept⟩
      | reset resets => exact .inl ⟨⟨event, List.mem_cons_self, resets⟩, kept⟩

/-- Every rule is tracked through a run. -/
theorem tracks_record {rules : RuleSet} (calls : List Call) (present : rules[index]? = some rule) :
    ∃ after, (rules.record calls).2[index]? = some after ∧
      Tracks index rule (rules.record calls).1 after := by
  induction calls generalizing rules rule with
  | nil => exact ⟨rule, present, .initial (by simp [record]), .inr ⟨by simp [record], rfl⟩⟩
  | cons call later ih =>
    obtain ⟨next, presentNext, changed⟩ := changed_perform present call
    obtain ⟨after, presentAfter, tracks⟩ := ih presentNext
    exact ⟨after, presentAfter, tracks.cons changed⟩

theorem patterns_set {rules : RuleSet} (present : rules[index]? = some rule)
    (same : next.pattern = rule.pattern) :
    RuleSet.patterns (List.set rules index next) = rules.patterns := by
  have own : rules.patterns[index]? = some rule.pattern := by
    rw [RuleSet.patterns, List.getElem?_map, present]
    rfl
  rw [RuleSet.patterns, List.map_set, same]
  exact set_of_getElem? own

theorem patterns_perform (rules : RuleSet) (call : Call) :
    (rules.perform call).2.patterns = rules.patterns := by
  have performed := perform_performed rules call
  generalize rules.perform call = result at performed
  cases performed with
  | matched present _ _ => exact patterns_set present rfl
  | resetRule present => exact patterns_set present rfl
  | reset => rw [RuleSet.reset_eq_ofPatterns, RuleSet.patterns_ofPatterns]
  | unfit | mismatch | outside => rfl

theorem patterns_record (rules : RuleSet) (calls : List Call) :
    (rules.record calls).2.patterns = rules.patterns := by
  induction calls generalizing rules with
  | nil => rfl
  | cons call later ih => exact (ih _).trans (patterns_perform rules call)

/-- Each call of a run is performed on the rules that the calls before it have left. -/
theorem record_append (rules : RuleSet) (front back : List Call) :
    rules.record (front ++ back) =
      ((rules.record front).1 ++ ((rules.record front).2.record back).1,
        ((rules.record front).2.record back).2) := by
  induction front generalizing rules with
  | nil => rfl
  | cons call front ih => simp only [List.cons_append, record, ih]

/-- What rules look for stays the same over any calls. Each carries the value of the last token
that it matched, none if it was reset since, and its own if no call has touched it, and it keeps
its distance until it is reset. A match that does not fit or fails leaves all rules as they
were, and it does not fit exactly if the rule does not accept the token. -/
theorem record_tracks (rules : RuleSet) (calls : List Call) :
    (rules.record calls).2.patterns = rules.patterns ∧
    (∀ index rule, rules[index]? = some rule →
      ∃ after, (rules.record calls).2[index]? = some after ∧
        Tracks index rule (rules.record calls).1 after) ∧
    ∀ front index token back, calls = front ++ .matchToken index token :: back →
      let before := (rules.record front).2
      let performed := before.perform (.matchToken index token)
      rules.record calls =
        ((rules.record front).1 ++ ⟨.matchToken index token, performed.1⟩ ::
          (performed.2.record back).1, (performed.2.record back).2) ∧
      ChangesOnlyOnMatch before index token performed := by
  refine ⟨patterns_record rules calls, fun _ _ => tracks_record calls, ?_⟩
  rintro front index token back rfl
  exact ⟨record_append rules front _, changesOnlyOnMatch_perform _ index token⟩

end RuleSet

end SlotFilling
