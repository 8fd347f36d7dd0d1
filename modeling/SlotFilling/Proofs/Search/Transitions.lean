import SlotFilling.Proofs.Search.InPlace

/-!
# The transitions of a pass

A pass works on the rules by their index. It looks for one rule after the other, and each
transition either finds a token for the rule it is at, or ends the pass. The index never
leaves the rules, and from the first match on the cursor stands right behind the token
matched last, so the next token is found behind it and the distance between the two is never
negative. Every transition brings the end nearer, which bounds their number by one more than
the number of rules. The passes of a search are those of this machine, so a search has no
faults but an empty rule set and, where it is to abort, a mismatch.
-/
namespace SlotFilling

/-- A run ends with no fault but a mismatch, and with none unless it is to abort. -/
theorem Ending.abort_of_error {policy : MismatchPolicy} {patterns : List Pattern}
    {tokens : List Token} {α : Type} {value : α} {run : Except Fault α} {fault : Fault}
    (ending : Ending policy patterns tokens value run) (failed : run = .error fault) :
    policy = .abort ∧ ∃ category text, fault = .typeMismatch category text := by
  cases ending with
  | returned => cases failed
  | mismatch aborts =>
    cases failed
    exact ⟨aborts, _, _, rfl⟩

namespace InPlace

/-- Where a pass stands. -/
inductive Stage where
  /-- It looks for the rule with this index. -/
  | searching (index : Nat)
  | satisfied
  | failed
  deriving DecidableEq

/-- A pass under way. -/
structure State where
  /-- All rules, with what the ones before the index have captured. -/
  rules : RuleSet
  /-- The first position that may be matched next. -/
  cursor : Nat
  /-- The position matched last. -/
  previous : Option Nat
  stage : Stage

namespace State

/-- A pass begins on a copy of the rules that is reset. -/
def start (rules : RuleSet) (anchor : Nat) : State := ⟨rules.reset, anchor, none, .searching 0⟩

/-- No more than this many transitions can follow. -/
def left (state : State) : Nat :=
  match state.stage with
  | .searching index => state.rules.length + 1 - index
  | .satisfied | .failed => 0

/-- Give the rule at an index the match that was found for it, and go on with the next one. -/
def take (state : State) (index : Nat) (found : Match) : State :=
  let distance := match state.previous with
    | some before => found.position - before - 1
    | none => found.position
  ⟨state.rules.set index { found.rule with distance := some distance }, found.position + 1,
    some found.position, .searching (index + 1)⟩

end State

theorem left_start (rules : RuleSet) (anchor : Nat) :
    (State.start rules anchor).left = rules.length + 1 := by
  simp [State.left, State.start, RuleSet.reset]

/-- One transition. -/
def step (policy : MismatchPolicy) (tokens : List Token) (state : State) : Except Fault State :=
  match state.stage with
  | .searching index =>
    if index = state.rules.length then .ok { state with stage := .satisfied }
    else do
      let rule ← Sequence.fetch state.rules index
      match ← findFrom policy rule state.cursor (tokens.drop state.cursor) with
      | some found => return state.take index found
      | none => return { state with stage := .failed }
  | .satisfied | .failed => .ok state

/-- What a transition from a pass at some index can do. -/
inductive Stepped (policy : MismatchPolicy) (tokens : List Token) (state : State) (index : Nat) :
    Except Fault State → Prop
  | satisfied :
      index = state.rules.length →
      Stepped policy tokens state index (.ok { state with stage := .satisfied })
  | outside :
      state.rules.length < index →
      Stepped policy tokens state index (.error (.outOfRange index state.rules.length))
  | found {rule : Rule} {found : Match} :
      state.rules[index]? = some rule →
      findFrom policy rule state.cursor (tokens.drop state.cursor) = .ok (some found) →
      Stepped policy tokens state index (.ok (state.take index found))
  | failed {rule : Rule} :
      state.rules[index]? = some rule →
      findFrom policy rule state.cursor (tokens.drop state.cursor) = .ok none →
      Stepped policy tokens state index (.ok { state with stage := .failed })
  | mismatch {rule : Rule} {fault : Fault} :
      state.rules[index]? = some rule →
      findFrom policy rule state.cursor (tokens.drop state.cursor) = .error fault →
      Stepped policy tokens state index (.error fault)

variable {policy : MismatchPolicy} {tokens : List Token} {rules : RuleSet}
  {state next first : State} {anchor count index following transitions : Nat}

theorem step_stepped (policy : MismatchPolicy) (tokens : List Token)
    (stage : state.stage = .searching index) :
    Stepped policy tokens state index (step policy tokens state) := by
  simp only [step, stage]
  by_cases done : index = state.rules.length
  · rw [if_pos done]
    exact .satisfied done
  · rw [if_neg done, Sequence.fetch]
    cases present : state.rules[index]? with
    | none =>
      have beyond := List.getElem?_eq_none_iff.mp present
      exact .outside (Nat.lt_of_le_of_ne beyond (Ne.symm done))
    | some rule =>
      simp only [bind, Except.bind]
      cases answer : findFrom policy rule state.cursor (tokens.drop state.cursor) with
      | error fault => exact .mismatch present answer
      | ok found =>
        cases found with
        | none => exact .failed present answer
        | some found => exact .found present answer

/-- Each transition leaves fewer of them. -/
theorem left_lt_of_step (stage : state.stage = .searching index)
    (stepped : step policy tokens state = .ok next) : next.left < state.left := by
  have ends : index ≤ state.rules.length → 0 < state.left := by
    intro inside
    simp only [State.left, stage]
    omega
  have outcome := stepped ▸ step_stepped policy tokens stage
  cases outcome with
  | satisfied done => exact ends (Nat.le_of_eq done)
  | failed present => exact ends (Nat.le_of_lt (List.getElem?_eq_some_iff.mp present).1)
  | found present =>
    -- Only a match lets the pass go on, and with the next index.
    have inside := (List.getElem?_eq_some_iff.mp present).1
    simp only [State.left, stage, State.take, List.length_set]
    omega

/-- Make transitions until the pass ends. -/
def loop (policy : MismatchPolicy) (tokens : List Token) (anchor : Nat) (state : State) :
    Except Fault (Option Pass) :=
  match _stage : state.stage with
  | .searching _ =>
    match _stepped : step policy tokens state with
    | .ok next => loop policy tokens anchor next
    | .error fault => .error fault
  | .satisfied => .ok (some ⟨state.rules, state.previous.getD anchor⟩)
  | .failed => .ok none
termination_by state.left
decreasing_by exact left_lt_of_step _stage _stepped

theorem loop_unfold (policy : MismatchPolicy) (tokens : List Token) (anchor : Nat)
    (state : State) :
    loop policy tokens anchor state =
      match state.stage with
      | .searching _ => step policy tokens state >>= loop policy tokens anchor
      | .satisfied => .ok (some ⟨state.rules, state.previous.getD anchor⟩)
      | .failed => .ok none := by
  rw [loop]
  split
  next stage =>
    rw [stage]
    split
    next stepped => rw [stepped]; rfl
    next stepped => rw [stepped]; rfl
  next stage => rw [stage]
  next stage => rw [stage]

/-! ## The loop is the pass -/

/-- What a pass returns when some rules were done before it. -/
def Pass.after (done : RuleSet) (later : Pass) : Pass := { later with rules := done ++ later.rules }

/-- With the rules before the index done, the loop does what a pass does with the waiting
ones. -/
theorem loop_searching (policy : MismatchPolicy) (tokens : List Token) (anchor : Nat)
    (done waiting : RuleSet) (cursor : Nat) (previous : Option Nat) :
    loop policy tokens anchor ⟨done ++ waiting, cursor, previous, .searching done.length⟩ =
      (pass policy tokens anchor cursor previous waiting).map (·.map (Pass.after done)) := by
  induction waiting generalizing done cursor previous with
  | nil =>
    -- The index is the number of rules, and the next transition ends the pass.
    have stepped : step policy tokens ⟨done ++ [], cursor, previous, .searching done.length⟩ =
        .ok ⟨done ++ [], cursor, previous, .satisfied⟩ := by
      simp [step]
    rw [loop_unfold]
    simp only [stepped, bind, Except.bind]
    rw [loop_unfold]
    rfl
  | cons rule waiting ih =>
    -- The index is that of the first rule waiting. What it captures is written over it, so
    -- it is then the last one done.
    have inside : done.length ≠ (done ++ rule :: waiting).length := by
      simp
    have fetched : Sequence.fetch (done ++ rule :: waiting) done.length = .ok rule := by
      rw [Sequence.fetch_eq_ok_iff]
      simp
    have written : ∀ taken : Rule,
        (done ++ rule :: waiting).set done.length taken = (done ++ [taken]) ++ waiting := by
      intro taken
      simp
    rw [loop_unfold]
    simp only [step, if_neg inside, fetched, pass, bind, Except.bind]
    cases findFrom policy rule cursor (tokens.drop cursor) with
    | error fault => rfl
    | ok answer =>
      cases answer with
      | none =>
        simp only [pure, Except.pure]
        rw [loop_unfold]
        rfl
      | some found =>
        have last : ∀ taken : Rule, done.length + 1 = (done ++ [taken]).length := by
          intro taken
          simp
        simp only [pure, Except.pure, State.take, written]
        rw [last, ih]
        cases pass policy tokens anchor (found.position + 1) (some found.position) waiting with
        | error fault => rfl
        | ok later =>
          cases later with
          | none => rfl
          | some later =>
            have joined : ∀ taken : Rule, later.after (done ++ [taken]) =
                Pass.after done { later with rules := taken :: later.rules } := by
              intro taken
              simp [Pass.after]
            cases previous <;> simp only [Except.map, Option.map_some, joined]

/-- The loop over the transitions is the pass. -/
theorem loop_start (policy : MismatchPolicy) (tokens : List Token) (rules : RuleSet)
    (anchor : Nat) :
    loop policy tokens anchor (.start rules anchor) = align policy tokens rules anchor := by
  have whole := loop_searching policy tokens anchor [] rules.reset anchor none
  have same : (fun passed : Option Pass => passed.map (Pass.after [])) = id := Option.map_id
  rw [same, Except.map_id] at whole
  exact whole

/-! ## The states of a pass -/

/-- The states that a pass reaches, with the number of transitions to them. -/
inductive Reaches (policy : MismatchPolicy) (tokens : List Token) (first : State) :
    (transitions : Nat) → State → Prop
  | start : Reaches policy tokens first 0 first
  | step {transitions index : Nat} {state next : State} :
      Reaches policy tokens first transitions state → state.stage = .searching index →
      step policy tokens state = .ok next → Reaches policy tokens first (transitions + 1) next

theorem Reaches.add_left_le (reached : Reaches policy tokens first transitions state) :
    transitions + state.left ≤ first.left := by
  induction reached with
  | start => exact Nat.le_of_eq (Nat.zero_add _)
  | step _ stage stepped ih =>
    have fewer := left_lt_of_step stage stepped
    omega

/-- Where a pass is when it looks for the rule with an index: among its rules, at the anchor
as long as nothing was matched, and right behind the token matched last from then on. -/
structure InBounds (anchor count index : Nat) (state : State) : Prop where
  length_eq : state.rules.length = count
  index_le : index ≤ count
  first : index = 0 → state.previous = none ∧ state.cursor = anchor
  later : 0 < index → ∃ before, state.previous = some before ∧ state.cursor = before + 1

theorem inBounds_start (rules : RuleSet) (anchor : Nat) :
    InBounds anchor rules.length 0 (.start rules anchor) where
  length_eq := List.length_map _
  index_le := Nat.zero_le _
  first _ := ⟨rfl, rfl⟩
  later positive := absurd positive (Nat.lt_irrefl 0)

theorem InBounds.step (bounds : InBounds anchor count index state)
    (stage : state.stage = .searching index) (stepped : step policy tokens state = .ok next)
    (nextStage : next.stage = .searching following) :
    InBounds anchor count following next := by
  have outcome := stepped ▸ step_stepped policy tokens stage
  cases outcome with
  | satisfied => cases nextStage
  | failed => cases nextStage
  | @found _ found present =>
    cases nextStage
    have inside := (List.getElem?_eq_some_iff.mp present).1
    constructor
    case length_eq =>
      simp only [State.take, List.length_set]
      exact bounds.length_eq
    case index_le => exact bounds.length_eq ▸ inside
    case first => exact fun zero => absurd zero (Nat.succ_ne_zero index)
    case later => exact fun _ => ⟨found.position, rfl, rfl⟩

theorem Reaches.inBounds
    (reached : Reaches policy tokens (.start rules anchor) transitions state) :
    ∀ index, state.stage = .searching index → InBounds anchor rules.length index state := by
  induction reached with
  | start =>
    intro index stage
    cases stage
    exact inBounds_start rules anchor
  | step _ stage stepped ih =>
    intro following nextStage
    exact (ih _ stage).step stage stepped nextStage

/-- A rule matches the first token that its pattern reads. -/
theorem findFrom_ending (policy : MismatchPolicy) (rule : Rule) (position : Nat)
    (tokens : List Token) :
    Ending policy [rule.pattern] tokens
      ((rule.pattern.firstReading tokens).map fun fit =>
        ⟨position + fit.skipped, { rule with value := some fit.value }⟩)
      (findFrom policy rule position tokens) := by
  rw [findFrom_eq]
  exact (firstFit_ending policy rule.pattern tokens).bind .returned

theorem findFrom_bounds {rule : Rule} {position : Nat} {found : Match}
    (answer : findFrom policy rule position tokens = .ok (some found)) :
    position ≤ found.position ∧ found.position < position + tokens.length := by
  have reading := (findFrom_ending policy rule position tokens).eq_of_ok answer
  obtain ⟨fit, first, rfl⟩ := Option.map_eq_some_iff.mp reading.symm
  have fits := (rule.pattern.firstReading_eq_some_iff tokens fit).mp first
  obtain ⟨_, present, _⟩ := fits.reads
  have inside := (List.getElem?_eq_some_iff.mp present).1
  exact ⟨Nat.le_add_right _ _, Nat.add_lt_add_left inside position⟩

/-- What a transition from an index relies on: there is a rule to ask for, and a token that
is found for it stands at the cursor or later, behind the token matched last. -/
structure Advances (policy : MismatchPolicy) (tokens : List Token) (count index : Nat)
    (state : State) : Prop where
  fetched : index < count → ∃ rule, Sequence.fetch state.rules index = .ok rule
  found : ∀ rule found, Sequence.fetch state.rules index = .ok rule →
    findFrom policy rule state.cursor (tokens.drop state.cursor) = .ok (some found) →
    state.cursor ≤ found.position ∧ found.position < tokens.length ∧
      ∀ before, state.previous = some before → before + 1 ≤ found.position

theorem InBounds.advances (bounds : InBounds anchor count index state)
    (policy : MismatchPolicy) (tokens : List Token) : Advances policy tokens count index state := by
  constructor
  case fetched =>
    intro inside
    have within : index < state.rules.length := bounds.length_eq ▸ inside
    have present := List.getElem?_eq_getElem within
    exact ⟨_, (Sequence.fetch_eq_ok_iff _ _ _).mpr present⟩
  case found =>
    intro rule found _ answer
    obtain ⟨lower, upper⟩ := findFrom_bounds answer
    rw [List.length_drop] at upper
    refine ⟨lower, by omega, ?_⟩
    -- At the first index nothing has been matched, and from then on the cursor stands right
    -- behind the match before.
    intro before matched
    rcases Nat.eq_zero_or_pos index with zero | positive
    · rw [(bounds.first zero).1] at matched
      cases matched
    · obtain ⟨_, previous, cursor⟩ := bounds.later positive
      cases previous.symm.trans matched
      exact cursor ▸ lower

/-! ## The end of a pass -/

/-- What a pass returns when it comes to an end. -/
inductive Ended (policy : MismatchPolicy) (tokens : List Token) (anchor : Nat) (last : State) :
    Except Fault (Option Pass) → Prop
  | satisfied :
      last.stage = .satisfied →
      Ended policy tokens anchor last (.ok (some ⟨last.rules, last.previous.getD anchor⟩))
  | failed : last.stage = .failed → Ended policy tokens anchor last (.ok none)
  /-- Only a pass that is to abort ends before one of the last two stages. -/
  | mismatch {index : Nat} {category text : String} :
      policy = .abort → last.stage = .searching index →
      step policy tokens last = .error (.typeMismatch category text) →
      Ended policy tokens anchor last (.error (.typeMismatch category text))

theorem Reaches.ended
    (reached : Reaches policy tokens (.start rules anchor) transitions state) :
    ∃ total last, Reaches policy tokens (.start rules anchor) total last ∧
      Ended policy tokens anchor last (loop policy tokens anchor state) := by
  -- The state of the recursive call is reached as well, and within bounds the rule asked for
  -- is there, so the only fault left is a mismatch.
  fun_induction loop policy tokens anchor state generalizing transitions with
  | case1 state index stage next stepped ih => exact ih (reached.step stage stepped)
  | case2 state index stage fault stepped =>
    have bounds := reached.inBounds index stage
    have outcome := stepped ▸ step_stepped policy tokens stage
    cases outcome with
    | outside beyond =>
      exact absurd bounds.index_le (Nat.not_le_of_lt (bounds.length_eq ▸ beyond))
    | @mismatch rule _ _ failed =>
      have ending := findFrom_ending policy rule state.cursor (tokens.drop state.cursor)
      obtain ⟨aborts, category, text, rfl⟩ := ending.abort_of_error failed
      exact ⟨transitions, state, reached, .mismatch aborts stage stepped⟩
  | case3 state stage => exact ⟨transitions, state, reached, .satisfied stage⟩
  | case4 state stage => exact ⟨transitions, state, reached, .failed stage⟩

end InPlace

theorem search_eq_emptyCollection_iff (options : SearchOptions) (tokens : List Token)
    (rules : RuleSet) : search options tokens rules = .error .emptyCollection ↔ rules = [] := by
  constructor
  · intro failed
    by_contra nonempty
    have ending := search_ending options tokens rules nonempty
    obtain ⟨_, _, _, mismatch⟩ := ending.abort_of_error failed
    cases mismatch
  · rintro rfl
    rfl

/-- The only faults of a search are an empty rule set and, where it is to abort, a mismatch.
In every state that a pass reaches, its index and its cursor are where the rules and the tokens
allow them to be, and at most one transition more than there are rules brings it to its end. -/
theorem search_safe (options : SearchOptions) (tokens : List Token) (rules : RuleSet) :
    InPlace.search options tokens rules = search options tokens rules ∧
    (search options tokens rules = .error .emptyCollection ↔ rules = []) ∧
    (∀ fault, search options tokens rules = .error fault →
      fault = .emptyCollection ∨
        options.onMismatch = .abort ∧ ∃ category text, fault = .typeMismatch category text) ∧
    ∀ anchor,
      InPlace.loop options.onMismatch tokens anchor (.start rules anchor) =
        InPlace.align options.onMismatch tokens rules anchor ∧
      (∀ transitions state index,
        InPlace.Reaches options.onMismatch tokens (.start rules anchor) transitions state →
        state.stage = .searching index →
          InPlace.InBounds anchor rules.length index state ∧
            InPlace.Advances options.onMismatch tokens rules.length index state) ∧
      ∃ transitions last,
        InPlace.Reaches options.onMismatch tokens (.start rules anchor) transitions last ∧
        transitions ≤ rules.length + 1 ∧
        InPlace.Ended options.onMismatch tokens anchor last
          (InPlace.align options.onMismatch tokens rules anchor) := by
  refine ⟨InPlace.search_eq options tokens rules,
    search_eq_emptyCollection_iff options tokens rules, ?_, ?_⟩
  · intro fault failed
    by_cases empty : rules = []
    · have none := (search_eq_emptyCollection_iff options tokens rules).mpr empty
      exact .inl (Except.error.inj (failed.symm.trans none))
    · exact .inr ((search_ending options tokens rules empty).abort_of_error failed)
  · intro anchor
    have same := InPlace.loop_start options.onMismatch tokens rules anchor
    refine ⟨same, ?_, ?_⟩
    · intro transitions state index reached stage
      have bounds := reached.inBounds index stage
      exact ⟨bounds, bounds.advances options.onMismatch tokens⟩
    · obtain ⟨transitions, last, reached, ended⟩ :=
        InPlace.Reaches.ended (.start : InPlace.Reaches options.onMismatch tokens
          (.start rules anchor) 0 (.start rules anchor))
      have counted := reached.add_left_le
      rw [InPlace.left_start] at counted
      exact ⟨transitions, last, reached, by omega, same ▸ ended⟩

/-- The search aborts in a pass, at the date that the tagger has not resolved. -/
theorem search_safe_reminders :
    search ⟨.abort, .keep, none⟩ reminders reminderRules =
      .error (.typeMismatch "date" "someday") ∧
    ∃ transitions last,
      InPlace.Reaches .abort reminders (.start reminderRules 0) transitions last ∧
      transitions ≤ 3 ∧
      InPlace.Ended .abort reminders 0 last (.error (.typeMismatch "date" "someday")) := by
  have stops : InPlace.align .abort reminders reminderRules 0 =
      .error (.typeMismatch "date" "someday") := by rfl
  obtain ⟨_, _, _, passes⟩ := search_safe ⟨.abort, .keep, none⟩ reminders reminderRules
  obtain ⟨_, _, transitions, last, reached, counted, ended⟩ := passes 0
  exact ⟨by decide +kernel, transitions, last, reached, counted, stops ▸ ended⟩

end SlotFilling
