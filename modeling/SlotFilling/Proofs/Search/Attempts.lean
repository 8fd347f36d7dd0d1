import SlotFilling.Proofs.Search.Reading

/-!
# The tokens that a search tries

A search tries a pattern on a token when it asks whether the pattern reads it. Which
pairs are tried follows from readings alone, without a policy or a fault. An aborting
search that tries every anchor returns exactly when it tries no pattern on a token that
the pattern accepts and cannot read.
-/
namespace SlotFilling

namespace Pattern

/-- A pattern that accepts a token and finds no value of its kind there. -/
def Mismatches (pattern : Pattern) (token : Token) : Prop :=
  pattern.accepts token = true ∧ pattern.value? token = none

theorem not_mismatches_of_reads {pattern : Pattern} {token : Token}
    (reads : pattern.Reads token) : ¬ pattern.Mismatches token := by
  intro mismatch
  have present := reads.2
  simp [mismatch.2] at present

/-- What becomes of a token that an aborting search tries. -/
inductive Attempted (pattern : Pattern) (token : Token) : Prop
  | read {value : SlotValue} :
      pattern.Reads token → pattern.attempt .abort token = .ok (some value) →
      Attempted pattern token
  | mismatched {fault : Fault} :
      pattern.Mismatches token → pattern.attempt .abort token = .error fault →
      Attempted pattern token
  | rejected :
      ¬ pattern.Reads token → ¬ pattern.Mismatches token →
      pattern.attempt .abort token = .ok none → Attempted pattern token

theorem attempted (pattern : Pattern) (token : Token) : Attempted pattern token := by
  have same : pattern.attempt .abort token = pattern.read token := by
    unfold attempt
    cases pattern.read token <;> rfl
  cases answer : pattern.read token with
  | error fault =>
    obtain ⟨accepted, absent, _⟩ := (pattern.read_eq_error_iff token fault).mp answer
    exact .mismatched ⟨accepted, absent⟩ (same.trans answer)
  | ok read =>
    cases read with
    | some value =>
      obtain ⟨accepted, present⟩ := (pattern.read_eq_some_iff token value).mp answer
      exact .read ⟨accepted, Option.isSome_of_eq_some present⟩ (same.trans answer)
    | none =>
      have rejected := (pattern.read_eq_none_iff token).mp answer
      refine .rejected ?_ ?_ (same.trans answer)
      · exact fun reads => Bool.false_ne_true (rejected.symm.trans reads.1)
      · exact fun mismatch => Bool.false_ne_true (rejected.symm.trans mismatch.1)

theorem firstFit_cons_of_read {pattern : Pattern} {policy : MismatchPolicy} {token : Token}
    {value : SlotValue} (read : pattern.attempt policy token = .ok (some value))
    (rest : List Token) :
    pattern.firstFit policy (token :: rest) = .ok (some ⟨0, value, rest⟩) := by
  simp only [firstFit, read]
  rfl

theorem firstFit_cons_of_rejected {pattern : Pattern} {policy : MismatchPolicy} {token : Token}
    (rejected : pattern.attempt policy token = .ok none) (rest : List Token) :
    pattern.firstFit policy (token :: rest) =
      (pattern.firstFit policy rest).map
        (·.map fun fit => { fit with skipped := fit.skipped + 1 }) := by
  simp only [firstFit, rejected]
  rfl

end Pattern

/-- The pairs that are tried when each pattern in turn looks for the first token that it
reads. -/
inductive Tried : List Pattern → List Token → Pattern → Token → Prop
  | here {pattern : Pattern} {others : List Pattern} {token : Token} {rest : List Token} :
      Tried (pattern :: others) (token :: rest) pattern token
  | skip {pattern tried : Pattern} {others : List Pattern} {token asked : Token}
      {rest : List Token} :
      ¬ pattern.Reads token → Tried (pattern :: others) rest tried asked →
      Tried (pattern :: others) (token :: rest) tried asked
  | take {pattern tried : Pattern} {others : List Pattern} {token asked : Token}
      {rest : List Token} :
      pattern.Reads token → Tried others rest tried asked →
      Tried (pattern :: others) (token :: rest) tried asked

/-- The pairs that are tried when every token is tried as an anchor. -/
inductive TriedFrom (first : Pattern) (others : List Pattern) : List Token → Pattern → Token → Prop
  | anchor {token : Token} {rest : List Token} : TriedFrom first others (token :: rest) first token
  | pass {tried : Pattern} {token asked : Token} {rest : List Token} :
      first.Reads token → Tried others rest tried asked →
      TriedFrom first others (token :: rest) tried asked
  | onward {tried : Pattern} {token asked : Token} {rest : List Token} :
      TriedFrom first others rest tried asked → TriedFrom first others (token :: rest) tried asked

theorem TriedFrom.of_mem (first : Pattern) (others : List Pattern) {tokens : List Token}
    {token : Token} (member : token ∈ tokens) : TriedFrom first others tokens first token := by
  induction member with
  | head => exact .anchor
  | tail _ _ ih => exact .onward ih

theorem Tried.append {patterns : List Pattern} {tokens : List Token} {pattern : Pattern}
    {token : Token} (tried : Tried patterns tokens pattern token) (more : List Token) :
    Tried patterns (tokens ++ more) pattern token := by
  induction tried with
  | here => exact .here
  | skip unread _ ih => exact .skip unread ih
  | take reads _ ih => exact .take reads ih

theorem TriedFrom.append {first : Pattern} {others : List Pattern} {tokens : List Token}
    {pattern : Pattern} {token : Token} (tried : TriedFrom first others tokens pattern token)
    (more : List Token) : TriedFrom first others (tokens ++ more) pattern token := by
  induction tried with
  | anchor => exact .anchor
  | pass reads later => exact .pass reads (later.append more)
  | onward _ ih => exact .onward ih

/-! ## Runs that return -/

theorem exists_ok_map_iff {α β : Type} (run : Except Fault α) (change : α → β) :
    (∃ result, run.map change = .ok result) ↔ ∃ value, run = .ok value := by
  cases run with
  | error fault => simp [Except.map]
  | ok value => simp [Except.map]

private theorem fillAll_cons_of_read {pattern : Pattern} {others : List Pattern} {token : Token}
    {value : SlotValue} (read : pattern.attempt .abort token = .ok (some value))
    (rest : List Token) :
    (∃ found, fillAll .abort (pattern :: others) (token :: rest) = .ok found) ↔
      ∃ found, fillAll .abort others rest = .ok found := by
  rw [← exists_ok_map_iff (fillAll .abort others rest)
    (·.map fun captures => (⟨0, value⟩ :: captures : List Capture))]
  simp only [fillAll, Pattern.firstFit_cons_of_read read]
  rfl

private theorem fillAll_cons_of_rejected {pattern : Pattern} {others : List Pattern}
    {token : Token} (rejected : pattern.attempt .abort token = .ok none) (rest : List Token) :
    (∃ found, fillAll .abort (pattern :: others) (token :: rest) = .ok found) ↔
      ∃ found, fillAll .abort (pattern :: others) rest = .ok found := by
  simp only [fillAll, Pattern.firstFit_cons_of_rejected rejected]
  cases pattern.firstFit .abort rest with
  | error fault => exact Iff.rfl
  | ok found =>
    cases found with
    | none => exact Iff.rfl
    | some fit =>
      -- One more token in front changes how many are skipped and nothing else.
      exact (exists_ok_map_iff (fillAll .abort others fit.rest) _).trans
        (exists_ok_map_iff (fillAll .abort others fit.rest) _).symm

theorem fillAll_returns_iff (patterns : List Pattern) (tokens : List Token) :
    (∃ found, fillAll .abort patterns tokens = .ok found) ↔
      ∀ pattern token, Tried patterns tokens pattern token → ¬ pattern.Mismatches token := by
  -- A token that is read hands the rest to the other patterns, and one that is rejected
  -- leaves the same patterns: hence an induction on the tokens within one on the patterns.
  induction patterns generalizing tokens with
  | nil => exact iff_of_true ⟨_, rfl⟩ (by rintro _ _ ⟨⟩)
  | cons pattern others ih =>
    induction tokens with
    | nil => exact iff_of_true ⟨none, rfl⟩ (by rintro _ _ ⟨⟩)
    | cons token rest ihRest =>
      cases pattern.attempted token with
      | read reads answer =>
        rw [fillAll_cons_of_read answer, ih rest]
        constructor
        · intro clear tried asked isTried
          cases isTried with
          | here => exact Pattern.not_mismatches_of_reads reads
          | skip unread => exact absurd reads unread
          | take _ later => exact clear tried asked later
        · intro clear tried asked later
          exact clear tried asked (.take reads later)
      | mismatched mismatch answer =>
        refine iff_of_false ?_ (fun clear => clear pattern token .here mismatch)
        simp [fillAll, Pattern.firstFit, answer, bind, Except.bind]
      | rejected unread unmatched answer =>
        rw [fillAll_cons_of_rejected answer, ihRest]
        constructor
        · intro clear tried asked isTried
          cases isTried with
          | here => exact unmatched
          | skip _ later => exact clear tried asked later
          | take reads => exact absurd reads unread
        · intro clear tried asked later
          exact clear tried asked (.skip unread later)

private theorem alignmentAt_of_read {first : Pattern} {token : Token} {value : SlotValue}
    (read : first.attempt .abort token = .ok (some value)) (others : List Pattern) (anchor : Nat)
    (rest : List Token) :
    alignmentAt ⟨.abort, .keep, none⟩ first others anchor 0 token rest =
      (fillAll .abort others rest).map (·.map (⟨anchor, value⟩ :: ·)) := by
  simp only [alignmentAt, read]
  rfl

private theorem searchFrom_cons_of_read {first : Pattern} {token : Token} {value : SlotValue}
    (read : first.attempt .abort token = .ok (some value)) (others : List Pattern) (anchor : Nat)
    (rest : List Token) :
    (∃ found, searchFrom ⟨.abort, .keep, none⟩ first others anchor 0 none (token :: rest) =
        .ok found) ↔
      (∃ found, fillAll .abort others rest = .ok found) ∧
        ∃ found, searchFrom ⟨.abort, .keep, none⟩ first others (anchor + 1) 0 none rest =
          .ok found := by
  rw [searchFrom, if_neg (by simp), alignmentAt_of_read read]
  cases fillAll .abort others rest with
  | error fault => simp [bind, Except.bind, Except.map]
  | ok filled =>
    simp only [Except.ok.injEq, exists_eq', true_and]
    cases filled with
    | none => exact Iff.rfl
    | some later =>
      exact exists_ok_map_iff
        (searchFrom ⟨.abort, .keep, none⟩ first others (anchor + 1) 0 none rest)
        (populate (first :: others) (⟨anchor, value⟩ :: later) :: ·)

theorem searchFrom_returns_iff (first : Pattern) (others : List Pattern) (tokens : List Token)
    (anchor : Nat) :
    (∃ found, searchFrom ⟨.abort, .keep, none⟩ first others anchor 0 none tokens = .ok found) ↔
      ∀ pattern token, TriedFrom first others tokens pattern token →
        ¬ pattern.Mismatches token := by
  induction tokens generalizing anchor with
  | nil => exact iff_of_true ⟨[], rfl⟩ (by rintro _ _ ⟨⟩)
  | cons token rest ih =>
    cases first.attempted token with
    | read reads answer =>
      rw [searchFrom_cons_of_read answer, fillAll_returns_iff, ih (anchor + 1)]
      constructor
      · rintro ⟨pass, onward⟩ tried asked isTried
        cases isTried with
        | anchor => exact Pattern.not_mismatches_of_reads reads
        | pass _ later => exact pass tried asked later
        | onward later => exact onward tried asked later
      · intro clear
        exact ⟨fun tried asked later => clear tried asked (.pass reads later),
          fun tried asked later => clear tried asked (.onward later)⟩
    | mismatched mismatch answer =>
      refine iff_of_false ?_ (fun clear => clear first token .anchor mismatch)
      simp [searchFrom, alignmentAt, answer, bind, Except.bind]
    | rejected unread unmatched answer =>
      have skipped : searchFrom ⟨.abort, .keep, none⟩ first others anchor 0 none (token :: rest) =
          searchFrom ⟨.abort, .keep, none⟩ first others (anchor + 1) 0 none rest := by
        rw [searchFrom, if_neg (by simp), alignmentAt, answer]
        rfl
      rw [skipped, ih (anchor + 1)]
      constructor
      · intro clear tried asked isTried
        cases isTried with
        | anchor => exact unmatched
        | pass reads => exact absurd reads unread
        | onward later => exact clear tried asked later
      · intro clear tried asked later
        exact clear tried asked (.onward later)

/-- An aborting search that tries every anchor returns exactly when nothing that it tries
is accepted and cannot be read. -/
theorem search_abort_returns_iff (first : Rule) (others : RuleSet) (tokens : List Token) :
    (∃ results, search ⟨.abort, .keep, none⟩ tokens (first :: others) = .ok results) ↔
      ∀ pattern token, TriedFrom first.pattern (RuleSet.patterns others) tokens pattern token →
        ¬ pattern.Mismatches token :=
  searchFrom_returns_iff first.pattern (RuleSet.patterns others) tokens 0

end SlotFilling
