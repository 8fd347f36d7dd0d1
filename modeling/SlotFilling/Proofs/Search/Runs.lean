import SlotFilling.Proofs.Search.Alignments

/-!
# What a search returns

A search returns the alignments that its options select, in the order of their
anchors. The only other way for it to end is a mismatch: it is to abort, and some
pattern accepts a token that it cannot read.
-/
namespace SlotFilling

/-- How a run over tokens may end: it returns the value, or it was to abort and stops
at a token that one of the patterns accepts without finding a value. -/
inductive Ending (policy : MismatchPolicy) (patterns : List Pattern) (tokens : List Token)
    {α : Type} (value : α) : Except Fault α → Prop
  | returned : Ending policy patterns tokens value (.ok value)
  | mismatch {pattern : Pattern} {token : Token} :
      policy = .abort → pattern ∈ patterns → token ∈ tokens →
      pattern.accepts token = true → pattern.value? token = none →
      Ending policy patterns tokens value (.error (.typeMismatch pattern.category token.text))

namespace Ending

variable {policy : MismatchPolicy} {patterns wider : List Pattern} {tokens longer : List Token}
  {α β : Type}

theorem mono {value : α} {run : Except Fault α} (ending : Ending policy patterns tokens value run)
    (morePatterns : patterns ⊆ wider) (moreTokens : tokens ⊆ longer) :
    Ending policy wider longer value run := by
  cases ending with
  | returned => exact .returned
  | mismatch aborts isPattern isToken accepted absent =>
    exact .mismatch aborts (morePatterns isPattern) (moreTokens isToken) accepted absent

theorem bind {value : α} {run : Except Fault α} {result : β} {next : α → Except Fault β}
    (ending : Ending policy patterns tokens value run)
    (continued : Ending policy patterns tokens result (next value)) :
    Ending policy patterns tokens result (run >>= next) := by
  cases ending with
  | returned => exact continued
  | mismatch aborts isPattern isToken accepted absent =>
    exact .mismatch aborts isPattern isToken accepted absent

theorem eq_ok_of_skipToken {value : α} {run : Except Fault α}
    (ending : Ending .skipToken patterns tokens value run) : run = .ok value := by
  cases ending with
  | returned => rfl
  | mismatch aborts => exact absurd aborts (by decide)

theorem eq_of_ok {value result : α} {run : Except Fault α}
    (ending : Ending policy patterns tokens value run) (returned : run = .ok result) :
    result = value := by
  cases ending with
  | returned => exact (Except.ok.inj returned).symm
  | mismatch => cases returned

end Ending

theorem attempt_ending (policy : MismatchPolicy) (pattern : Pattern) (token : Token) :
    Ending policy [pattern] [token] (pattern.reading token) (pattern.attempt policy token) := by
  unfold Pattern.attempt Pattern.reading Pattern.read
  by_cases accepted : pattern.accepts token = true
  · simp only [if_pos accepted]
    cases found : pattern.value? token with
    | some value => cases policy <;> exact .returned
    | none =>
      cases policy with
      | skipToken => exact .returned
      | abort => exact .mismatch rfl (by simp) (by simp) accepted found
  · simp only [if_neg accepted]
    cases policy <;> exact .returned

theorem firstFit_ending (policy : MismatchPolicy) (pattern : Pattern) (tokens : List Token) :
    Ending policy [pattern] tokens (pattern.firstReading tokens)
      (pattern.firstFit policy tokens) := by
  induction tokens with
  | nil => exact .returned
  | cons token rest ih =>
    have here := (attempt_ending policy pattern token).mono (fun _ => id)
      (List.cons_subset_cons token (List.nil_subset rest))
    unfold Pattern.firstFit Pattern.firstReading
    refine here.bind ?_
    cases pattern.reading token with
    | some value => exact .returned
    | none => exact (ih.mono (fun _ => id) (List.subset_cons_self token rest)).bind .returned

theorem fillAll_ending (policy : MismatchPolicy) (patterns : List Pattern) (tokens : List Token) :
    Ending policy patterns tokens (firstReadings patterns tokens)
      (fillAll policy patterns tokens) := by
  induction patterns generalizing tokens with
  | nil => exact .returned
  | cons pattern others ih =>
    have front := (firstFit_ending policy pattern tokens).mono
      (List.cons_subset_cons pattern (List.nil_subset others)) (fun _ => id)
    unfold fillAll firstReadings
    refine front.bind ?_
    cases found : pattern.firstReading tokens with
    | none => exact .returned
    | some fit =>
      have restEq := ((pattern.firstReading_eq_some_iff tokens fit).mp found).rest
      have rest := (ih fit.rest).mono (List.subset_cons_self pattern others)
        (restEq ▸ List.drop_subset (fit.skipped + 1) tokens)
      exact rest.bind .returned

theorem alignmentAt_ending (options : SearchOptions) (first : Pattern) (others : List Pattern)
    (anchor free : Nat) (token : Token) (rest : List Token) :
    Ending options.onMismatch (first :: others) (token :: rest)
      (if anchor < free then none else capturesFrom first others anchor token rest)
      (alignmentAt options first others anchor free token rest) := by
  have front := (attempt_ending options.onMismatch first token).mono
    (List.cons_subset_cons first (List.nil_subset others))
    (List.cons_subset_cons token (List.nil_subset rest))
  unfold alignmentAt capturesFrom
  refine front.bind ?_
  cases first.reading token with
  | none =>
    simp only [ite_self]
    exact .returned
  | some value =>
    by_cases covered : anchor < free
    · simp only [if_pos covered]
      exact .returned
    · simp only [if_neg covered]
      have later := (fillAll_ending options.onMismatch others rest).mono
        (List.subset_cons_self first others) (List.subset_cons_self token rest)
      exact later.bind .returned

theorem searchFrom_ending (options : SearchOptions) (first : Pattern) (others : List Pattern)
    (tokens : List Token) (anchor : Nat) (kept : Option RuleSet) (limit : Option Nat) :
    Ending options.onMismatch (first :: others) tokens
      (upTo limit (options.overlap.select kept
        ((List.range' anchor (tokens.length - anchor)).filterMap
          (alignmentFrom (first :: others) tokens))))
      (searchFrom options first others anchor (options.overlap.free kept) limit
        (tokens.drop anchor)) := by
  -- The search recurs over the tokens that are left, while the list of alignments counts
  -- anchors: both move on by one. What ties them is that the first free position is
  -- always the one after the alignment kept last.
  generalize suffix : tokens.drop anchor = remaining
  induction remaining generalizing anchor kept limit with
  | nil =>
    have finished : tokens.length - anchor = 0 := by
      rw [← List.length_drop, suffix, List.length_nil]
    rw [finished, List.range'_zero, List.filterMap_nil, OverlapPolicy.select_nil, upTo_nil]
    exact .returned
  | cons token rest ih =>
    have restEq := drop_succ_of_drop suffix
    rw [filterMap_range'_of_drop _ _ _ _ _ suffix, alignmentFrom_of_drop _ _ _ _ _ _ suffix]
    unfold searchFrom
    by_cases exhausted : limit = some 0
    · subst exhausted
      exact .returned
    · rw [if_neg exhausted]
      have within : token :: rest ⊆ tokens := suffix ▸ List.drop_subset anchor tokens
      have here := (alignmentAt_ending options first others anchor (options.overlap.free kept)
        token rest).mono (fun _ => id) within
      refine here.bind ?_
      cases found : capturesFrom first others anchor token rest with
      | none =>
        simp only [ite_self]
        exact ih (anchor + 1) kept limit restEq
      | some captures =>
        obtain ⟨value, later, rfl, paired⟩ := capturesFrom_eq_some found
        have anchorEq := anchor_populate (first :: others) ⟨anchor, value⟩ later paired
        have lastEq := last_populate (first :: others) ⟨anchor, value⟩ later paired
        simp only [Option.map_some, Option.toList_some, List.singleton_append,
          OverlapPolicy.select_cons, anchorEq]
        by_cases covered : anchor < options.overlap.free kept
        · simp only [if_pos covered]
          exact ih (anchor + 1) kept limit restEq
        · simp only [if_neg covered, upTo_cons limit exhausted]
          have freed :
              freeAfter options.overlap (options.overlap.free kept) (⟨anchor, value⟩ :: later) =
                options.overlap.free
                  (some (populate (first :: others) (⟨anchor, value⟩ :: later))) := by
            cases options.overlap with
            | keep => rfl
            | suppress => exact lastEq.symm
          rw [freed]
          exact (ih (anchor + 1) _ _ restEq).bind .returned

/-- A search returns the alignments that its options select, unless it aborts. -/
theorem search_ending (options : SearchOptions) (tokens : List Token) (rules : RuleSet)
    (nonempty : rules ≠ []) :
    Ending options.onMismatch rules.patterns tokens
      (selected options (alignments rules.patterns tokens)) (search options tokens rules) := by
  cases rules with
  | nil => exact absurd rfl nonempty
  | cons first others =>
    have whole := searchFrom_ending options first.pattern (RuleSet.patterns others) tokens 0 none
      options.limit
    have free : options.overlap.free none = 0 := by cases options.overlap <;> rfl
    rw [free, List.drop_zero, Nat.sub_zero, ← List.range_eq_range'] at whole
    exact whole

theorem eq_selected_of_search {options : SearchOptions} {tokens : List Token} {rules : RuleSet}
    {results : List RuleSet} (returned : search options tokens rules = .ok results) :
    rules ≠ [] ∧ results = selected options (alignments rules.patterns tokens) := by
  have nonempty : rules ≠ [] := by
    rintro rfl
    cases returned
  exact ⟨nonempty, (search_ending options tokens rules nonempty).eq_of_ok returned⟩

/-! ## A sentence to search -/

/-- Three reminders. The tagger has resolved the last two dates, but not the first. -/
def reminders : List Token :=
  [.of "remind" "Verb", .of "someday" "Date", .of "remind" "Verb",
    (Token.of "10 May" "Date").withEntity (.date ⟨2026, 5, 10, by decide⟩),
    .of "remind" "Verb",
    (Token.of "11 May" "Date").withEntity (.date ⟨2026, 5, 11, by decide⟩)]

def reminderRules : RuleSet :=
  .ofPatterns [⟨some "remind", "verb", none⟩, ⟨none, "date", some "when"⟩]

/-- The first two share their date. -/
theorem search_reminders :
    (search ⟨.skipToken, .keep, none⟩ reminders reminderRules).map (·.map RuleSet.positions) =
      .ok [[0, 3], [2, 3], [4, 5]] := by decide +kernel

end SlotFilling
