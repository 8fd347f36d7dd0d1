import SlotFilling.Proofs.Search.Comparison
import SlotFilling.Proofs.Search.Order

/-!
# Longer rule lists

Rules that follow only refine. The pass for the longer list begins with the pass for the
shorter one, so its result, cut down to the first rules, is the result of the shorter
list from the same anchor. The anchors that survive are the first ones, as no later
anchor succeeds once one has failed. An aborting search for the shorter list tries
nothing that the search for the longer one does not try.
-/
namespace SlotFilling

theorem take_populate (patterns more : List Pattern) (captures : List Capture) :
    (populate (patterns ++ more) captures).take patterns.length =
      populate patterns (captures.take patterns.length) := by
  simp only [populate, List.take_zipWith, List.take_left']

/-- What the first patterns have taken does not depend on those that follow. -/
theorem Filling.take_patterns {tokens : List Token} {next : Nat} {patterns more : List Pattern}
    {captures : List Capture} (filling : Filling tokens next (patterns ++ more) captures) :
    Filling tokens next patterns (captures.take patterns.length) := by
  induction patterns generalizing next captures with
  | nil => exact .done
  | cons pattern others ih =>
    cases filling with
    | take present read passed rest => exact .take present read passed (ih rest)

theorem Anchored.take_patterns {tokens : List Token} {anchor : Nat} {first : Pattern}
    {others more : List Pattern} {result : RuleSet}
    (anchored : Anchored tokens anchor (first :: (others ++ more)) result) :
    Anchored tokens anchor (first :: others) (result.take (others.length + 1)) := by
  cases anchored with
  | intro here read filling =>
    rw [populate_cons, List.take_succ_cons, take_populate]
    exact .intro here read filling.take_patterns

theorem alignments_take_prefix (first : Pattern) (others more : List Pattern)
    (tokens : List Token) :
    (alignments (first :: (others ++ more)) tokens).map (·.take (others.length + 1)) <+:
      alignments (first :: others) tokens := by
  apply alignments_map_prefix
  · intro anchor result found
    have anchored := (alignmentFrom_eq_some_iff _ _ _ _).mp found
    exact (alignmentFrom_eq_some_iff _ _ _ _).mpr anchored.take_patterns
  · intro anchor token present unread
    exact alignmentFrom_eq_none_of_unread present unread

theorem Tried.append_patterns {patterns : List Pattern} {tokens : List Token} {pattern : Pattern}
    {token : Token} (tried : Tried patterns tokens pattern token) (more : List Pattern) :
    Tried (patterns ++ more) tokens pattern token := by
  induction tried with
  | here => exact .here
  | skip unread _ ih => exact .skip unread ih
  | take reads _ ih => exact .take reads ih

theorem TriedFrom.append_patterns {first : Pattern} {others : List Pattern} {tokens : List Token}
    {pattern : Pattern} {token : Token} (tried : TriedFrom first others tokens pattern token)
    (more : List Pattern) : TriedFrom first (others ++ more) tokens pattern token := by
  induction tried with
  | anchor => exact .anchor
  | pass reads later => exact .pass reads (later.append_patterns more)
  | onward _ ih => exact .onward ih

/-- The results for a longer rule list, cut down to the first rules, are the first of the
results for these rules alone. -/
theorem search_more_rules (tokens : List Token) (rules more : RuleSet) (nonempty : rules ≠ []) :
    (∃ results refined, search ⟨.skipToken, .keep, none⟩ tokens rules = .ok results ∧
      search ⟨.skipToken, .keep, none⟩ tokens (rules ++ more) = .ok refined ∧
      refined.map (·.take rules.length) <+: results) ∧
    (∀ refined, search ⟨.abort, .keep, none⟩ tokens (rules ++ more) = .ok refined →
      ∃ results, search ⟨.abort, .keep, none⟩ tokens rules = .ok results ∧
        refined.map (·.take rules.length) <+: results) := by
  cases rules with
  | nil => exact absurd rfl nonempty
  | cons first others =>
    refine search_related
      (fun results refined => refined.map (·.take (others.length + 1)) <+: results)
      first others (others ++ more) tokens tokens ?_ ?_
    · rw [RuleSet.patterns_append, ← RuleSet.length_patterns]
      exact alignments_take_prefix first.pattern _ _ tokens
    · intro pattern token tried
      rw [RuleSet.patterns_append]
      exact tried.append_patterns _

/-- Of three reminders, the last one is not followed by another. -/
theorem search_more_rules_reminders :
    reminderRules ≠ [] ∧
    ∃ results refined, search ⟨.skipToken, .keep, none⟩ reminders reminderRules = .ok results ∧
      search ⟨.skipToken, .keep, none⟩ reminders (reminderRules ++ reminderRules.take 1) =
        .ok refined ∧
      results.map RuleSet.positions = [[0, 3], [2, 3], [4, 5]] ∧
      refined.map RuleSet.positions = [[0, 3, 4], [2, 3, 4]] ∧
      refined.map (·.take reminderRules.length) <+: results := by
  have nonempty : reminderRules ≠ [] := by decide
  obtain ⟨⟨results, refined, returned, refinedReturned, refines⟩, _⟩ :=
    search_more_rules reminders reminderRules (reminderRules.take 1) nonempty
  have found := search_reminders
  have foundRefined : (search ⟨.skipToken, .keep, none⟩ reminders
      (reminderRules ++ reminderRules.take 1)).map (·.map RuleSet.positions) =
        .ok [[0, 3, 4], [2, 3, 4]] := by decide +kernel
  rw [returned] at found
  rw [refinedReturned] at foundRefined
  exact ⟨nonempty, results, refined, returned, refinedReturned, Except.ok.inj found,
    Except.ok.inj foundRefined, refines⟩

end SlotFilling
