import SlotFilling.Proofs.Search.Comparison
import SlotFilling.Proofs.Search.Order
import Mathlib.Data.List.Infix

/-!
# Longer sentences

Tokens that follow never take a result back. An alignment stays the same when tokens
are appended, and once the pass from one anchor has failed for want of tokens, so does
the pass from every later anchor of the shorter sentence: new alignments can only come
after the old ones. An aborting search over the shorter sentence tries nothing that the
search over the longer one does not try.
-/
namespace SlotFilling

/-! ## Alignments over a longer sentence -/

section

variable {tokens : List Token} (more : List Token)

private theorem getElem?_append_of_some {position : Nat} {token : Token}
    (present : tokens[position]? = some token) : (tokens ++ more)[position]? = some token := by
  rw [List.getElem?_append_left (List.getElem?_eq_some_iff.mp present).1]
  exact present

theorem Filling.append {next : Nat} {patterns : List Pattern} {captures : List Capture}
    (filling : Filling tokens next patterns captures) :
    Filling (tokens ++ more) next patterns captures := by
  induction filling with
  | done => exact .done
  | take present read passed _ ih =>
    refine .take (getElem?_append_of_some more present) read ?_ ih
    intro position token lower upper here
    have inside := (List.getElem?_eq_some_iff.mp present).1
    rw [List.getElem?_append_left (by omega)] at here
    exact passed position token lower upper here

theorem Anchored.append {anchor : Nat} {patterns : List Pattern} {result : RuleSet}
    (anchored : Anchored tokens anchor patterns result) :
    Anchored (tokens ++ more) anchor patterns result := by
  cases anchored with
  | intro here read filling =>
    exact .intro (getElem?_append_of_some more here) read (filling.append more)

end

theorem alignments_prefix (patterns : List Pattern) (tokens more : List Token) :
    alignments patterns tokens <+: alignments patterns (tokens ++ more) := by
  cases patterns with
  | nil =>
    have empty : alignments [] tokens = [] := List.filterMap_eq_nil_iff.mpr fun _ _ => rfl
    rw [empty]
    exact List.nil_prefix
  | cons first others =>
    have front : (alignments (first :: others) tokens).map id <+:
        (List.range tokens.length).filterMap
          (alignmentFrom (first :: others) (tokens ++ more)) := by
      apply alignments_map_prefix
      · intro anchor result found
        have anchored := (alignmentFrom_eq_some_iff _ _ _ _).mp found
        exact (alignmentFrom_eq_some_iff _ _ _ _).mpr (anchored.append more)
      · intro anchor token present unread
        exact alignmentFrom_eq_none_of_unread (getElem?_append_of_some more present) unread
    rw [List.map_id] at front
    unfold alignments at front ⊢
    rw [List.length_append, List.range_add, List.filterMap_append]
    exact front.trans (List.prefix_append _ _)

/-! ## What the options select -/

theorem withoutOverlap_prefix (results more : List RuleSet) (kept : Option RuleSet) :
    withoutOverlap kept results <+: withoutOverlap kept (results ++ more) := by
  induction results generalizing kept with
  | nil => exact List.nil_prefix
  | cons result later ih =>
    simp only [List.cons_append, withoutOverlap]
    split
    · exact (List.prefix_cons_inj result).mpr (ih (some result))
    · exact ih kept

theorem selected_prefix (options : SearchOptions) {results extended : List RuleSet}
    (longer : results <+: extended) : selected options results <+: selected options extended := by
  obtain ⟨more, rfl⟩ := longer
  have chosen :
      options.overlap.select none results <+: options.overlap.select none (results ++ more) := by
    cases options.overlap with
    | keep => exact List.prefix_append results more
    | suppress => exact withoutOverlap_prefix results more none
  unfold selected upTo
  cases options.limit with
  | none => exact chosen
  | some count => exact chosen.take count

/-! ## Searches -/

/-- An aborting search that tries every anchor returns over the beginning of a sentence
over which it returns. -/
theorem search_returns_of_append (tokens more : List Token) (rules : RuleSet)
    (returned : ∃ extended, search ⟨.abort, .keep, none⟩ (tokens ++ more) rules = .ok extended) :
    ∃ results, search ⟨.abort, .keep, none⟩ tokens rules = .ok results := by
  cases rules with
  | nil =>
    obtain ⟨_, failed⟩ := returned
    cases failed
  | cons first others =>
    apply search_returns_of_tried first others others tokens (tokens ++ more) _ returned
    intro pattern token tried
    exact tried.append more

/-- Appending tokens extends the list of results: for every skipping search, and for an
aborting search that keeps overlaps, has no limit and returns over the longer sentence. -/
theorem search_append (tokens more : List Token) (rules : RuleSet) (nonempty : rules ≠ []) :
    (∀ overlap limit, ∃ results extended,
      search ⟨.skipToken, overlap, limit⟩ tokens rules = .ok results ∧
      search ⟨.skipToken, overlap, limit⟩ (tokens ++ more) rules = .ok extended ∧
      results <+: extended) ∧
    (∀ extended, search ⟨.abort, .keep, none⟩ (tokens ++ more) rules = .ok extended →
      ∃ results, search ⟨.abort, .keep, none⟩ tokens rules = .ok results ∧
        results <+: extended) := by
  have longer := alignments_prefix rules.patterns tokens more
  constructor
  · intro overlap limit
    have shortEnding := search_ending ⟨.skipToken, overlap, limit⟩ tokens rules nonempty
    have longEnding := search_ending ⟨.skipToken, overlap, limit⟩ (tokens ++ more) rules nonempty
    exact ⟨_, _, shortEnding.eq_ok_of_skipToken, longEnding.eq_ok_of_skipToken,
      selected_prefix _ longer⟩
  · intro extended returned
    obtain ⟨results, found⟩ := search_returns_of_append tokens more rules ⟨extended, returned⟩
    refine ⟨results, found, ?_⟩
    rw [(eq_selected_of_search found).2, (eq_selected_of_search returned).2]
    exact selected_prefix _ longer

/-- The last reminder is complete only with the last token. -/
theorem search_append_reminders :
    reminderRules ≠ [] ∧
    ∃ results extended,
      search ⟨.abort, .keep, none⟩ ((reminders.drop 2).take 3) reminderRules = .ok results ∧
      search ⟨.abort, .keep, none⟩ ((reminders.drop 2).take 3 ++ reminders.drop 5) reminderRules =
        .ok extended ∧
      results.map RuleSet.positions = [[0, 1]] ∧
      extended.map RuleSet.positions = [[0, 1], [2, 3]] ∧ results <+: extended := by
  have nonempty : reminderRules ≠ [] := by decide
  obtain ⟨_, aborting⟩ :=
    search_append ((reminders.drop 2).take 3) (reminders.drop 5) reminderRules nonempty
  have shorter : (search ⟨.abort, .keep, none⟩ ((reminders.drop 2).take 3) reminderRules).map
      (·.map RuleSet.positions) = .ok [[0, 1]] := by decide +kernel
  have whole : (search ⟨.abort, .keep, none⟩ ((reminders.drop 2).take 3 ++ reminders.drop 5)
      reminderRules).map (·.map RuleSet.positions) = .ok [[0, 1], [2, 3]] := by decide +kernel
  cases returned : search ⟨.abort, .keep, none⟩ ((reminders.drop 2).take 3 ++ reminders.drop 5)
      reminderRules with
  | error fault =>
    rw [returned] at whole
    cases whole
  | ok extended =>
    obtain ⟨results, found, longer⟩ := aborting extended returned
    rw [returned] at whole
    rw [found] at shorter
    exact ⟨nonempty, results, extended, found, rfl, Except.ok.inj shorter, Except.ok.inj whole,
      longer⟩

end SlotFilling
