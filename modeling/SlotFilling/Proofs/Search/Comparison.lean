import SlotFilling.Proofs.Search.Attempts
import SlotFilling.Proofs.Search.Runs

/-!
# Comparing searches

A search that keeps overlaps and has no limit returns every alignment. What relates the
alignments of two such searches therefore relates their results: always if both skip, and
if both abort wherever the second one returns, as long as that one tries whatever the
first one tries.
-/
namespace SlotFilling

theorem search_returns_of_tried (first : Rule) (others wider : RuleSet)
    (tokens longer : List Token)
    (tries : ∀ pattern token, TriedFrom first.pattern others.patterns tokens pattern token →
      TriedFrom first.pattern wider.patterns longer pattern token)
    (returned : ∃ found, search ⟨.abort, .keep, none⟩ longer (first :: wider) = .ok found) :
    ∃ results, search ⟨.abort, .keep, none⟩ tokens (first :: others) = .ok results := by
  rw [search_abort_returns_iff] at returned ⊢
  intro pattern token tried
  exact returned pattern token (tries pattern token tried)

/-- What relates the alignments of two searches relates their results. -/
theorem search_related (related : List RuleSet → List RuleSet → Prop) (first : Rule)
    (others wider : RuleSet) (tokens longer : List Token)
    (alignmentsRelated : related (alignments (first.pattern :: others.patterns) tokens)
      (alignments (first.pattern :: wider.patterns) longer))
    (tries : ∀ pattern token, TriedFrom first.pattern others.patterns tokens pattern token →
      TriedFrom first.pattern wider.patterns longer pattern token) :
    (∃ results found, search ⟨.skipToken, .keep, none⟩ tokens (first :: others) = .ok results ∧
      search ⟨.skipToken, .keep, none⟩ longer (first :: wider) = .ok found ∧
      related results found) ∧
    (∀ found, search ⟨.abort, .keep, none⟩ longer (first :: wider) = .ok found →
      ∃ results, search ⟨.abort, .keep, none⟩ tokens (first :: others) = .ok results ∧
        related results found) := by
  constructor
  · have here := search_ending ⟨.skipToken, .keep, none⟩ tokens (first :: others) (by simp)
    have there := search_ending ⟨.skipToken, .keep, none⟩ longer (first :: wider) (by simp)
    exact ⟨_, _, here.eq_ok_of_skipToken, there.eq_ok_of_skipToken, alignmentsRelated⟩
  · intro found returned
    obtain ⟨results, resultsReturned⟩ :=
      search_returns_of_tried first others wider tokens longer tries ⟨found, returned⟩
    refine ⟨results, resultsReturned, ?_⟩
    rw [(eq_selected_of_search resultsReturned).2, (eq_selected_of_search returned).2]
    exact alignmentsRelated

end SlotFilling
