import SlotFilling.Report.Basic
import SlotFilling.Proofs.Rule.Bindings
import SlotFilling.Proofs.Search.Completeness

/-!
# What a test case decides

A case looks at the first alignment only. That is the least of all embeddings of its rules,
and there is one as soon as the rules embed at all. So a case asks whether the rules embed
into its sentence, and which texts their slots receive at the least embedding.
-/
namespace SlotFilling

/-! ## Outcomes -/

namespace Outcome

/-- An outcome tells whether the patterns embed into the tokens, and for each slot the text
of its last reading at the least embedding. -/
structure Describes (actual : Outcome) (patterns : List Pattern) (tokens : List Token) :
    Prop where
  matched : actual.matched = true ↔ ∃ positions, Embedding patterns tokens positions
  least : actual.matched = true → ∃ positions, LeastEmbedding patterns tokens positions
  args : ∀ slot text, actual.args.get? slot = some text ↔
    ∃ positions value, LeastEmbedding patterns tokens positions ∧
      LastReading tokens slot patterns positions value ∧ value.display = text

theorem describes_unmatched {patterns : List Pattern} {tokens : List Token}
    (nowhere : ∀ positions, ¬ Embedding patterns tokens positions) :
    unmatched.Describes patterns tokens where
  matched := by
    constructor
    · intro matched
      cases matched
    · rintro ⟨positions, embedding⟩
      exact absurd embedding (nowhere positions)
  least matched := by cases matched
  args slot text := by
    constructor
    · intro bound
      cases bound
    · rintro ⟨positions, _, isLeast, _⟩
      exact absurd isLeast.embedding (nowhere positions)

theorem describes_ofAlignments {rules first : RuleSet} {others : List RuleSet}
    {tokens : List Token} (isLeast : LeastEmbedding rules.patterns tokens first.positions)
    (alignment : IsAlignment rules tokens first) :
    (ofAlignments (first :: others)).Describes rules.patterns tokens where
  matched := ⟨fun _ => ⟨_, isLeast.embedding⟩, fun _ => rfl⟩
  least _ := ⟨_, isLeast⟩
  args slot text := by
    have bound := RuleSet.get?_bindings_eq_some_iff_lastReading alignment.carried
      (fun rule member => (alignment.populated rule member).1) slot
    rw [alignment.patterns] at bound
    rw [ofAlignments, Dictionary.get?_mapValues, Option.map_eq_some_iff]
    constructor
    · rintro ⟨value, isBound, shown⟩
      exact ⟨_, value, isLeast, (bound value).mp isBound, shown⟩
    · rintro ⟨positions, value, alsoLeast, last, shown⟩
      cases isLeast.unique alsoLeast
      exact ⟨value, (bound value).mpr last, shown⟩

theorem meets_iff (actual expected : Outcome) :
    actual.meets expected = true ↔ expected.matched = actual.matched ∧
      ∀ slot text, expected.args.get? slot = some text → actual.args.get? slot = some text := by
  simp [meets, Dictionary.get?_eq_some_iff]

/-- Whatever the options select, the first alignment stays unless none is wanted. -/
theorem describes_selected {rules : RuleSet} (nonempty : rules ≠ []) (tokens : List Token)
    {options : SearchOptions} (wanted : options.limit ≠ some 0) :
    (ofAlignments (selected options (alignments rules.patterns tokens))).Describes
      rules.patterns tokens := by
  have head := head?_selected options wanted (alignments rules.patterns tokens)
  cases listed : alignments rules.patterns tokens with
  | nil =>
    rw [listed, List.head?_nil, List.head?_eq_none_iff] at head
    rw [head]
    cases rules with
    | nil => exact absurd rfl nonempty
    | cons first others => exact describes_unmatched (not_embedding_of_alignments_eq_nil listed)
  | cons first later =>
    rw [listed, List.head?_cons, List.head?_eq_some_iff] at head
    obtain ⟨others, isSelected⟩ := head
    rw [isSelected]
    have member : first ∈ alignments rules.patterns tokens := listed ▸ List.mem_cons_self
    obtain ⟨anchor, anchored⟩ := (mem_alignments_iff _ _ _).mp member
    exact describes_ofAlignments (leastEmbedding_head listed) anchored.isAlignment

end Outcome

namespace TestCase

/-- A case that skips tokens without a value, and wants an alignment, finds whether its rules
embed into its sentence and what their slots receive at the least embedding. It passes if it
finds an alignment just when it expects one, and every text that it expects. -/
theorem run_decides (tokenize : String → List Token) (overlap : OverlapPolicy)
    (limit : Option Nat) (wanted : limit ≠ some 0) (name : String) (rules : RuleSet)
    (nonempty : rules ≠ []) (test : TestCase) :
    let result := test.run tokenize ⟨.skipToken, overlap, limit⟩ name rules
    result.actual.Describes rules.patterns (tokenize test.input) ∧
    (result.verdict = .pass ↔ test.expected.matched = result.actual.matched ∧
      ∀ slot text, test.expected.args.get? slot = some text →
        result.actual.args.get? slot = some text) := by
  have returned := (search_ending ⟨.skipToken, overlap, limit⟩ (tokenize test.input) rules
    nonempty).eq_ok_of_skipToken
  rw [run, returned]
  refine ⟨Outcome.describes_selected nonempty _ wanted, ?_⟩
  rw [← Outcome.meets_iff]
  simp

/-- The first date has not been resolved, so the first reminder takes the second one. -/
theorem run_decides_reminders :
    let test : TestCase := ⟨"", ⟨true, .ofList [("when", "2026-05-10")]⟩⟩
    let result := test.run (fun _ => reminders) ⟨.skipToken, .suppress, some 1⟩ "" reminderRules
    result.verdict = .pass ∧ result.actual = ⟨true, .ofList [("when", "2026-05-10")]⟩ ∧
    result.actual.Describes reminderRules.patterns reminders := by
  intro test result
  have decided := run_decides (fun _ => reminders) .suppress (some 1) (by decide) ""
    reminderRules (by decide) test
  have found : result.actual = ⟨true, .ofList [("when", "2026-05-10")]⟩ := by decide +kernel
  refine ⟨decided.2.mpr ?_, found, decided.1⟩
  rw [found]
  exact ⟨rfl, fun _ _ expected => expected⟩

end TestCase

end SlotFilling
