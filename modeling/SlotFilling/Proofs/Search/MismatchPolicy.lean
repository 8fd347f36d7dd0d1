import SlotFilling.Proofs.Search.Runs

/-!
# The two mismatch policies

A skipping search always returns. An aborting search either returns the same, or it
stops at a token of the sentence that a rule of the set accepts and cannot read.
-/
namespace SlotFilling

/-- The rule and the token behind the fault of an aborted run. -/
theorem Ending.rule_of_error {policy : MismatchPolicy} {rules : RuleSet} {tokens : List Token}
    {α : Type} {value : α} {run : Except Fault α} {fault : Fault}
    (ending : Ending policy rules.patterns tokens value run) (failed : run = .error fault) :
    ∃ rule ∈ rules, ∃ token ∈ tokens,
      fault = .typeMismatch rule.pattern.category token.text ∧
        rule.pattern.accepts token = true ∧ rule.pattern.value? token = none := by
  cases ending with
  | returned => cases failed
  | mismatch _ isPattern isToken accepted absent =>
    cases failed
    obtain ⟨rule, isRule, rfl⟩ := List.mem_map.mp isPattern
    exact ⟨rule, isRule, _, isToken, rfl, accepted, absent⟩

/-- The policies agree wherever an aborting search returns, and where it does not, the
fault names the category of a rule and the text of a token that do not go together. -/
theorem search_policies_agree (tokens : List Token) (rules : RuleSet) (overlap : OverlapPolicy)
    (limit : Option Nat) (nonempty : rules ≠ []) :
    (∃ results, search ⟨.skipToken, overlap, limit⟩ tokens rules = .ok results) ∧
    (∀ results, search ⟨.abort, overlap, limit⟩ tokens rules = .ok results →
      search ⟨.skipToken, overlap, limit⟩ tokens rules = .ok results) ∧
    (∀ fault, search ⟨.abort, overlap, limit⟩ tokens rules = .error fault →
      ∃ rule ∈ rules, ∃ token ∈ tokens,
        fault = .typeMismatch rule.pattern.category token.text ∧
          rule.pattern.accepts token = true ∧ rule.pattern.value? token = none) ∧
    ((∀ rule ∈ rules, ∀ token ∈ tokens,
        rule.pattern.accepts token = true → (rule.pattern.value? token).isSome = true) →
      search ⟨.abort, overlap, limit⟩ tokens rules =
        search ⟨.skipToken, overlap, limit⟩ tokens rules) := by
  have skips :=
    (search_ending ⟨.skipToken, overlap, limit⟩ tokens rules nonempty).eq_ok_of_skipToken
  have ending := search_ending ⟨.abort, overlap, limit⟩ tokens rules nonempty
  refine ⟨⟨_, skips⟩, ?_, ?_, ?_⟩
  · intro results returned
    rw [ending.eq_of_ok returned]
    exact skips
  · intro fault failed
    exact ending.rule_of_error failed
  · intro readable
    cases aborts : search ⟨.abort, overlap, limit⟩ tokens rules with
    | ok results =>
      rw [ending.eq_of_ok aborts]
      exact skips.symm
    | error fault =>
      obtain ⟨rule, isRule, token, isToken, _, accepted, absent⟩ := ending.rule_of_error aborts
      have present := readable rule isRule token isToken accepted
      simp [absent] at present

theorem search_policies_agree_reminders :
    reminderRules ≠ [] ∧
    search ⟨.abort, .suppress, some 1⟩ reminders reminderRules =
      .error (.typeMismatch "date" "someday") ∧
    (∃ results, search ⟨.skipToken, .suppress, some 1⟩ reminders reminderRules = .ok results) ∧
    ∃ rule ∈ reminderRules, ∃ token ∈ reminders,
      Fault.typeMismatch "date" "someday" = .typeMismatch rule.pattern.category token.text ∧
        rule.pattern.accepts token = true ∧ rule.pattern.value? token = none := by
  have nonempty : reminderRules ≠ [] := by decide
  have aborted : search ⟨.abort, .suppress, some 1⟩ reminders reminderRules =
      .error (.typeMismatch "date" "someday") := by decide +kernel
  obtain ⟨returned, _, named, _⟩ :=
    search_policies_agree reminders reminderRules .suppress (some 1) nonempty
  exact ⟨nonempty, aborted, returned, named _ aborted⟩

end SlotFilling
