import SlotFilling.Proofs.Number.Display
import SlotFilling.Proofs.Report.Cases
import SlotFilling.Proofs.Text.Lowercase

/-!
# Numbers in texts and test cases

A number that is shown as a text can be read again: a rule for numbers captures it from a token
with that text. Test cases compare the texts of values, and this tells numbers apart as well as
comparing the numbers would.
-/
namespace SlotFilling

/-! ## Reading a shown number -/

/-- No character of a written decimal is blank. -/
theorem not_isBlank_of_isWritten {character : Char}
    (written : Decimal.isWritten character = true) : Text.isBlank character = false := by
  have apart : Text.Apart Text.decimalDigitSpans Text.blankSpans := by decide +kernel
  simp only [Decimal.isWritten, Bool.or_eq_true, List.contains_iff_mem, List.mem_cons,
    List.not_mem_nil, or_false] at written
  rcases written with digit | rfl | rfl | rfl | rfl | rfl
  · exact apart.not_inSpans (Text.isDecimalDigit_of_isDigit character digit)
  all_goals decide

theorem Binary64.trim_plainText {number : Binary64} (finite : number.isFinite = true) :
    Text.trim number.plainText.toList = number.plainText.toList := by
  apply Text.trim_of_not_isBlank
  intro character member
  have read := Option.isSome_of_eq_some (read?_plainText finite)
  exact not_isBlank_of_isWritten (written_of_read? read character member)

theorem Token.valueOf?_number {token : Token} {number : Binary64}
    (finite : number.isFinite = true) (shown : token.text = number.plainText) :
    token.valueOf? .number = some (.number number.withoutZeroSign) := by
  rw [Token.valueOf?, shown, Binary64.trim_plainText finite, Binary64.read?_plainText finite]
  rfl

/-- Every rule for numbers that accepts a token of this text captures the number. -/
def ReadsAs (text : String) (number : Binary64) : Prop :=
  ∀ (rule : Rule) (token : Token), valueKind rule.pattern.category = .number →
    rule.pattern.accepts token = true → token.text = text →
      ∃ captured,
        rule.matchToken token = .ok (some { rule with value := some (.number captured) }) ∧
        captured.sameNumber number = true

theorem readsAs_plainText {number : Binary64} (finite : number.isFinite = true) :
    ReadsAs number.plainText number := by
  intro rule token kind accepted shown
  refine ⟨_, ?_, Binary64.sameNumber_withoutZeroSign finite⟩
  have value : rule.pattern.value? token = some (.number number.withoutZeroSign) := by
    rw [Pattern.value?, kind, Token.valueOf?_number finite shown]
  rw [Rule.matchToken, (Pattern.read_eq_some_iff _ _ _).mpr ⟨accepted, value⟩]

/-! ## Comparing shown numbers -/

/-- A slot that holds a number shows the text of a finite number only if it is the same. -/
theorem Outcome.shows_iff {first : RuleSet} {slot : String} {value number : Binary64}
    (others : List RuleSet) (finite : number.isFinite = true)
    (bound : first.bindings.get? slot = some (.number value)) :
    (ofAlignments (first :: others)).args.get? slot = some number.plainText ↔
      value.sameNumber number = true := by
  have shown : (ofAlignments (first :: others)).args.get? slot = some value.plainText := by
    rw [ofAlignments, Dictionary.get?_mapValues, bound]
    rfl
  rw [shown, Option.some.injEq, Binary64.plainText_eq_iff finite]

/-- A finite number is captured by every rule for numbers from a token with its text. Only the
same number has that text, so a test that expects it of a slot with a number passes only for the
same number. A whole number below 10¹⁵ is shown as a 64-bit integer of exactly its value, and
zero without a sign. -/
theorem SlotValue.display_number_reads_back (number : Binary64)
    (finite : number.isFinite = true) :
    ReadsAs (SlotValue.number number).display number ∧
    (∀ other : Binary64, (SlotValue.number other).display = (SlotValue.number number).display ↔
      other.sameNumber number = true) ∧
    (∀ (first : RuleSet) (others : List RuleSet) (expected : Outcome) (slot : String)
      (value : Binary64), first.bindings.get? slot = some (.number value) →
        expected.args.get? slot = some (SlotValue.number number).display →
          (Outcome.ofAlignments (first :: others)).meets expected = true →
            value.sameNumber number = true) ∧
    (number.isWhole = true → number.units < 10 ^ 15 * Binary64.one →
      number.toInt64.toInt * Binary64.one = number.signedUnits ∧
      (SlotValue.number number).display = toString number.toInt64 ∧
      (number.isZero = true → (SlotValue.number number).display = "0")) := by
  refine ⟨readsAs_plainText finite, fun other => Binary64.plainText_eq_iff finite, ?_, ?_⟩
  · intro first others expected slot value bound asked met
    have shown := ((Outcome.meets_iff _ _).mp met).2 slot _ asked
    exact (Outcome.shows_iff others finite bound).mp shown
  · intro whole small
    rw [show 10 ^ 15 = 1000000000000000 from rfl] at small
    have shownWhole : number.IsShownWhole := ⟨whole, small⟩
    refine ⟨?_, Binary64.plainText_eq_toString finite shownWhole, Binary64.plainText_of_isZero⟩
    rw [Binary64.toInt_toInt64 finite small, Binary64.truncated_mul_one whole]

/-- A body temperature, 36.6. -/
def temperature : Binary64 := ⟨0x40424CCCCCCCCCCD⟩

theorem SlotValue.display_number_reads_back_temperature :
    temperature.isFinite = true ∧ (SlotValue.number temperature).display = "36.6" ∧
    ReadsAs "36.6" temperature ∧
    ∀ other : Binary64, (SlotValue.number other).display = "36.6" ↔
      other.sameNumber temperature = true := by
  have finite : temperature.isFinite = true := by decide
  have shown : (SlotValue.number temperature).display = "36.6" := by decide +kernel
  have back := SlotValue.display_number_reads_back temperature finite
  rw [shown] at back
  exact ⟨finite, shown, back.1, back.2.1⟩

end SlotFilling
