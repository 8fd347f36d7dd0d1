import SlotFilling.Json.Encode
import SlotFilling.Proofs.Json.Members
import SlotFilling.Proofs.Json.ReadBack
import SlotFilling.Proofs.Pattern.CompactSyntax

/-!
# Patterns through JSON

A pattern is written as an object with a member for each part, and a rule has two more members
for what it captured. The reader of patterns takes the members that it knows and passes over the
others, so both texts give back the pattern. A pattern that fits the compact syntax can be
written as a single string instead.
-/
namespace SlotFilling.Json

/-- A text that was written is read by reading the tree of its value. -/
theorem readText_compact {α : Type} (read : Parsed → Except ReadFault α) (json : Json) :
    readText read json.compact = read json.readBack := by
  simp only [readText, compact, String.toList_ofList, ofChars_compactChars]
  cases read json.readBack <;> rfl

/-! ## Objects -/

/-- A member of another name is passed over. -/
theorem withMember_other {name : String} (other : name ∉ ["text", "type", "variable"])
    (draft : PatternDraft) (value : Json) :
    draft.withMember (some name, value.readBack) = .ok draft := by
  rw [withMember_of_fits (.other other (isWhole_readBack value)), after_of_unknown other]

theorem foldlM_withMember_others (others : List (String × Json))
    (unknown : ∀ member ∈ others, member.1 ∉ ["text", "type", "variable"]) (draft : PatternDraft) :
    (readBackMembers others).foldlM PatternDraft.withMember draft = .ok draft := by
  induction others with
  | nil => rfl
  | cons member others ih =>
    obtain ⟨other, later⟩ := List.forall_mem_cons.mp unknown
    rw [readBackMembers, List.foldlM_cons, withMember_other other]
    exact ih later

/-- The three members of a pattern give it back, whatever other members follow. -/
theorem patternOfMembers_readBack (pattern : Pattern) (named : pattern.category ≠ "")
    (others : List (String × Json))
    (unknown : ∀ member ∈ others, member.1 ∉ ["text", "type", "variable"]) :
    patternOfMembers (readBackMembers (pattern.members ++ others)) = .ok pattern := by
  -- Each member fills its own part of the draft, and the others leave the draft as it is.
  have literal : PatternDraft.withMember {} (some "text",
      (ofOption .text pattern.literal).readBack) = .ok { literal := pattern.literal } := by
    cases pattern.literal <;> rfl
  have slot : ∀ draft : PatternDraft, draft.withMember (some "variable",
      (ofOption .text pattern.slot).readBack) = .ok { draft with slot := pattern.slot } := by
    intro draft
    cases pattern.slot <;> rfl
  have category : ∀ draft : PatternDraft, draft.withMember (some "type",
      (text pattern.category).readBack) = .ok { draft with category := some pattern.category } :=
    fun _ => rfl
  have rest := foldlM_withMember_others others unknown
  simp only [patternOfMembers, Pattern.members, List.cons_append, List.nil_append, readBackMembers,
    List.foldlM_cons, literal, category, slot, bind, Except.bind, rest, PatternDraft.finish,
    if_neg named]

theorem asPattern_pattern (pattern : Pattern) (named : pattern.category ≠ "") :
    pattern.toJson.readBack.asPattern = .ok pattern := by
  have read := patternOfMembers_readBack pattern named [] nofun
  rwa [List.append_nil] at read

theorem asPattern_rule (rule : Rule) (named : rule.pattern.category ≠ "") :
    rule.toJson.readBack.asPattern = .ok rule.pattern := by
  apply patternOfMembers_readBack rule.pattern named
  simp

/-! ## Strings -/

theorem ofParts_eq_self {pattern : Pattern} (nonempty : pattern.literal ≠ some "") :
    Pattern.ofParts (pattern.literal.getD "") pattern.category pattern.slot = pattern := by
  obtain ⟨literal, category, slot⟩ := pattern
  cases literal with
  | none => rfl
  | some literal =>
    have kept : literal ≠ "" := fun empty => nonempty (congrArg some empty)
    simp [Pattern.ofParts, kept]

/-- The display of a pattern that fits the compact syntax is a string that stands for it. -/
theorem asPattern_display {pattern : Pattern} (spellable : pattern.IsSpellable)
    (nonempty : pattern.literal ≠ some "") :
    (text pattern.display).readBack.asPattern = .ok pattern := by
  have read := Pattern.ofChars?_spelled spellable
  rw [← Pattern.display_eq_spelled, ofParts_eq_self nonempty] at read
  simp only [readBack, Parsed.asPattern, read]

/-- The JSON text of a pattern gives the pattern back, and so does that of a rule, whatever the
rule has captured. A pattern that fits the compact syntax is also given back by the JSON text
of its display, unless it asks for an empty literal. -/
theorem readText_written (rule : Rule) (named : rule.pattern.category ≠ "") :
    readText Parsed.asPattern rule.pattern.toJson.compact = .ok rule.pattern ∧
    readText Parsed.asPattern rule.toJson.compact = .ok rule.pattern ∧
    (rule.pattern.IsSpellable → rule.pattern.literal ≠ some "" →
      readText Parsed.asPattern (text rule.pattern.display).compact = .ok rule.pattern) := by
  simp only [readText_compact]
  exact ⟨asPattern_pattern rule.pattern named, asPattern_rule rule named, asPattern_display⟩

/-- A rule that carries a number without a value of its own in JSON. -/
def dessertRule : Rule :=
  ⟨⟨some "\"ice\" cream", "noun", some "dessert"⟩, some (.number ⟨0x7FF8000000000000⟩), some 2⟩

theorem readText_dessertRule :
    dessertRule.toJson.compact =
      "\x7b\"text\":\"\\\"ice\\\" cream\",\"type\":\"noun\",\"variable\":\"dessert\"," ++
        "\"value\":null,\"distance\":2\x7d" ∧
    dessertRule.pattern.category ≠ "" ∧ dessertRule.pattern.IsSpellable ∧
    dessertRule.pattern.literal ≠ some "" ∧
    readText Parsed.asPattern dessertRule.toJson.compact = .ok dessertRule.pattern ∧
    readText Parsed.asPattern (text dessertRule.pattern.display).compact =
      .ok dessertRule.pattern := by
  have named : dessertRule.pattern.category ≠ "" := by decide +kernel
  have nonempty : dessertRule.pattern.literal ≠ some "" := by decide +kernel
  have spellable : dessertRule.pattern.IsSpellable := by
    have read : Pattern.parse dessertRule.pattern.display = .ok dessertRule.pattern := by
      decide +kernel
    exact ((Pattern.parse_display_eq_ok_iff _ _).mp read).1
  obtain ⟨-, rule, display⟩ := readText_written dessertRule named
  exact ⟨by decide +kernel, named, spellable, nonempty, rule, display spellable nonempty⟩

end SlotFilling.Json
