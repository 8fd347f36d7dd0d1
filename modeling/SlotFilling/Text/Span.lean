/-!
# Spans of code points

A character class is a list of spans, each holding every code point between
its two ends. Classes are read linearly; the tables are short enough for that,
and membership unfolds to comparisons of natural numbers.
-/
namespace SlotFilling.Text

/-- Every code point from `first` to `last`, both included. -/
structure Span where
  first : Nat
  last : Nat
  deriving DecidableEq, Repr

def Span.contains (span : Span) (point : Nat) : Bool :=
  decide (span.first ≤ point) && decide (point ≤ span.last)

/-- Whether a character lies in one of the spans. -/
def inSpans (spans : List Span) (character : Char) : Bool :=
  spans.any fun span => span.contains character.toNat

theorem Span.contains_iff (span : Span) (point : Nat) :
    span.contains point = true ↔ span.first ≤ point ∧ point ≤ span.last := by
  simp [Span.contains]

theorem inSpans_iff (spans : List Span) (character : Char) :
    inSpans spans character = true ↔
      ∃ span ∈ spans, span.first ≤ character.toNat ∧ character.toNat ≤ span.last := by
  simp [inSpans, Span.contains_iff]

end SlotFilling.Text
