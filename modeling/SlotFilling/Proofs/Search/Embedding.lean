import SlotFilling.Proofs.Search.Reading
import Mathlib.Data.List.Forall2

/-!
# Embeddings and the positions of an alignment

An embedding gives every pattern a token that it reads, at strictly increasing
positions. The distances of a matched rule set spell out such positions. Taking the
first token each time is never worse than any embedding: the positions taken stay
at or before those of the embedding, so no pattern runs out of tokens where an
embedding exists.
-/
namespace SlotFilling

/-- The positions from `next` on that are reached by skipping so many tokens each time. -/
def places (next : Nat) : List Nat → List Nat
  | [] => []
  | distance :: later => (next + distance) :: places (next + distance + 1) later

namespace RuleSet

/-- The positions of the tokens that rules have taken, computed from their distances. -/
def positions (rules : RuleSet) : List Nat := places 0 (rules.filterMap (·.distance))

/-- The position of the first rule. -/
def anchor (rules : RuleSet) : Nat := rules.positions.headD 0

/-- The position of the last rule. -/
def last (rules : RuleSet) : Nat := rules.positions.getLastD 0

end RuleSet

/-- Strictly increasing positions at which the patterns, in order, read the tokens. -/
structure Embedding (patterns : List Pattern) (tokens : List Token) (positions : List Nat) :
    Prop where
  increasing : positions.Pairwise (· < ·)
  reads : List.Forall₂ (fun pattern position =>
    ∃ token, tokens[position]? = some token ∧ pattern.Reads token) patterns positions

namespace Embedding

variable {pattern : Pattern} {others : List Pattern} {tokens : List Token} {positions : List Nat}

theorem nil : Embedding [] tokens [] := ⟨.nil, .nil⟩

theorem cons {position : Nat} {token : Token} {later : List Nat}
    (present : tokens[position]? = some token) (reads : pattern.Reads token)
    (after : ∀ other ∈ later, position < other) (rest : Embedding others tokens later) :
    Embedding (pattern :: others) tokens (position :: later) :=
  ⟨rest.increasing.cons after, rest.reads.cons ⟨token, present, reads⟩⟩

theorem uncons (embedding : Embedding (pattern :: others) tokens positions) :
    ∃ position later token, positions = position :: later ∧ tokens[position]? = some token ∧
      pattern.Reads token ∧ (∀ other ∈ later, position < other) ∧
      Embedding others tokens later := by
  obtain ⟨increasing, reads⟩ := embedding
  cases reads with
  | @cons _ position _ later here rest =>
    obtain ⟨token, present, reads⟩ := here
    have ⟨after, laterIncreasing⟩ := List.pairwise_cons.mp increasing
    exact ⟨position, later, token, rfl, present, reads, after, laterIncreasing, rest⟩

/-- The first pattern can take an earlier token that it reads instead. -/
theorem start_earlier {earlier later : Nat} {token : Token} {after : List Nat}
    (present : tokens[earlier]? = some token) (reads : pattern.Reads token)
    (ordered : earlier ≤ later)
    (embedding : Embedding (pattern :: others) tokens (later :: after)) :
    Embedding (pattern :: others) tokens (earlier :: after) := by
  obtain ⟨_, _, _, same, _, _, beyond, rest⟩ := embedding.uncons
  cases same
  exact .cons present reads (fun other member => Nat.lt_of_le_of_lt ordered (beyond other member))
    rest

theorem inside (embedding : Embedding others tokens positions) :
    ∀ position ∈ positions, position < tokens.length := by
  obtain ⟨-, reads⟩ := embedding
  induction reads with
  | nil => simp
  | cons here _ ih =>
    obtain ⟨token, present, _⟩ := here
    intro position member
    rcases List.mem_cons.mp member with rfl | member
    · exact (List.getElem?_eq_some_iff.mp present).1
    · exact ih position member

end Embedding

theorem places_ge (next : Nat) (distances : List Nat) :
    ∀ position ∈ places next distances, next ≤ position := by
  induction distances generalizing next with
  | nil => simp [places]
  | cons distance later ih =>
    intro position member
    rcases List.mem_cons.mp member with rfl | member
    · exact Nat.le_add_right next distance
    · have bound := ih (next + distance + 1) position member
      omega

theorem Filling.embedding {tokens : List Token} {next : Nat} {patterns : List Pattern}
    {captures : List Capture} (filling : Filling tokens next patterns captures) :
    Embedding patterns tokens (places next (captures.map (·.skipped))) := by
  induction filling with
  | done => exact .nil
  | take present read _ _ ih =>
    apply Embedding.cons present ((Pattern.reads_iff _ _).mpr ⟨_, read⟩) _ ih
    intro other member
    exact Nat.lt_of_succ_le (places_ge _ _ other member)

/-- Where patterns embed into the tokens from `next` on, each finds a first token in
turn, and never behind the one that the embedding gives it. -/
theorem firstReadings_least (patterns : List Pattern) (tokens : List Token) (next : Nat)
    (positions : List Nat) (embedding : Embedding patterns tokens positions)
    (lower : ∀ position ∈ positions, next ≤ position) :
    ∃ captures, firstReadings patterns (tokens.drop next) = some captures ∧
      List.Forall₂ (· ≤ ·) (places next (captures.map (·.skipped))) positions := by
  induction patterns generalizing next positions with
  | nil =>
    cases embedding.reads
    exact ⟨[], rfl, .nil⟩
  | cons pattern others ih =>
    obtain ⟨position, later, token, rfl, present, reads, after, rest⟩ := embedding.uncons
    -- The token that the embedding gives to the first pattern lies in what is left, so
    -- the pattern finds a token there or before.
    have ahead : next ≤ position := lower position List.mem_cons_self
    have shifted : (tokens.drop next)[position - next]? = some token := by
      rw [List.getElem?_drop, Nat.add_sub_cancel' ahead]
      exact present
    obtain ⟨fit, found, bound⟩ := pattern.firstReading_of_reads _ _ token shifted reads
    have restEq := ((pattern.firstReading_eq_some_iff _ fit).mp found).rest
    -- What is left for the other patterns starts at or before the place where the
    -- embedding goes on, so the embedding of the others is still within reach.
    have reachable : ∀ other ∈ later, next + fit.skipped + 1 ≤ other := by
      intro other member
      have beyond := after other member
      omega
    obtain ⟨captures, filled, least⟩ := ih (next + fit.skipped + 1) later rest reachable
    refine ⟨⟨fit.skipped, fit.value⟩ :: captures, ?_, ?_⟩
    · rw [List.drop_drop] at restEq
      simp only [firstReadings, found, restEq]
      rw [Nat.add_assoc] at filled
      rw [filled]
      rfl
    · have taken : next + fit.skipped ≤ position := by omega
      exact .cons taken least

end SlotFilling
