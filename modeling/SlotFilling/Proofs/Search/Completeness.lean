import SlotFilling.Proofs.Search.Runs

/-!
# Completeness of a search

Although nothing is ever taken back, no embedding is missed: a skipping search that
keeps overlaps and has no limit finds an alignment for just those anchors from which
the rules embed into the tokens. Each alignment is the least of the embeddings that
share its anchor.
-/
namespace SlotFilling

theorem exists_alignment_iff_embedding (patterns : List Pattern) (tokens : List Token)
    (anchor : Nat) :
    (∃ result ∈ alignments patterns tokens, result.anchor = anchor) ↔
      ∃ later, Embedding patterns tokens (anchor :: later) := by
  constructor
  · rintro ⟨result, member, rfl⟩
    obtain ⟨anchor, anchored⟩ := (mem_alignments_iff patterns tokens result).mp member
    obtain ⟨later, _, embedding⟩ := anchored.embedding
    exact ⟨later, by rwa [anchored.anchor_eq]⟩
  · rintro ⟨later, embedding⟩
    obtain ⟨result, anchored, _⟩ := anchored_of_embedding patterns tokens anchor later embedding
    have member := (mem_alignments_iff patterns tokens result).mpr ⟨anchor, anchored⟩
    exact ⟨result, member, anchored.anchor_eq⟩

/-- An alignment is itself an embedding, and the least one from its anchor. -/
theorem alignment_least (patterns : List Pattern) (tokens : List Token) (result : RuleSet)
    (member : result ∈ alignments patterns tokens) :
    Embedding patterns tokens result.positions ∧
      ∀ later, Embedding patterns tokens (result.anchor :: later) →
        List.Forall₂ (· ≤ ·) result.positions (result.anchor :: later) := by
  obtain ⟨anchor, anchored⟩ := (mem_alignments_iff patterns tokens result).mp member
  rw [anchored.anchor_eq]
  constructor
  · obtain ⟨later, positionsEq, embedding⟩ := anchored.embedding
    rwa [positionsEq]
  · intro later embedding
    obtain ⟨least, leastAnchored, below⟩ :=
      anchored_of_embedding patterns tokens anchor later embedding
    -- An anchor has one alignment only.
    rw [← alignmentFrom_eq_some_iff] at anchored leastAnchored
    have same : least = result := Option.some.inj (leastAnchored.symm.trans anchored)
    exact same ▸ below

/-- No embedding from the anchor of an alignment on is ahead of it. -/
theorem alignment_le_embedding {patterns : List Pattern} {tokens : List Token} {result : RuleSet}
    (member : result ∈ alignments patterns tokens) {anchor : Nat} {later : List Nat}
    (embedding : Embedding patterns tokens (anchor :: later)) (ordered : result.anchor ≤ anchor) :
    List.Forall₂ (· ≤ ·) result.positions (anchor :: later) := by
  obtain ⟨front, anchored⟩ := (mem_alignments_iff patterns tokens result).mp member
  obtain ⟨after, positionsEq, own⟩ := anchored.embedding
  have anchorEq := anchored.anchor_eq
  cases patterns with
  | nil => cases embedding.reads
  | cons first others =>
    -- The earlier anchor together with the later positions is an embedding as well, and the
    -- alignment is the least one from there.
    obtain ⟨_, _, token, same, present, reads, _⟩ := own.uncons
    cases same
    have mixed := embedding.start_earlier present reads (anchorEq ▸ ordered)
    have least := (alignment_least _ tokens result member).2 later (by rwa [anchorEq])
    rw [positionsEq, anchorEq] at least
    rw [positionsEq]
    cases least with
    | cons _ tail => exact .cons (anchorEq ▸ ordered) tail

/-! ## The first alignment -/

/-- An embedding that no other one is ahead of, from whatever position it starts. -/
structure LeastEmbedding (patterns : List Pattern) (tokens : List Token) (positions : List Nat) :
    Prop where
  embedding : Embedding patterns tokens positions
  least : ∀ other, Embedding patterns tokens other → List.Forall₂ (· ≤ ·) positions other

theorem LeastEmbedding.unique {patterns : List Pattern} {tokens : List Token}
    {left right : List Nat} (isLeft : LeastEmbedding patterns tokens left)
    (isRight : LeastEmbedding patterns tokens right) : left = right := by
  have below := isLeft.least right isRight.embedding
  have above := isRight.least left isLeft.embedding
  exact List.ext_get below.length_eq fun _ inLeft inRight =>
    Nat.le_antisymm (below.get inLeft inRight) (above.get inRight inLeft)

theorem leastEmbedding_head {patterns : List Pattern} {tokens : List Token} {first : RuleSet}
    {others : List RuleSet} (listed : alignments patterns tokens = first :: others) :
    LeastEmbedding patterns tokens first.positions := by
  have member : first ∈ alignments patterns tokens := listed ▸ List.mem_cons_self
  refine ⟨(alignment_least patterns tokens first member).1, ?_⟩
  intro other embedding
  cases patterns with
  | nil =>
    obtain ⟨_, anchored⟩ := (mem_alignments_iff _ _ _).mp member
    cases anchored
  | cons front behind =>
    obtain ⟨anchor, later, _, rfl, _⟩ := embedding.uncons
    apply alignment_le_embedding member embedding
    -- Some alignment starts where the embedding does, and none before the first one.
    obtain ⟨result, isResult, rfl⟩ :=
      (exists_alignment_iff_embedding _ tokens anchor).mpr ⟨later, embedding⟩
    have increasing := alignments_increasing (front :: behind) tokens
    rw [listed] at increasing isResult
    rcases List.mem_cons.mp isResult with rfl | isLater
    · exact Nat.le_refl _
    · exact Nat.le_of_lt (List.rel_of_pairwise_cons increasing isLater)

/-- Patterns with no alignment embed nowhere. -/
theorem not_embedding_of_alignments_eq_nil {first : Pattern} {others : List Pattern}
    {tokens : List Token} (none : alignments (first :: others) tokens = [])
    (positions : List Nat) : ¬ Embedding (first :: others) tokens positions := by
  intro embedding
  obtain ⟨anchor, later, _, rfl, _⟩ := embedding.uncons
  obtain ⟨result, member, _⟩ :=
    (exists_alignment_iff_embedding _ tokens anchor).mpr ⟨later, embedding⟩
  rw [none] at member
  cases member

/-! ## A search without a limit -/

/-- The anchors of the results are exactly those of the embeddings, each once and in
increasing order, and no embedding from an anchor is ahead of its result. -/
theorem search_complete (tokens : List Token) (rules : RuleSet) (nonempty : rules ≠ []) :
    ∃ results, search ⟨.skipToken, .keep, none⟩ tokens rules = .ok results ∧
      results.Pairwise (fun earlier later => earlier.anchor < later.anchor) ∧
      (∀ anchor, (∃ result ∈ results, result.anchor = anchor) ↔
        ∃ later, Embedding rules.patterns tokens (anchor :: later)) ∧
      ∀ result ∈ results, Embedding rules.patterns tokens result.positions ∧
        ∀ later, Embedding rules.patterns tokens (result.anchor :: later) →
          List.Forall₂ (· ≤ ·) result.positions (result.anchor :: later) := by
  have ending := search_ending ⟨.skipToken, .keep, none⟩ tokens rules nonempty
  refine ⟨alignments rules.patterns tokens, ending.eq_ok_of_skipToken, ?_, ?_, ?_⟩
  · exact alignments_increasing rules.patterns tokens
  · exact exists_alignment_iff_embedding rules.patterns tokens
  · exact alignment_least rules.patterns tokens

theorem search_complete_reminders :
    reminderRules ≠ [] ∧
    ∃ results, search ⟨.skipToken, .keep, none⟩ reminders reminderRules = .ok results ∧
      results.map RuleSet.positions = [[0, 3], [2, 3], [4, 5]] ∧
      (∀ anchor, (∃ result ∈ results, result.anchor = anchor) ↔
        ∃ later, Embedding reminderRules.patterns reminders (anchor :: later)) ∧
      ∀ result ∈ results, ∀ later,
        Embedding reminderRules.patterns reminders (result.anchor :: later) →
          List.Forall₂ (· ≤ ·) result.positions (result.anchor :: later) := by
  have nonempty : reminderRules ≠ [] := by decide
  obtain ⟨results, returned, _, anchors, least⟩ :=
    search_complete reminders reminderRules nonempty
  have found : (search ⟨.skipToken, .keep, none⟩ reminders reminderRules).map
      (·.map RuleSet.positions) = .ok [[0, 3], [2, 3], [4, 5]] := by decide +kernel
  rw [returned] at found
  exact ⟨nonempty, results, returned, Except.ok.inj found, anchors,
    fun result member => (least result member).2⟩

end SlotFilling
