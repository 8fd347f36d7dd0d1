import SlotFilling.Proofs.Search.Completeness

/-!
# Order between alignments

Passes from different anchors do not cross. When the pass from one anchor fails, the pass
from every later anchor fails too, so the results start at the first tokens that the
first rule reads. From a later anchor no rule takes an earlier token, and where two
passes take the same token for a rule, they take the same tokens from there on.
-/
namespace SlotFilling

/-! ## Failed passes -/

/-- Patterns that run out of tokens from one position on do so from every later one. -/
theorem firstReadings_eq_none_of_le {patterns : List Pattern} {tokens : List Token}
    {next later : Nat} (failed : firstReadings patterns (tokens.drop next) = none)
    (ordered : next ≤ later) : firstReadings patterns (tokens.drop later) = none := by
  rw [Option.eq_none_iff_forall_ne_some]
  intro captures found
  -- What the patterns take from `later` on is within reach from `next` on as well.
  have filling := (firstReadings_eq_some_iff tokens later patterns captures).mp found
  have reachable : ∀ position ∈ places later (captures.map (·.skipped)), next ≤ position :=
    fun position member => Nat.le_trans ordered (places_ge later _ position member)
  obtain ⟨earlier, earlierFound, _⟩ :=
    firstReadings_least patterns tokens next _ filling.embedding reachable
  rw [failed] at earlierFound
  cases earlierFound

/-- Once the pass from an anchor has failed, the pass from every later anchor fails. -/
theorem alignmentFrom_eq_none_of_le {first : Pattern} {others : List Pattern}
    {tokens : List Token} {anchor later : Nat} {token : Token}
    (present : tokens[anchor]? = some token) (reads : first.Reads token)
    (failed : alignmentFrom (first :: others) tokens anchor = none) (ordered : anchor ≤ later) :
    alignmentFrom (first :: others) tokens later = none := by
  obtain ⟨value, read⟩ := (first.reads_iff token).mp reads
  -- The first pattern reads its token, so it is the other patterns that run out of tokens.
  have exhausted : firstReadings others (tokens.drop (anchor + 1)) = none := by
    simpa [alignmentFrom, capturesFrom, present, read] using failed
  have laterExhausted := firstReadings_eq_none_of_le exhausted (Nat.succ_le_succ ordered)
  unfold alignmentFrom capturesFrom
  cases tokens[later]? with
  | none => rfl
  | some laterToken =>
    simp only [laterExhausted, Option.map_none]
    cases first.reading laterToken <;> rfl

theorem alignmentFrom_eq_none_of_unread {first : Pattern} {others : List Pattern}
    {tokens : List Token} {anchor : Nat} {token : Token} (present : tokens[anchor]? = some token)
    (unread : ¬ first.Reads token) : alignmentFrom (first :: others) tokens anchor = none := by
  rw [Option.eq_none_iff_forall_ne_some]
  intro result found
  obtain ⟨here, read, _⟩ := (alignmentFrom_eq_some_iff _ _ _ _).mp found
  rw [present] at here
  cases here
  exact unread ((first.reads_iff token).mpr ⟨_, read⟩)

/-- Where one function has a value the other has the same, and where it has none, the other
has none either or it has none at all further on. -/
private theorem filterMap_prefix {α β : Type} {shorter longer : α → Option β} (items : List α)
    (agree : ∀ item ∈ items, ∀ value, shorter item = some value → longer item = some value)
    (stops : items.Pairwise fun earlier later =>
      shorter earlier = none → longer earlier = none ∨ shorter later = none) :
    items.filterMap shorter <+: items.filterMap longer := by
  induction items with
  | nil => exact List.nil_prefix
  | cons item rest ih =>
    obtain ⟨here, restStops⟩ := List.pairwise_cons.mp stops
    have onward := ih (fun other member => agree other (List.mem_cons_of_mem item member)) restStops
    rw [List.filterMap_cons, List.filterMap_cons]
    cases found : shorter item with
    | some value =>
      rw [agree item List.mem_cons_self value found]
      exact (List.prefix_cons_inj value).mpr onward
    | none =>
      cases new : longer item with
      | none => exact onward
      | some value =>
        have ended : rest.filterMap shorter = [] := by
          rw [List.filterMap_eq_nil_iff]
          intro other member
          exact (here other member found).resolve_left (by simp [new])
        simp only [ended]
        exact List.nil_prefix

/-- Whatever else is found at the tokens that the first pattern reads, and agrees with the
alignments where there are any, is found after all of them. -/
theorem alignments_map_prefix {α : Type} (first : Pattern) (others : List Pattern)
    (tokens : List Token) (change : RuleSet → α) (found : Nat → Option α)
    (agree : ∀ anchor result, alignmentFrom (first :: others) tokens anchor = some result →
      found anchor = some (change result))
    (unread : ∀ anchor token, tokens[anchor]? = some token → ¬ first.Reads token →
      found anchor = none) :
    (alignments (first :: others) tokens).map change <+:
      (List.range tokens.length).filterMap found := by
  unfold alignments
  rw [List.map_filterMap]
  apply filterMap_prefix
  · intro anchor _ value changed
    obtain ⟨result, aligned, rfl⟩ := Option.map_eq_some_iff.mp changed
    exact agree anchor result aligned
  · refine List.pairwise_lt_range.imp_of_mem ?_
    intro earlier later isEarlier _ ordered failed
    obtain ⟨token, present⟩ : ∃ token, tokens[earlier]? = some token :=
      ⟨_, List.getElem?_eq_getElem (List.mem_range.mp isEarlier)⟩
    by_cases reads : first.Reads token
    · right
      rw [Option.map_eq_none_iff] at failed ⊢
      exact alignmentFrom_eq_none_of_le present reads failed (Nat.le_of_lt ordered)
    · left
      exact unread earlier token present reads

/-! ## Anchors -/

namespace Pattern

/-- The positions of the tokens that a pattern reads. -/
def readPositions (pattern : Pattern) (tokens : List Token) : List Nat :=
  (List.range tokens.length).filter fun position =>
    (tokens[position]?.bind pattern.reading).isSome

theorem mem_readPositions_iff (pattern : Pattern) (tokens : List Token) (position : Nat) :
    position ∈ pattern.readPositions tokens ↔
      ∃ token, tokens[position]? = some token ∧ pattern.Reads token := by
  simp only [readPositions, List.mem_filter, List.mem_range, Option.isSome_iff_exists,
    Option.bind_eq_some_iff, reads_iff]
  constructor
  · rintro ⟨_, value, token, present, read⟩
    exact ⟨token, present, value, read⟩
  · rintro ⟨token, present, value, read⟩
    exact ⟨(List.getElem?_eq_some_iff.mp present).1, value, token, present, read⟩

end Pattern

/-- The anchors of the alignments are the first of the positions that the first pattern
reads. -/
theorem anchors_prefix (first : Pattern) (others : List Pattern) (tokens : List Token) :
    (alignments (first :: others) tokens).map RuleSet.anchor <+: first.readPositions tokens := by
  unfold Pattern.readPositions
  rw [← List.filterMap_eq_filter]
  apply alignments_map_prefix
  · intro anchor result found
    have anchored := (alignmentFrom_eq_some_iff _ _ _ _).mp found
    rw [anchored.anchor_eq]
    cases anchored with
    | intro here read _ => simp [Option.guard, here, read]
  · intro anchor token present unread
    have absent : first.reading token = none := by
      rw [Option.eq_none_iff_forall_ne_some]
      exact fun value read => unread ((first.reads_iff token).mpr ⟨value, read⟩)
    simp [Option.guard, present, absent]

/-! ## Passes that meet -/

namespace Filling

variable {tokens : List Token} {patterns : List Pattern} {captures others : List Capture}

theorem unique {next : Nat} (left : Filling tokens next patterns captures)
    (right : Filling tokens next patterns others) : captures = others := by
  rw [← firstReadings_eq_some_iff] at left right
  exact Option.some.inj (left.symm.trans right)

/-- From a token on that both give to the same pattern, two fillings take the same tokens. -/
theorem meet {next further : Nat} (left : Filling tokens next patterns captures)
    (right : Filling tokens further patterns others) (index position : Nat)
    (leftAt : (places next (captures.map (·.skipped)))[index]? = some position)
    (rightAt : (places further (others.map (·.skipped)))[index]? = some position) :
    (places next (captures.map (·.skipped))).drop index =
        (places further (others.map (·.skipped))).drop index ∧
      (captures.map (·.value)).drop index = (others.map (·.value)).drop index ∧
      captures.drop (index + 1) = others.drop (index + 1) := by
  induction left generalizing further others index with
  | done => simp [places] at leftAt
  | take present read _ rest ih =>
    cases right with
    | take otherPresent otherRead _ otherRest =>
      rw [List.map_cons, places] at leftAt rightAt ⊢
      rw [List.map_cons, places]
      cases index with
      | zero =>
        -- Here they meet: the token is the same, and what is left for the other patterns too.
        simp only [List.getElem?_cons_zero, Option.some.injEq] at leftAt rightAt
        subst leftAt
        rw [rightAt, present] at otherPresent
        cases otherPresent
        rw [read] at otherRead
        cases otherRead
        rw [rightAt] at otherRest ⊢
        cases rest.unique otherRest
        simp
      | succ index => exact ih otherRest index leftAt rightAt

end Filling

theorem drop_populate (patterns : List Pattern) (captures : List Capture) (count : Nat) :
    (populate patterns captures).drop count =
      populate (patterns.drop count) (captures.drop count) := by
  simp only [populate, List.drop_zipWith]

theorem values_populate (patterns : List Pattern) (captures : List Capture)
    (paired : captures.length = patterns.length) :
    (populate patterns captures).map (·.value) = (captures.map (·.value)).map some := by
  rw [List.map_map]
  exact map_populate (·.value) (some ∘ (·.value)) (fun _ _ => rfl) patterns captures paired

/-- From a later anchor no rule takes an earlier token. -/
theorem alignments_mono (patterns : List Pattern) (tokens : List Token) (earlier later : RuleSet)
    (isEarlier : earlier ∈ alignments patterns tokens)
    (isLater : later ∈ alignments patterns tokens) (ordered : earlier.anchor ≤ later.anchor) :
    List.Forall₂ (· ≤ ·) earlier.positions later.positions := by
  obtain ⟨back, anchored⟩ := (mem_alignments_iff _ _ _).mp isLater
  obtain ⟨after, positionsEq, embedding⟩ := anchored.embedding
  rw [anchored.anchor_eq] at ordered
  rw [positionsEq]
  exact alignment_le_embedding isEarlier embedding ordered

/-- How an alignment stands to one from a later anchor: no rule has taken a later token,
and from a rule on that has taken the same token in both, all rules carry the same. -/
structure Precedes (earlier later : RuleSet) : Prop where
  behind : List.Forall₂ (· ≤ ·) earlier.positions later.positions
  meets : ∀ index position, earlier.positions[index]? = some position →
    later.positions[index]? = some position →
      earlier.positions.drop index = later.positions.drop index ∧
      (earlier.map (·.value)).drop index = (later.map (·.value)).drop index ∧
      earlier.drop (index + 1) = later.drop (index + 1)

/-- Of two alignments the one from the earlier anchor precedes the other. -/
theorem precedes_of_mem (patterns : List Pattern) (tokens : List Token) (earlier later : RuleSet)
    (isEarlier : earlier ∈ alignments patterns tokens)
    (isLater : later ∈ alignments patterns tokens) (ordered : earlier.anchor < later.anchor) :
    Precedes earlier later := by
  have notAhead := Nat.le_of_lt ordered
  refine ⟨alignments_mono patterns tokens earlier later isEarlier isLater notAhead, ?_⟩
  intro index position earlierAt laterAt
  obtain ⟨front, frontAnchored⟩ := (mem_alignments_iff _ _ _).mp isEarlier
  obtain ⟨back, backAnchored⟩ := (mem_alignments_iff _ _ _).mp isLater
  rw [frontAnchored.anchor_eq, backAnchored.anchor_eq] at ordered
  cases frontAnchored with
  | @intro first others _ value captures _ _ filling =>
    cases backAnchored with
    | @intro _ _ _ laterValue laterCaptures _ _ laterFilling =>
      rw [positions_populate_cons _ _ _ _ (filling.paired first)] at earlierAt ⊢
      rw [positions_populate_cons _ _ _ _ (laterFilling.paired first)] at laterAt ⊢
      cases index with
      | zero =>
        -- The anchors differ, so it is not the first rule that has the same token.
        simp only [List.getElem?_cons_zero, Option.some.injEq] at earlierAt laterAt
        omega
      | succ index =>
        obtain ⟨positions, values, rest⟩ :=
          filling.meet laterFilling index position earlierAt laterAt
        refine ⟨positions, ?_, ?_⟩
        · have carried := congrArg (List.map some) values
          rw [List.map_drop, List.map_drop, ← values_populate others _ filling.length_eq,
            ← values_populate others _ laterFilling.length_eq] at carried
          exact carried
        · simp only [populate_cons, List.drop_succ_cons, drop_populate, rest]

theorem length_positions_of_mem (first : Pattern) (others : List Pattern) (tokens : List Token) :
    ∀ result ∈ alignments (first :: others) tokens,
      result.positions.length = others.length + 1 := by
  intro result member
  obtain ⟨anchor, anchored⟩ := (mem_alignments_iff _ _ _).mp member
  obtain ⟨later, positionsEq, embedding⟩ := anchored.embedding
  rw [positionsEq, ← embedding.reads.length_eq, List.length_cons]

/-- The results of a skipping search that keeps overlaps and has no limit start at the first
tokens that the first rule reads, as a pass that fails lets every later one fail, and each
of them precedes those after it. -/
theorem search_ordered (tokens : List Token) (first : Rule) (others : RuleSet) :
    ∃ results, search ⟨.skipToken, .keep, none⟩ tokens (first :: others) = .ok results ∧
      results.map RuleSet.anchor <+: first.pattern.readPositions tokens ∧
      (∀ anchor later, anchor ≤ later →
        fillAll .skipToken others.patterns (tokens.drop (anchor + 1)) = .ok none →
        fillAll .skipToken others.patterns (tokens.drop (later + 1)) = .ok none) ∧
      (∀ result ∈ results, result.positions.length = (first :: others).length) ∧
      results.Pairwise Precedes := by
  have ending := search_ending ⟨.skipToken, .keep, none⟩ tokens (first :: others) (by simp)
  refine ⟨alignments (first.pattern :: others.patterns) tokens, ending.eq_ok_of_skipToken,
    anchors_prefix _ _ tokens, ?_, ?_, ?_⟩
  · intro anchor later ordered failed
    have here := fillAll_ending .skipToken others.patterns (tokens.drop (anchor + 1))
    have there := fillAll_ending .skipToken others.patterns (tokens.drop (later + 1))
    have exhausted := (here.eq_of_ok failed).symm
    rw [there.eq_ok_of_skipToken, firstReadings_eq_none_of_le exhausted (by omega)]
  · simpa [RuleSet.patterns] using length_positions_of_mem first.pattern others.patterns tokens
  · refine (alignments_increasing _ tokens).imp_of_mem ?_
    intro earlier later isEarlier isLater ordered
    exact precedes_of_mem _ tokens earlier later isEarlier isLater ordered

end SlotFilling
