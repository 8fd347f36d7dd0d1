import SlotFilling.Proofs.Search.Embedding

/-!
# Alignments

Readings alone determine the alignment of each anchor, and so the list of all
alignments over a sentence. The options of a search select from that list: those
that overlap an earlier one may be left out, and a limit cuts the list short.
-/
namespace SlotFilling

def capturesFrom (first : Pattern) (others : List Pattern) (anchor : Nat) (token : Token)
    (rest : List Token) : Option (List Capture) :=
  match first.reading token with
  | none => none
  | some value => (firstReadings others rest).map fun later => ⟨anchor, value⟩ :: later

/-- The alignment from an anchor, if the first pattern reads the token there and each
other pattern finds one after it. -/
def alignmentFrom (patterns : List Pattern) (tokens : List Token) (anchor : Nat) :
    Option RuleSet :=
  match patterns, tokens[anchor]? with
  | first :: others, some token =>
    (capturesFrom first others anchor token (tokens.drop (anchor + 1))).map (populate patterns)
  | _, _ => none

/-- Every alignment of the patterns over the tokens, in the order of their anchors. -/
def alignments (patterns : List Pattern) (tokens : List Token) : List RuleSet :=
  (List.range tokens.length).filterMap (alignmentFrom patterns tokens)

/-- In order, keep an alignment exactly when its anchor lies after the last position of
the one kept before it. -/
def withoutOverlap : (kept : Option RuleSet) → List RuleSet → List RuleSet
  | _, [] => []
  | kept, result :: later =>
    if ∀ previous ∈ kept, previous.last < result.anchor then
      result :: withoutOverlap (some result) later
    else withoutOverlap kept later

namespace OverlapPolicy

/-- The alignments that a policy selects after the one that it has kept last. -/
def select : OverlapPolicy → (kept : Option RuleSet) → List RuleSet → List RuleSet
  | .keep, _, results => results
  | .suppress, kept, results => withoutOverlap kept results

/-- The first position at which an alignment may start after the one kept last. -/
def free : OverlapPolicy → (kept : Option RuleSet) → Nat
  | .suppress, some kept => kept.last + 1
  | _, _ => 0

theorem select_nil (overlap : OverlapPolicy) (kept : Option RuleSet) :
    overlap.select kept [] = [] := by
  cases overlap <;> rfl

theorem select_cons (overlap : OverlapPolicy) (kept : Option RuleSet) (result : RuleSet)
    (later : List RuleSet) :
    overlap.select kept (result :: later) =
      if result.anchor < overlap.free kept then overlap.select kept later
      else result :: overlap.select (some result) later := by
  cases overlap with
  | keep => rfl
  | suppress =>
    cases kept with
    | none => simp [select, withoutOverlap, free]
    | some previous =>
      -- "Not covered" is `previous.last + 1 ≤ result.anchor` on one side and
      -- `previous.last < result.anchor` on the other.
      simp only [select, withoutOverlap, free, Option.mem_some_iff, forall_eq', Nat.lt_succ_iff]
      by_cases after : previous.last < result.anchor
      · rw [if_pos after, if_neg (Nat.not_le.mpr after)]
      · rw [if_neg after, if_pos (Nat.not_lt.mp after)]

end OverlapPolicy

def upTo (limit : Option Nat) (results : List RuleSet) : List RuleSet :=
  match limit with
  | none => results
  | some count => results.take count

theorem upTo_nil (limit : Option Nat) : upTo limit [] = [] := by
  cases limit <;> simp [upTo]

theorem upTo_cons (limit : Option Nat) (wanted : limit ≠ some 0) (result : RuleSet)
    (later : List RuleSet) :
    upTo limit (result :: later) = result :: upTo (limit.map (· - 1)) later := by
  cases limit with
  | none => rfl
  | some count =>
    cases count with
    | zero => exact absurd rfl wanted
    | succ count => rfl

/-- What a search with these options selects from all alignments. -/
def selected (options : SearchOptions) (results : List RuleSet) : List RuleSet :=
  upTo options.limit (options.overlap.select none results)

theorem withoutOverlap_sublist (kept : Option RuleSet) (results : List RuleSet) :
    (withoutOverlap kept results).Sublist results := by
  induction results generalizing kept with
  | nil => exact .slnil
  | cons result later ih =>
    simp only [withoutOverlap]
    split
    · exact (ih (some result)).cons_cons result
    · exact (ih kept).cons result

theorem selected_sublist (options : SearchOptions) (results : List RuleSet) :
    (selected options results).Sublist results := by
  have chosen : (options.overlap.select none results).Sublist results := by
    cases options.overlap with
    | keep => exact .refl results
    | suppress => exact withoutOverlap_sublist none results
  unfold selected upTo
  cases options.limit with
  | none => exact chosen
  | some count => exact (List.take_sublist count _).trans chosen

/-- The first alignment is selected, whatever overlaps it, unless none is wanted. -/
theorem head?_selected (options : SearchOptions) (wanted : options.limit ≠ some 0)
    (results : List RuleSet) : (selected options results).head? = results.head? := by
  cases results with
  | nil => rw [selected, OverlapPolicy.select_nil, upTo_nil]
  | cons first later =>
    have free : options.overlap.free none = 0 := by cases options.overlap <;> rfl
    rw [selected, OverlapPolicy.select_cons, free, if_neg (Nat.not_lt_zero _),
      upTo_cons _ wanted]
    rfl

/-! ## Populated rules -/

theorem populate_cons (pattern : Pattern) (others : List Pattern) (capture : Capture)
    (later : List Capture) :
    populate (pattern :: others) (capture :: later) =
      ⟨pattern, some capture.value, some capture.skipped⟩ :: populate others later := rfl

/-- What depends on the captures alone is read off them. -/
theorem map_populate {α : Type} (change : Rule → α) (read : Capture → α)
    (only : ∀ pattern capture,
      change ⟨pattern, some capture.value, some capture.skipped⟩ = read capture)
    (patterns : List Pattern) (captures : List Capture)
    (paired : captures.length = patterns.length) :
    (populate patterns captures).map change = captures.map read := by
  induction patterns generalizing captures with
  | nil =>
    have empty : captures = [] := List.eq_nil_of_length_eq_zero paired
    subst empty
    rfl
  | cons pattern others ih =>
    cases captures with
    | nil => simp at paired
    | cons capture later =>
      have rest := ih later (by simpa using paired)
      simp only [populate_cons, List.map_cons, only, rest]

theorem distances_populate (patterns : List Pattern) (captures : List Capture)
    (paired : captures.length = patterns.length) :
    (populate patterns captures).filterMap (·.distance) = captures.map (·.skipped) := by
  have distances := map_populate (·.distance) (fun capture => some capture.skipped)
    (fun _ _ => rfl) patterns captures paired
  calc (populate patterns captures).filterMap (·.distance)
      = ((populate patterns captures).map (·.distance)).filterMap id := by
        rw [List.filterMap_map]
        rfl
    _ = (captures.map fun capture => some capture.skipped).filterMap id := by rw [distances]
    _ = captures.map (·.skipped) := by simp [List.filterMap_map]

theorem positions_populate (patterns : List Pattern) (captures : List Capture)
    (paired : captures.length = patterns.length) :
    (populate patterns captures).positions = places 0 (captures.map (·.skipped)) := by
  rw [RuleSet.positions, distances_populate patterns captures paired]

theorem places_last (next : Nat) (capture : Capture) (later : List Capture) (fallback : Nat) :
    (places next ((capture :: later).map (·.skipped))).getLastD fallback + 1 =
      next + tokensPassed (capture :: later) := by
  induction later generalizing next capture fallback with
  | nil => simp [places, tokensPassed, Nat.add_assoc]
  | cons following later ih =>
    -- Only the last capture counts, so the one in front just moves the start.
    rw [List.map_cons, places, List.getLastD_cons, ih]
    simp only [tokensPassed]
    omega

theorem last_populate (patterns : List Pattern) (capture : Capture) (later : List Capture)
    (paired : (capture :: later).length = patterns.length) :
    (populate patterns (capture :: later)).last + 1 = tokensPassed (capture :: later) := by
  rw [RuleSet.last, positions_populate patterns _ paired, places_last, Nat.zero_add]

theorem anchor_populate (patterns : List Pattern) (capture : Capture) (later : List Capture)
    (paired : (capture :: later).length = patterns.length) :
    (populate patterns (capture :: later)).anchor = capture.skipped := by
  rw [RuleSet.anchor, positions_populate patterns _ paired]
  simp [places]

theorem positions_populate_cons (patterns : List Pattern) (anchor : Nat) (value : SlotValue)
    (later : List Capture) (paired : later.length + 1 = patterns.length) :
    (populate patterns (⟨anchor, value⟩ :: later)).positions =
      anchor :: places (anchor + 1) (later.map (·.skipped)) := by
  rw [positions_populate patterns _ (by simpa using paired)]
  simp only [List.map_cons, places, Nat.zero_add]

/-! ## Alignments -/

/-- An alignment from an anchor: the first pattern reads the token there, and the other
patterns are filled by the tokens after it. -/
inductive Anchored (tokens : List Token) (anchor : Nat) : List Pattern → RuleSet → Prop
  | intro {first : Pattern} {others : List Pattern} {token : Token} {value : SlotValue}
      {later : List Capture} :
      tokens[anchor]? = some token →
      first.reading token = some value →
      Filling tokens (anchor + 1) others later →
      Anchored tokens anchor (first :: others)
        (populate (first :: others) (⟨anchor, value⟩ :: later))

theorem alignmentFrom_eq_some_iff (patterns : List Pattern) (tokens : List Token) (anchor : Nat)
    (result : RuleSet) :
    alignmentFrom patterns tokens anchor = some result ↔
      Anchored tokens anchor patterns result := by
  constructor
  · intro found
    unfold alignmentFrom capturesFrom at found
    split at found
    next first others token here =>
      split at found
      next => simp at found
      next value read =>
        simp only [Option.map_map, Option.map_eq_some_iff, Function.comp_apply] at found
        obtain ⟨later, filled, rfl⟩ := found
        exact .intro here read ((firstReadings_eq_some_iff tokens _ others later).mp filled)
    next => simp at found
  · rintro ⟨here, read, filling⟩
    have filled := (firstReadings_eq_some_iff tokens _ _ _).mpr filling
    simp only [alignmentFrom, capturesFrom, here, read, filled, Option.map_some]

theorem mem_alignments_iff (patterns : List Pattern) (tokens : List Token) (result : RuleSet) :
    result ∈ alignments patterns tokens ↔ ∃ anchor, Anchored tokens anchor patterns result := by
  simp only [alignments, List.mem_filterMap, List.mem_range, alignmentFrom_eq_some_iff]
  constructor
  · rintro ⟨anchor, _, anchored⟩
    exact ⟨anchor, anchored⟩
  · rintro ⟨anchor, anchored⟩
    refine ⟨anchor, ?_, anchored⟩
    cases anchored with
    | intro here => exact (List.getElem?_eq_some_iff.mp here).1

namespace Anchored

variable {tokens : List Token} {anchor : Nat} {patterns : List Pattern} {result : RuleSet}

theorem anchor_eq (anchored : Anchored tokens anchor patterns result) : result.anchor = anchor := by
  cases anchored with
  | @intro first _ _ _ _ _ _ filling => exact anchor_populate _ _ _ (filling.paired first)

theorem anchor_le_last (anchored : Anchored tokens anchor patterns result) :
    result.anchor ≤ result.last := by
  rw [anchored.anchor_eq]
  cases anchored with
  | @intro first others _ value later _ _ filling =>
    have lastEq := last_populate (first :: others) ⟨anchor, value⟩ later (filling.paired first)
    simp only [tokensPassed] at lastEq
    omega

theorem embedding (anchored : Anchored tokens anchor patterns result) :
    ∃ later, result.positions = anchor :: later ∧ Embedding patterns tokens (anchor :: later) := by
  cases anchored with
  | @intro first others token value later here read filling =>
    refine ⟨_, positions_populate_cons _ anchor value later (filling.paired first), ?_⟩
    apply Embedding.cons here ((first.reads_iff token).mpr ⟨value, read⟩) _ filling.embedding
    exact fun other member => Nat.lt_of_succ_le (places_ge (anchor + 1) _ other member)

end Anchored

/-- An anchor from which the patterns embed has an alignment, and no embedding from
there is ahead of it at any pattern. -/
theorem anchored_of_embedding (patterns : List Pattern) (tokens : List Token) (anchor : Nat)
    (later : List Nat) (embedding : Embedding patterns tokens (anchor :: later)) :
    ∃ result, Anchored tokens anchor patterns result ∧
      List.Forall₂ (· ≤ ·) result.positions (anchor :: later) := by
  cases patterns with
  | nil => cases embedding.reads
  | cons first others =>
    obtain ⟨_, _, token, same, here, reads, after, rest⟩ := embedding.uncons
    cases same
    obtain ⟨value, read⟩ := (first.reads_iff token).mp reads
    obtain ⟨captures, filled, least⟩ :=
      firstReadings_least others tokens (anchor + 1) later rest after
    have filling := (firstReadings_eq_some_iff tokens _ others captures).mp filled
    refine ⟨_, .intro here read filling, ?_⟩
    rw [positions_populate_cons _ anchor value captures (filling.paired first)]
    exact .cons (Nat.le_refl anchor) least

theorem alignments_increasing (patterns : List Pattern) (tokens : List Token) :
    (alignments patterns tokens).Pairwise (fun earlier later => earlier.anchor < later.anchor) := by
  refine List.Pairwise.filterMap _ ?_ List.pairwise_lt_range
  intro left right ordered earlier earlierAt later laterAt
  rw [((alignmentFrom_eq_some_iff _ _ _ _).mp earlierAt).anchor_eq,
    ((alignmentFrom_eq_some_iff _ _ _ _).mp laterAt).anchor_eq]
  exact ordered

theorem anchor_le_last_of_mem (patterns : List Pattern) (tokens : List Token) :
    ∀ result ∈ alignments patterns tokens, result.anchor ≤ result.last := by
  intro result member
  obtain ⟨_, anchored⟩ := (mem_alignments_iff patterns tokens result).mp member
  exact anchored.anchor_le_last

/-! ## Alignments from one anchor on -/

theorem drop_succ_of_drop {tokens : List Token} {anchor : Nat} {token : Token}
    {rest : List Token} (suffix : tokens.drop anchor = token :: rest) :
    tokens.drop (anchor + 1) = rest := by
  rw [← List.tail_drop, suffix, List.tail_cons]

theorem filterMap_range'_of_drop (patterns : List Pattern) (tokens : List Token) (anchor : Nat)
    (token : Token) (rest : List Token) (suffix : tokens.drop anchor = token :: rest) :
    (List.range' anchor (tokens.length - anchor)).filterMap (alignmentFrom patterns tokens) =
      (alignmentFrom patterns tokens anchor).toList ++
        (List.range' (anchor + 1) (tokens.length - (anchor + 1))).filterMap
          (alignmentFrom patterns tokens) := by
  have inside : anchor < tokens.length := by
    have shorter := congrArg List.length suffix
    simp only [List.length_drop, List.length_cons] at shorter
    omega
  have count : tokens.length - anchor = tokens.length - (anchor + 1) + 1 := by omega
  rw [count, List.range'_succ, List.filterMap_cons]
  cases alignmentFrom patterns tokens anchor <;> rfl

theorem alignmentFrom_of_drop (first : Pattern) (others : List Pattern) (tokens : List Token)
    (anchor : Nat) (token : Token) (rest : List Token)
    (suffix : tokens.drop anchor = token :: rest) :
    alignmentFrom (first :: others) tokens anchor =
      (capturesFrom first others anchor token rest).map (populate (first :: others)) := by
  have here : tokens[anchor]? = some token := by
    rw [← Nat.add_zero anchor, ← List.getElem?_drop, suffix]
    rfl
  simp only [alignmentFrom, here, drop_succ_of_drop suffix]

theorem capturesFrom_eq_some {first : Pattern} {others : List Pattern} {anchor : Nat}
    {token : Token} {rest : List Token} {captures : List Capture}
    (found : capturesFrom first others anchor token rest = some captures) :
    ∃ value later, captures = ⟨anchor, value⟩ :: later ∧
      later.length + 1 = (first :: others).length := by
  unfold capturesFrom at found
  split at found
  next => simp at found
  next value _ =>
    obtain ⟨later, filled, rfl⟩ := Option.map_eq_some_iff.mp found
    have filling := (firstReadings_eq_some_iff rest 0 others later).mp (by rwa [List.drop_zero])
    exact ⟨value, later, rfl, filling.paired first⟩

end SlotFilling
