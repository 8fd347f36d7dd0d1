import SlotFilling.Proofs.Search.Comparison

/-!
# Tokens in front

Tokens in front of a sentence shift its alignments and change nothing else. An alignment
that starts within the sentence takes the tokens that it takes without them, and only the
distance of its first rule, which counts from the start, grows by their number. An
aborting search over the sentence alone tries nothing that the search over the longer one
does not try.
-/
namespace SlotFilling

namespace RuleSet

/-- The rules with the distance of the first one increased. -/
def shifted (count : Nat) : RuleSet → RuleSet
  | [] => []
  | first :: others => { first with distance := first.distance.map (· + count) } :: others

/-- Whether the first rule has skipped at least so many tokens. -/
def startsFrom (position : Nat) (rules : RuleSet) : Bool :=
  (rules.head?.bind (·.distance)).any fun distance => decide (position ≤ distance)

end RuleSet

theorem shifted_populate (pattern : Pattern) (others : List Pattern) (anchor count : Nat)
    (value : SlotValue) (later : List Capture) :
    (populate (pattern :: others) (⟨anchor, value⟩ :: later)).shifted count =
      populate (pattern :: others) (⟨count + anchor, value⟩ :: later) := by
  rw [Nat.add_comm count anchor]
  rfl

theorem Anchored.startsFrom_iff {tokens : List Token} {anchor : Nat} {patterns : List Pattern}
    {result : RuleSet} (anchored : Anchored tokens anchor patterns result) (position : Nat) :
    result.startsFrom position = true ↔ position ≤ anchor := by
  cases anchored with
  | intro => exact decide_eq_true_iff

/-- Counted from the end of the tokens in front, nothing has changed. -/
theorem alignmentFrom_append_left (first : Pattern) (others : List Pattern)
    (context tokens : List Token) (anchor : Nat) :
    alignmentFrom (first :: others) (context ++ tokens) (context.length + anchor) =
      (alignmentFrom (first :: others) tokens anchor).map (·.shifted context.length) := by
  have here : (context ++ tokens)[context.length + anchor]? = tokens[anchor]? := by
    rw [List.getElem?_append_right (Nat.le_add_right _ _), Nat.add_sub_cancel_left]
  have rest : (context ++ tokens).drop (context.length + anchor + 1) =
      tokens.drop (anchor + 1) := by
    rw [Nat.add_assoc, List.drop_length_add_append]
  unfold alignmentFrom
  rw [here, rest]
  cases tokens[anchor]? with
  | none => rfl
  | some token =>
    simp only [capturesFrom]
    cases first.reading token with
    | none => rfl
    | some value =>
      cases firstReadings others (tokens.drop (anchor + 1)) with
      | none => rfl
      | some later => simp only [Option.map_some, shifted_populate]

theorem alignments_append_left (first : Pattern) (others : List Pattern)
    (context tokens : List Token) :
    (alignments (first :: others) (context ++ tokens)).filter (·.startsFrom context.length) =
      (alignments (first :: others) tokens).map (·.shifted context.length) := by
  -- The anchors are those in front, which the filter drops, and those of the sentence
  -- alone, each moved by the number of tokens in front.
  have infront : ((List.range context.length).filterMap
      (alignmentFrom (first :: others) (context ++ tokens))).filter
        (·.startsFrom context.length) = [] := by
    rw [List.filter_eq_nil_iff]
    intro result member
    obtain ⟨anchor, isBefore, found⟩ := List.mem_filterMap.mp member
    have anchored := (alignmentFrom_eq_some_iff _ _ _ _).mp found
    rw [anchored.startsFrom_iff]
    exact Nat.not_le_of_lt (List.mem_range.mp isBefore)
  have within : ((List.range tokens.length).map (context.length + ·)).filterMap
      (alignmentFrom (first :: others) (context ++ tokens)) =
        (alignments (first :: others) tokens).map (·.shifted context.length) := by
    simp only [alignments, List.filterMap_map, List.map_filterMap, Function.comp_def,
      alignmentFrom_append_left]
  have kept : ∀ result ∈ ((List.range tokens.length).map (context.length + ·)).filterMap
      (alignmentFrom (first :: others) (context ++ tokens)),
        result.startsFrom context.length = true := by
    intro result member
    obtain ⟨anchor, isShifted, found⟩ := List.mem_filterMap.mp member
    obtain ⟨offset, _, rfl⟩ := List.mem_map.mp isShifted
    have anchored := (alignmentFrom_eq_some_iff _ _ _ _).mp found
    exact (anchored.startsFrom_iff _).mpr (Nat.le_add_right _ _)
  rw [← within, ← List.filter_eq_self.mpr kept, alignments, List.length_append, List.range_add,
    List.filterMap_append, List.filter_append, infront, List.nil_append]

theorem TriedFrom.append_left {first : Pattern} {others : List Pattern} {tokens : List Token}
    {pattern : Pattern} {token : Token} (tried : TriedFrom first others tokens pattern token)
    (context : List Token) : TriedFrom first others (context ++ tokens) pattern token := by
  induction context with
  | nil => exact tried
  | cons _ _ ih => exact .onward ih

/-- The results over a sentence with tokens in front that start within the sentence are, in
order, those over the sentence alone, shifted. -/
theorem search_left_context (context tokens : List Token) (rules : RuleSet)
    (nonempty : rules ≠ []) :
    (∃ results found, search ⟨.skipToken, .keep, none⟩ tokens rules = .ok results ∧
      search ⟨.skipToken, .keep, none⟩ (context ++ tokens) rules = .ok found ∧
      found.filter (·.startsFrom context.length) = results.map (·.shifted context.length)) ∧
    (∀ found, search ⟨.abort, .keep, none⟩ (context ++ tokens) rules = .ok found →
      ∃ results, search ⟨.abort, .keep, none⟩ tokens rules = .ok results ∧
        found.filter (·.startsFrom context.length) = results.map (·.shifted context.length)) := by
  cases rules with
  | nil => exact absurd rfl nonempty
  | cons first others =>
    apply search_related (fun results found =>
      found.filter (·.startsFrom context.length) = results.map (·.shifted context.length))
    · exact alignments_append_left first.pattern _ context tokens
    · intro pattern token tried
      exact tried.append_left context

/-- The first alignment starts in front of the last four tokens, though it ends within
them. -/
theorem search_left_context_reminders :
    reminderRules ≠ [] ∧
    ∃ results found,
      search ⟨.skipToken, .keep, none⟩ (reminders.drop 2) reminderRules = .ok results ∧
      search ⟨.skipToken, .keep, none⟩ (reminders.take 2 ++ reminders.drop 2) reminderRules =
        .ok found ∧
      results.map RuleSet.positions = [[0, 1], [2, 3]] ∧
      found.map RuleSet.positions = [[0, 3], [2, 3], [4, 5]] ∧
      found.filter (·.startsFrom 2) = results.map (·.shifted 2) := by
  have nonempty : reminderRules ≠ [] := by decide
  obtain ⟨⟨results, found, returned, foundReturned, shift⟩, _⟩ :=
    search_left_context (reminders.take 2) (reminders.drop 2) reminderRules nonempty
  have alone : (search ⟨.skipToken, .keep, none⟩ (reminders.drop 2) reminderRules).map
      (·.map RuleSet.positions) = .ok [[0, 1], [2, 3]] := by decide +kernel
  have whole := search_reminders
  rw [returned] at alone
  rw [← List.take_append_drop 2 reminders, foundReturned] at whole
  exact ⟨nonempty, results, found, returned, foundReturned, Except.ok.inj alone,
    Except.ok.inj whole, shift⟩

end SlotFilling
