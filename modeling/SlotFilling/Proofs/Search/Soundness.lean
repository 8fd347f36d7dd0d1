import SlotFilling.Proofs.Search.Runs

/-!
# Soundness of alignments

Whatever the options are, each result of a search is an alignment: the rules that
were searched for, each with the value of a token that it reads and with a distance.
The distances alone lead back to the tokens, and between two of them lies no token
that the later rule reads. Different results have different anchors.
-/
namespace SlotFilling

/-- A rule carries the value of the token at its position. -/
def Carries (tokens : List Token) (rule : Rule) (position : Nat) : Prop :=
  ∃ token, tokens[position]? = some token ∧ rule.pattern.accepts token = true ∧
    rule.value = rule.pattern.value? token

/-- A result with the same rules, each of them matched. Its positions come from its
distances; at each of them stands the token whose value the rule carries, and no rule
but the first has passed over a token that it reads. -/
structure IsAlignment (rules : RuleSet) (tokens : List Token) (result : RuleSet) : Prop where
  patterns : result.patterns = rules.patterns
  populated : ∀ rule ∈ result, rule.value.isSome = true ∧ rule.distance.isSome = true
  first_distance : result.head?.bind (·.distance) = some result.anchor
  increasing : result.positions.Pairwise (· < ·)
  inside : ∀ position ∈ result.positions, position < tokens.length
  carried : List.Forall₂ (Carries tokens) result result.positions
  first_fit : ∀ index before position rule, result.positions[index]? = some before →
    result.positions[index + 1]? = some position → result[index + 1]? = some rule →
    ∀ between token, before < between → between < position → tokens[between]? = some token →
      ¬ rule.pattern.Reads token

theorem patterns_populate (patterns : List Pattern) (captures : List Capture)
    (paired : captures.length = patterns.length) :
    (populate patterns captures).patterns = patterns := by
  induction patterns generalizing captures with
  | nil => rfl
  | cons pattern others ih =>
    cases captures with
    | nil => simp at paired
    | cons capture later =>
      have rest := ih later (by simpa using paired)
      rw [populate_cons, RuleSet.patterns_cons, rest]

theorem populated_populate (patterns : List Pattern) (captures : List Capture) :
    ∀ rule ∈ populate patterns captures,
      rule.value.isSome = true ∧ rule.distance.isSome = true := by
  intro rule member
  obtain ⟨index, here⟩ := List.mem_iff_getElem?.mp member
  simp only [populate, List.getElem?_zipWith] at here
  split at here
  next =>
    cases here
    exact ⟨rfl, rfl⟩
  next => simp at here

theorem carries_of_reading {tokens : List Token} {pattern : Pattern} {position distance : Nat}
    {token : Token} {value : SlotValue} (present : tokens[position]? = some token)
    (reads : pattern.reading token = some value) :
    Carries tokens ⟨pattern, some value, some distance⟩ position := by
  obtain ⟨accepted, valueEq⟩ := (pattern.reading_eq_some_iff token value).mp reads
  exact ⟨token, present, accepted, valueEq.symm⟩

namespace Filling

variable {tokens : List Token} {next : Nat} {patterns : List Pattern} {captures : List Capture}

theorem carries (filling : Filling tokens next patterns captures) :
    List.Forall₂ (Carries tokens) (populate patterns captures)
      (places next (captures.map (·.skipped))) := by
  induction filling with
  | done => exact .nil
  | take present reads _ _ ih => exact .cons (carries_of_reading present reads) ih

theorem first_fit (filling : Filling tokens next patterns captures) (previous : Nat)
    (follows : next = previous + 1) (index before position : Nat) (rule : Rule)
    (beforeAt : (previous :: places next (captures.map (·.skipped)))[index]? = some before)
    (positionAt : (places next (captures.map (·.skipped)))[index]? = some position)
    (ruleAt : (populate patterns captures)[index]? = some rule) (between : Nat) (token : Token)
    (lower : before < between) (upper : between < position)
    (present : tokens[between]? = some token) : ¬ rule.pattern.Reads token := by
  -- The position before that of the first rule is `previous`, where the filling begins;
  -- for the rules after it the filling of the tail begins one step later.
  induction filling generalizing previous index with
  | done => simp [populate] at ruleAt
  | @take next skipped _ pattern others later _ _ _ passed rest ih =>
    rw [populate_cons] at ruleAt
    rw [List.map_cons, places] at beforeAt positionAt
    cases index with
    | zero =>
      simp only [List.getElem?_cons_zero, Option.some.injEq] at beforeAt positionAt ruleAt
      subst beforeAt positionAt ruleAt
      exact passed between token (by omega) upper present
    | succ index => exact ih (next + skipped) rfl index beforeAt positionAt ruleAt

end Filling

theorem Anchored.isAlignment {rules : RuleSet} {tokens : List Token} {anchor : Nat}
    {result : RuleSet} (anchored : Anchored tokens anchor rules.patterns result) :
    IsAlignment rules tokens result := by
  have anchorEq := anchored.anchor_eq
  obtain ⟨_, sameEq, embedding⟩ := anchored.embedding
  rw [← sameEq] at embedding
  generalize patternsEq : rules.patterns = patterns at anchored embedding
  cases anchored with
  | @intro first others token value later here read filling =>
    have paired := filling.paired first
    have positionsEq := positions_populate_cons (first :: others) anchor value later paired
    constructor
    case patterns =>
      rw [patternsEq]
      exact patterns_populate (first :: others) (⟨anchor, value⟩ :: later) paired
    case populated => exact populated_populate (first :: others) _
    case first_distance =>
      rw [anchorEq]
      rfl
    case increasing => exact embedding.increasing
    case inside => exact embedding.inside
    case carried =>
      rw [positionsEq, populate_cons]
      exact .cons (carries_of_reading here read) filling.carries
    case first_fit =>
      intro index before position rule beforeAt positionAt ruleAt between passed lower upper present
      rw [positionsEq] at beforeAt positionAt
      rw [populate_cons] at ruleAt
      exact filling.first_fit anchor rfl index before position rule beforeAt positionAt ruleAt
        between passed lower upper present

theorem isAlignment_of_search {options : SearchOptions} {tokens : List Token} {rules : RuleSet}
    {results : List RuleSet} (returned : search options tokens rules = .ok results)
    {result : RuleSet} (member : result ∈ results) : IsAlignment rules tokens result := by
  obtain ⟨_, rfl⟩ := eq_selected_of_search returned
  have isSelected := (selected_sublist options _).subset member
  obtain ⟨_, anchored⟩ := (mem_alignments_iff _ _ _).mp isSelected
  exact anchored.isAlignment

/-- Every result of a search is an alignment of its rules, and the anchors of the
results increase strictly. -/
theorem search_sound (options : SearchOptions) (tokens : List Token) (rules : RuleSet)
    (results : List RuleSet) (returned : search options tokens rules = .ok results) :
    (∀ result ∈ results, IsAlignment rules tokens result) ∧
      results.Pairwise (fun earlier later => earlier.anchor < later.anchor) := by
  obtain ⟨_, rfl⟩ := eq_selected_of_search returned
  have sublist := selected_sublist options (alignments rules.patterns tokens)
  constructor
  · intro result member
    obtain ⟨anchor, anchored⟩ := (mem_alignments_iff _ _ _).mp (sublist.subset member)
    exact anchored.isAlignment
  · exact (alignments_increasing rules.patterns tokens).sublist sublist

theorem search_sound_reminders :
    ∃ results, search ⟨.skipToken, .suppress, some 2⟩ reminders reminderRules = .ok results ∧
      results.map RuleSet.positions = [[0, 3], [4, 5]] ∧
      (∀ result ∈ results, IsAlignment reminderRules reminders result) ∧
      results.Pairwise (fun earlier later => earlier.anchor < later.anchor) := by
  have found : (search ⟨.skipToken, .suppress, some 2⟩ reminders reminderRules).map
      (·.map RuleSet.positions) = .ok [[0, 3], [4, 5]] := by decide +kernel
  cases returned : search ⟨.skipToken, .suppress, some 2⟩ reminders reminderRules with
  | error fault =>
    rw [returned] at found
    cases found
  | ok results =>
    rw [returned] at found
    exact ⟨results, rfl, Except.ok.inj found,
      search_sound ⟨.skipToken, .suppress, some 2⟩ reminders reminderRules results returned⟩

end SlotFilling
