import SlotFilling.Sequence
import SlotFilling.Proofs.Search.Attempts
import SlotFilling.Proofs.Search.Soundness

/-!
# Searching with rules that were matched before

A rule set may carry values and distances of earlier matches. Here the search works on the
rules themselves. At each token a copy of the first rule is matched as it stands, with its
old value. A pass matches a copy of all rules that is reset first, and counts positions
from the start of the sentence. This search is the one for the patterns of the rules, so
nothing that the rules carried is ever seen.
-/
namespace SlotFilling

namespace InPlace

/-- Match a token under a mismatch policy. -/
def attempt (policy : MismatchPolicy) (rule : Rule) (token : Token) :
    Except Fault (Option Rule) :=
  match policy, rule.matchToken token with
  | .skipToken, .error _ => .ok none
  | _, answer => answer

/-- A rule that has matched the token at a position. -/
structure Match where
  position : Nat
  rule : Rule

/-- The first match of a rule among tokens that begin at some position. -/
def findFrom (policy : MismatchPolicy) (rule : Rule) :
    (position : Nat) → List Token → Except Fault (Option Match)
  | _, [] => .ok none
  | position, token :: rest => do
    match ← attempt policy rule token with
    | some matched => return some ⟨position, matched⟩
    | none => findFrom policy rule (position + 1) rest

/-- The rules after a pass, and the position of the last token taken. -/
structure Pass where
  rules : RuleSet
  last : Nat

/-- Match the rules that are left, from the cursor on. -/
def pass (policy : MismatchPolicy) (tokens : List Token) (anchor : Nat) :
    (cursor : Nat) → (previous : Option Nat) → RuleSet → Except Fault (Option Pass)
  | _, previous, [] => .ok (some ⟨[], previous.getD anchor⟩)
  | cursor, previous, rule :: waiting => do
    match ← findFrom policy rule cursor (tokens.drop cursor) with
    | none => return none
    | some found =>
      let distance := match previous with
        | some before => found.position - before - 1
        | none => found.position
      let later ← pass policy tokens anchor (found.position + 1) (some found.position) waiting
      return later.map fun done =>
        { done with rules := { found.rule with distance := some distance } :: done.rules }

/-- The pass from an anchor, on a copy of the rules. -/
def align (policy : MismatchPolicy) (tokens : List Token) (rules : RuleSet) (anchor : Nat) :
    Except Fault (Option Pass) :=
  pass policy tokens anchor anchor none rules.reset

/-- Whether a copy of the first rule matches a token. -/
def asks (policy : MismatchPolicy) (first : Rule) (token : Token) : Except Fault Bool :=
  if first.pattern.accepts token then (attempt policy first token).map Option.isSome
  else .ok false

/-- Try a token as an anchor. The last alignment found so far ends at `covered`. -/
def tryAnchor (options : SearchOptions) (tokens : List Token) (rules : RuleSet) (first : Rule)
    (anchor : Nat) (covered : Option Nat) (token : Token) : Except Fault (Option Pass) := do
  if ← asks options.onMismatch first token then
    if options.overlap = .suppress ∧ covered.any (anchor ≤ ·) then return none
    else align options.onMismatch tokens rules anchor
  else return none

/-- Try the tokens from position `anchor` on, when `found` alignments have been found. -/
def searchFrom (options : SearchOptions) (tokens : List Token) (rules : RuleSet) (first : Rule) :
    (anchor found : Nat) → (covered : Option Nat) → List Token → Except Fault (List RuleSet)
  | _, _, _, [] => .ok []
  | anchor, found, covered, token :: rest =>
    if options.limit.any (· ≤ found) then .ok []
    else do
      match ← tryAnchor options tokens rules first anchor covered token with
      | none => searchFrom options tokens rules first (anchor + 1) found covered rest
      | some done =>
        let later ←
          searchFrom options tokens rules first (anchor + 1) (found + 1) (some done.last) rest
        return done.rules :: later

def search (options : SearchOptions) (tokens : List Token) (rules : RuleSet) :
    Except Fault (List RuleSet) := do
  let first ← Sequence.first rules
  searchFrom options tokens rules first 0 0 none tokens

/-! ## The same on patterns -/

theorem attempt_eq (policy : MismatchPolicy) (rule : Rule) (token : Token) :
    attempt policy rule token =
      (rule.pattern.attempt policy token).map
        (·.map fun value => { rule with value := some value }) := by
  unfold attempt Pattern.attempt Rule.matchToken
  cases rule.pattern.read token with
  | error fault => cases policy <;> rfl
  | ok read => cases read <;> cases policy <;> rfl

theorem findFrom_eq (policy : MismatchPolicy) (rule : Rule) (position : Nat)
    (tokens : List Token) :
    findFrom policy rule position tokens =
      (rule.pattern.firstFit policy tokens).map (·.map fun fit =>
        ⟨position + fit.skipped, { rule with value := some fit.value }⟩) := by
  induction tokens generalizing position with
  | nil => rfl
  | cons token rest ih =>
    unfold findFrom Pattern.firstFit
    rw [attempt_eq]
    cases rule.pattern.attempt policy token with
    | error fault => rfl
    | ok read =>
      cases read with
      | some value => rfl
      | none =>
        simp only [Except.map, bind, Except.bind, Option.map_none, ih]
        cases rule.pattern.firstFit policy rest with
        | error fault => rfl
        | ok found =>
          cases found with
          | none => rfl
          | some fit =>
            have position : position + 1 + fit.skipped = position + (fit.skipped + 1) := by omega
            simp only [pure, Except.pure, Option.map_some, position]

theorem rest_of_firstFit {policy : MismatchPolicy} {pattern : Pattern} {tokens : List Token}
    {fit : Fit} (found : pattern.firstFit policy tokens = .ok (some fit)) :
    fit.rest = tokens.drop (fit.skipped + 1) := by
  have reading := (firstFit_ending policy pattern tokens).eq_of_ok found
  exact ((pattern.firstReading_eq_some_iff tokens fit).mp reading.symm).rest

/-- After the first rule, a pass counts the tokens skipped since the token before. -/
theorem pass_eq (policy : MismatchPolicy) (tokens : List Token) (anchor before : Nat)
    (patterns : List Pattern) :
    pass policy tokens anchor (before + 1) (some before) (.ofPatterns patterns) =
      (fillAll policy patterns (tokens.drop (before + 1))).map (·.map fun captures =>
        ⟨populate patterns captures, before + tokensPassed captures⟩) := by
  induction patterns generalizing before with
  | nil => rfl
  | cons pattern others ih =>
    rw [RuleSet.ofPatterns, List.map_cons, ← RuleSet.ofPatterns]
    unfold pass fillAll
    rw [findFrom_eq]
    simp only [Rule.ofPattern]
    cases found : pattern.firstFit policy (tokens.drop (before + 1)) with
    | error fault => rfl
    | ok fit =>
      cases fit with
      | none => rfl
      | some fit =>
        have rest := rest_of_firstFit found
        rw [List.drop_drop] at rest
        -- The cursor stands right after the token taken last, so the difference of the
        -- positions counts the tokens between them.
        have distance : before + 1 + fit.skipped - before - 1 = fit.skipped := by omega
        have cursor : tokens.drop (before + 1 + fit.skipped + 1) = fit.rest := by
          rw [rest]
          rfl
        simp only [Except.map, bind, Except.bind, Option.map_some, ih, cursor, distance]
        cases fillAll policy others fit.rest with
        | error fault => rfl
        | ok filled =>
          cases filled with
          | none => rfl
          | some later =>
            have last : before + 1 + fit.skipped + tokensPassed later =
                before + (fit.skipped + 1 + tokensPassed later) := by omega
            simp only [pure, Except.pure, Option.map_some, populate_cons, tokensPassed, last]

theorem asks_eq (policy : MismatchPolicy) (first : Rule) (token : Token) :
    asks policy first token = (first.pattern.attempt policy token).map Option.isSome := by
  unfold asks
  by_cases accepted : first.pattern.accepts token = true
  · rw [if_pos accepted, attempt_eq]
    cases first.pattern.attempt policy token with
    | error fault => rfl
    | ok read => cases read <;> rfl
  · have rejected := (first.pattern.read_eq_none_iff token).mpr (by simpa using accepted)
    rw [if_neg accepted]
    cases policy <;> simp [Pattern.attempt, rejected, Except.map]

/-- The pass from an anchor that the first rule reads. -/
theorem align_eq (policy : MismatchPolicy) (tokens : List Token) (first : Rule) (others : RuleSet)
    (anchor : Nat) (token : Token) (rest : List Token) (value : SlotValue)
    (suffix : tokens.drop anchor = token :: rest)
    (read : first.pattern.attempt policy token = .ok (some value)) :
    align policy tokens (first :: others) anchor =
      (fillAll policy others.patterns rest).map (·.map fun later =>
        ⟨populate (first.pattern :: others.patterns) (⟨anchor, value⟩ :: later),
          tokensPassed (⟨anchor, value⟩ :: later) - 1⟩) := by
  have restEq := drop_succ_of_drop suffix
  -- The first rule finds the anchor itself. No token was taken before, so its distance is
  -- its position.
  have found : findFrom policy first.reset anchor (tokens.drop anchor) =
      .ok (some ⟨anchor, { first.reset with value := some value }⟩) := by
    rw [suffix, findFrom_eq]
    simp only [Rule.reset, Rule.ofPattern, Pattern.firstFit_cons_of_read read]
    rfl
  have waiting : RuleSet.reset others = .ofPatterns others.patterns := others.reset_eq_ofPatterns
  have last : ∀ later,
      anchor + tokensPassed later = tokensPassed (⟨anchor, value⟩ :: later) - 1 := by
    intro later
    simp only [tokensPassed]
    omega
  unfold align
  rw [RuleSet.reset, List.map_cons, ← RuleSet.reset, waiting]
  unfold pass
  simp only [found, bind, Except.bind, pass_eq, restEq, last]
  cases fillAll policy others.patterns rest with
  | error fault => rfl
  | ok filled => cases filled <;> rfl

/-- The first position at which an alignment may start, when the one found last ends at
`covered`. -/
def free : OverlapPolicy → (covered : Option Nat) → Nat
  | .suppress, some last => last + 1
  | _, _ => 0

theorem lt_free_iff (overlap : OverlapPolicy) (covered : Option Nat) (anchor : Nat) :
    anchor < free overlap covered ↔ overlap = .suppress ∧ covered.any (anchor ≤ ·) = true := by
  cases overlap with
  | keep => simp [free]
  | suppress =>
    cases covered with
    | none => simp [free]
    | some last =>
      simp only [free, Option.any_some, decide_eq_true_eq, true_and, Nat.lt_succ_iff]

theorem freeAfter_free (overlap : OverlapPolicy) (covered : Option Nat) (captures : List Capture)
    (nonempty : 0 < tokensPassed captures) :
    freeAfter overlap (free overlap covered) captures =
      free overlap (some (tokensPassed captures - 1)) := by
  cases overlap with
  | keep => rfl
  | suppress => exact (Nat.sub_add_cancel nonempty).symm

theorem tryAnchor_eq (options : SearchOptions) (tokens : List Token) (first : Rule)
    (others : RuleSet) (anchor : Nat) (covered : Option Nat) (token : Token) (rest : List Token)
    (suffix : tokens.drop anchor = token :: rest) :
    tryAnchor options tokens (first :: others) first anchor covered token =
      (alignmentAt options first.pattern others.patterns anchor (free options.overlap covered)
        token rest).map (·.map fun captures =>
          ⟨populate (first.pattern :: others.patterns) captures, tokensPassed captures - 1⟩) := by
  unfold tryAnchor alignmentAt
  rw [asks_eq]
  cases read : first.pattern.attempt options.onMismatch token with
  | error fault => rfl
  | ok answer =>
    cases answer with
    | none => rfl
    | some value =>
      simp only [Except.map, bind, Except.bind, Option.isSome_some, if_true]
      by_cases inside : anchor < free options.overlap covered
      · rw [if_pos inside, if_pos ((lt_free_iff _ _ _).mp inside)]
        rfl
      · rw [if_neg inside, if_neg (fun covers => inside ((lt_free_iff _ _ _).mpr covers)),
          align_eq _ _ _ _ _ _ _ _ suffix read]
        cases fillAll options.onMismatch others.patterns rest with
        | error fault => rfl
        | ok filled =>
          cases filled with
          | none => rfl
          | some later => rfl

theorem tokensPassed_of_alignmentAt {options : SearchOptions} {first : Pattern}
    {others : List Pattern} {anchor free : Nat} {token : Token} {rest : List Token}
    {captures : List Capture}
    (tried : alignmentAt options first others anchor free token rest = .ok (some captures)) :
    0 < tokensPassed captures := by
  have found := (alignmentAt_ending options first others anchor free token rest).eq_of_ok tried
  by_cases covered : anchor < free
  · rw [if_pos covered] at found
    cases found
  · rw [if_neg covered] at found
    obtain ⟨_, later, rfl, _⟩ := capturesFrom_eq_some found.symm
    simp only [tokensPassed]
    omega

theorem limit_reached_iff (limit : Option Nat) (found : Nat) :
    limit.any (· ≤ found) = true ↔ limit.map (· - found) = some 0 := by
  cases limit with
  | none => simp
  | some most => simp [Nat.sub_eq_zero_iff_le]

theorem limit_found (limit : Option Nat) (found : Nat) :
    (limit.map (· - found)).map (· - 1) = limit.map (· - (found + 1)) := by
  cases limit <;> rfl

/-- A search on the rules goes through the same anchors as one on their patterns. -/
theorem searchFrom_eq (options : SearchOptions) (tokens : List Token) (first : Rule)
    (others : RuleSet) (anchor found : Nat) (covered : Option Nat) :
    searchFrom options tokens (first :: others) first anchor found covered (tokens.drop anchor) =
      SlotFilling.searchFrom options first.pattern others.patterns anchor
        (free options.overlap covered) (options.limit.map (· - found)) (tokens.drop anchor) := by
  -- Both go over the same tokens. Wanted is the limit less what has been found, and the
  -- first free position is the one after the alignment found last.
  generalize suffix : tokens.drop anchor = remaining
  induction remaining generalizing anchor found covered with
  | nil => rfl
  | cons token rest ih =>
    have restEq := drop_succ_of_drop suffix
    unfold searchFrom SlotFilling.searchFrom
    by_cases reached : options.limit.any (· ≤ found) = true
    · rw [if_pos reached, if_pos ((limit_reached_iff _ _).mp reached)]
    · rw [if_neg reached, if_neg (fun exhausted => reached ((limit_reached_iff _ _).mpr exhausted)),
        tryAnchor_eq _ _ _ _ _ _ _ _ suffix]
      cases tried : alignmentAt options first.pattern others.patterns anchor
          (free options.overlap covered) token rest with
      | error fault => rfl
      | ok answer =>
        cases answer with
        | none => exact ih (anchor + 1) found covered restEq
        | some captures =>
          have onward := ih (anchor + 1) (found + 1) (some (tokensPassed captures - 1)) restEq
          rw [← freeAfter_free _ covered captures (tokensPassed_of_alignmentAt tried),
            ← limit_found] at onward
          simp only [Except.map, bind, Except.bind, Option.map_some, onward]

/-- A search on the rules themselves is the search for their patterns. -/
theorem search_eq (options : SearchOptions) (tokens : List Token) (rules : RuleSet) :
    search options tokens rules = SlotFilling.search options tokens rules := by
  cases rules with
  | nil => rfl
  | cons first others =>
    have whole := searchFrom_eq options tokens first others 0 0 none
    have start : free options.overlap none = 0 := by cases options.overlap <;> rfl
    have limit : options.limit.map (· - 0) = options.limit := by cases options.limit <;> rfl
    rw [start, limit, List.drop_zero] at whole
    exact whole

end InPlace

theorem patterns_of_mem_results {options : SearchOptions} {tokens : List Token} {rules : RuleSet}
    {results : List RuleSet} (returned : search options tokens rules = .ok results) :
    ∀ result ∈ results, result.patterns = rules.patterns :=
  fun _ member => (isAlignment_of_search returned member).patterns

/-- Rules that define the same are searched for alike, whatever they carry. -/
theorem search_congr {rules others : RuleSet} (same : rules.patterns = others.patterns)
    (options : SearchOptions) (tokens : List Token) :
    search options tokens rules = search options tokens others := by
  unfold search
  rw [same]

/-- What earlier matches have left in the rules is never seen: a search on them as they are
ends like one on rules that are reset or defined anew, and its results can be searched for
in place of the rules. -/
theorem search_forgets_matches (options : SearchOptions) (tokens : List Token) (rules : RuleSet) :
    InPlace.search options tokens rules = search options tokens rules ∧
    InPlace.search options tokens rules.reset = InPlace.search options tokens rules ∧
    InPlace.search options tokens (.ofPatterns rules.patterns) =
      InPlace.search options tokens rules ∧
    ∀ results, InPlace.search options tokens rules = .ok results → ∀ result ∈ results,
      result.patterns = rules.patterns ∧
      ∀ further sentence,
        InPlace.search further sentence result = InPlace.search further sentence rules := by
  simp only [InPlace.search_eq]
  have defined : (RuleSet.ofPatterns rules.patterns).patterns = rules.patterns :=
    RuleSet.patterns_ofPatterns rules.patterns
  refine ⟨trivial, ?_, search_congr defined options tokens, ?_⟩
  · rw [rules.reset_eq_ofPatterns]
    exact search_congr defined options tokens
  · intro results returned result member
    have same := patterns_of_mem_results returned result member
    exact ⟨same, fun further sentence => search_congr same further sentence⟩

end SlotFilling
