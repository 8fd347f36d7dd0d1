import SlotFilling.Search

/-!
# Readings

A pattern reads a token that it accepts and whose value it finds. Readings alone,
without a policy for tokens that cannot be read, decide what a search looks for:
the first token that a pattern reads, and the tokens that several patterns take in
turn.
-/
namespace SlotFilling

namespace Pattern

/-- A pattern reads a token that it accepts and that holds a value of its kind. -/
def Reads (pattern : Pattern) (token : Token) : Prop :=
  pattern.accepts token = true ∧ (pattern.value? token).isSome = true

/-- The value that a pattern reads from a token. -/
def reading (pattern : Pattern) (token : Token) : Option SlotValue :=
  if pattern.accepts token then pattern.value? token else none

theorem reading_eq_some_iff (pattern : Pattern) (token : Token) (value : SlotValue) :
    pattern.reading token = some value ↔
      pattern.accepts token = true ∧ pattern.value? token = some value := by
  unfold reading
  split <;> simp_all

theorem reads_iff (pattern : Pattern) (token : Token) :
    pattern.Reads token ↔ ∃ value, pattern.reading token = some value := by
  simp only [Reads, reading_eq_some_iff, Option.isSome_iff_exists, exists_and_left]

def firstReading (pattern : Pattern) : List Token → Option Fit
  | [] => none
  | token :: rest =>
    match pattern.reading token with
    | some value => some ⟨0, value, rest⟩
    | none => (pattern.firstReading rest).map fun fit => { fit with skipped := fit.skipped + 1 }

/-- A fit whose token is read and comes after tokens that are not. -/
structure FirstAt (pattern : Pattern) (tokens : List Token) (fit : Fit) : Prop where
  reads : ∃ token, tokens[fit.skipped]? = some token ∧ pattern.reading token = some fit.value
  rest : fit.rest = tokens.drop (fit.skipped + 1)
  passed : ∀ position token, position < fit.skipped → tokens[position]? = some token →
    ¬ pattern.Reads token

private theorem firstReading_sound (pattern : Pattern) (tokens : List Token) (fit : Fit)
    (found : pattern.firstReading tokens = some fit) : pattern.FirstAt tokens fit := by
  induction tokens generalizing fit with
  | nil => simp [firstReading] at found
  | cons token rest ih =>
    simp only [firstReading] at found
    split at found
    next value here =>
      cases found
      refine ⟨⟨token, rfl, here⟩, rfl, ?_⟩
      intro position _ before
      exact absurd before (Nat.not_lt_zero position)
    next absent =>
      obtain ⟨later, laterFound, rfl⟩ := Option.map_eq_some_iff.mp found
      obtain ⟨reads, restEq, passed⟩ := ih later laterFound
      refine ⟨by simpa using reads, by simpa using restEq, ?_⟩
      intro position skipped before present
      cases position with
      | zero =>
        have same : token = skipped := by simpa using present
        subst same
        rw [reads_iff, absent]
        simp
      | succ position =>
        exact passed position skipped (by simpa using before) (by simpa using present)

/-- A pattern that reads some token finds a first one, at or before that token. -/
theorem firstReading_of_reads (pattern : Pattern) (tokens : List Token) (position : Nat)
    (token : Token) (present : tokens[position]? = some token) (reads : pattern.Reads token) :
    ∃ fit, pattern.firstReading tokens = some fit ∧ fit.skipped ≤ position := by
  induction tokens generalizing position with
  | nil => simp at present
  | cons front rest ih =>
    simp only [firstReading]
    split
    next value _ => exact ⟨_, rfl, Nat.zero_le position⟩
    next absent =>
      cases position with
      | zero =>
        have same : front = token := by simpa using present
        subst same
        rw [reads_iff, absent] at reads
        simp at reads
      | succ position =>
        obtain ⟨fit, found, bound⟩ := ih position (by simpa using present)
        exact ⟨_, by rw [found]; rfl, Nat.succ_le_succ bound⟩

theorem firstReading_eq_some_iff (pattern : Pattern) (tokens : List Token) (fit : Fit) :
    pattern.firstReading tokens = some fit ↔ pattern.FirstAt tokens fit := by
  constructor
  · exact firstReading_sound pattern tokens fit
  · rintro ⟨⟨token, present, read⟩, restEq, passed⟩
    have reads : pattern.Reads token := (reads_iff pattern token).mpr ⟨fit.value, read⟩
    obtain ⟨first, found, bound⟩ := firstReading_of_reads pattern tokens _ token present reads
    obtain ⟨⟨firstToken, firstPresent, firstRead⟩, firstRest, _⟩ :=
      firstReading_sound pattern tokens first found
    -- The first token that is read cannot come earlier, since the fit has passed over
    -- nothing that is read.
    have same : first.skipped = fit.skipped := by
      rcases Nat.lt_or_eq_of_le bound with earlier | same
      · have unread := passed first.skipped firstToken earlier firstPresent
        exact absurd ((reads_iff pattern firstToken).mpr ⟨first.value, firstRead⟩) unread
      · exact same
    rw [same, present] at firstPresent
    cases firstPresent
    have sameValue : first.value = fit.value := Option.some.inj (firstRead.symm.trans read)
    have sameRest : first.rest = fit.rest := by rw [firstRest, restEq, same]
    rw [found]
    cases first
    cases fit
    simp_all

end Pattern

/-- The tokens that patterns take in turn, each the first one that its pattern reads. -/
def firstReadings : List Pattern → List Token → Option (List Capture)
  | [], _ => some []
  | pattern :: others, tokens =>
    match pattern.firstReading tokens with
    | none => none
    | some fit => (firstReadings others fit.rest).map fun later => ⟨fit.skipped, fit.value⟩ :: later

/-- In turn, each pattern has taken the first token from position `next` on that it reads. -/
inductive Filling (tokens : List Token) : (next : Nat) → List Pattern → List Capture → Prop
  | done {next : Nat} : Filling tokens next [] []
  | take {next skipped : Nat} {value : SlotValue} {pattern : Pattern} {others : List Pattern}
      {later : List Capture} {token : Token} :
      tokens[next + skipped]? = some token →
      pattern.reading token = some value →
      (∀ position passed, next ≤ position → position < next + skipped →
        tokens[position]? = some passed → ¬ pattern.Reads passed) →
      Filling tokens (next + skipped + 1) others later →
      Filling tokens next (pattern :: others) (⟨skipped, value⟩ :: later)

theorem Filling.length_eq {tokens : List Token} {next : Nat} {patterns : List Pattern}
    {captures : List Capture} (filling : Filling tokens next patterns captures) :
    captures.length = patterns.length := by
  induction filling with
  | done => rfl
  | take _ _ _ _ ih => simp only [List.length_cons, ih]

/-- One more pattern in front goes with one more capture. -/
theorem Filling.paired {tokens : List Token} {next : Nat} {others : List Pattern}
    {later : List Capture} (filling : Filling tokens next others later) (first : Pattern) :
    later.length + 1 = (first :: others).length := by
  rw [List.length_cons, filling.length_eq]

private theorem filling_of_firstReadings (tokens : List Token) (next : Nat)
    (patterns : List Pattern) (captures : List Capture)
    (found : firstReadings patterns (tokens.drop next) = some captures) :
    Filling tokens next patterns captures := by
  induction patterns generalizing next captures with
  | nil =>
    cases found
    exact .done
  | cons pattern others ih =>
    simp only [firstReadings] at found
    split at found
    next => simp at found
    next fit fitFound =>
      obtain ⟨later, laterFound, rfl⟩ := Option.map_eq_some_iff.mp found
      obtain ⟨⟨token, present, read⟩, restEq, passed⟩ :=
        (pattern.firstReading_eq_some_iff (tokens.drop next) fit).mp fitFound
      rw [List.getElem?_drop] at present
      rw [restEq, List.drop_drop] at laterFound
      refine .take present read ?_ (ih _ later laterFound)
      -- The fit counts its tokens from `next`, the filling from the start of the sentence.
      intro position skipped lower upper here
      apply passed (position - next) skipped (by omega)
      rw [List.getElem?_drop, Nat.add_sub_cancel' lower]
      exact here

theorem firstReadings_eq_some_iff (tokens : List Token) (next : Nat) (patterns : List Pattern)
    (captures : List Capture) :
    firstReadings patterns (tokens.drop next) = some captures ↔
      Filling tokens next patterns captures := by
  constructor
  · exact filling_of_firstReadings tokens next patterns captures
  · intro filling
    induction filling with
    | done => rfl
    | @take next skipped value pattern others later token present read passed _ ih =>
      have first : pattern.FirstAt (tokens.drop next)
          ⟨skipped, value, tokens.drop (next + skipped + 1)⟩ := by
        refine ⟨⟨token, by rwa [List.getElem?_drop], read⟩, ?_, ?_⟩
        · rw [List.drop_drop, Nat.add_assoc]
        · intro position other before here
          rw [List.getElem?_drop] at here
          have within : position < skipped := before
          exact passed (next + position) other (by omega) (by omega) here
      have found := (pattern.firstReading_eq_some_iff _ _).mpr first
      simp only [firstReadings, found, ih, Option.map_some]

end SlotFilling
