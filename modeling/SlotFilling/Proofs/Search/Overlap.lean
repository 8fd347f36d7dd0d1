import SlotFilling.Proofs.Search.Runs

/-!
# Suppressed overlap

Suppressing overlap filters the alignments of the search that keeps them: in order,
one stays exactly if it starts after the end of the one that stayed before it. A
suppressing search tries fewer alignments, so it returns wherever the other one does.
-/
namespace SlotFilling

/-! ## The filter -/

theorem withoutOverlap_after (results : List RuleSet) (kept : Option RuleSet)
    (spans : ∀ result ∈ results, result.anchor ≤ result.last) :
    ∀ result ∈ withoutOverlap kept results, ∀ previous ∈ kept, previous.last < result.anchor := by
  induction results generalizing kept with
  | nil => simp [withoutOverlap]
  | cons front later ih =>
    have laterSpans : ∀ result ∈ later, result.anchor ≤ result.last :=
      fun result member => spans result (List.mem_cons_of_mem front member)
    intro result member previous isPrevious
    simp only [withoutOverlap] at member
    split at member
    next stays =>
      have ahead := stays previous isPrevious
      rcases List.mem_cons.mp member with rfl | member
      · exact ahead
      · -- The alignment just kept stands between the previous one and every later one.
        have beyond := ih (some front) laterSpans result member front rfl
        have span := spans front List.mem_cons_self
        omega
    next => exact ih kept laterSpans result member previous isPrevious

theorem withoutOverlap_disjoint (results : List RuleSet) (kept : Option RuleSet)
    (spans : ∀ result ∈ results, result.anchor ≤ result.last) :
    (withoutOverlap kept results).Pairwise (fun earlier later => earlier.last < later.anchor) := by
  induction results generalizing kept with
  | nil => exact .nil
  | cons front later ih =>
    have laterSpans : ∀ result ∈ later, result.anchor ≤ result.last :=
      fun result member => spans result (List.mem_cons_of_mem front member)
    simp only [withoutOverlap]
    split
    · refine (ih (some front) laterSpans).cons ?_
      intro result member
      exact withoutOverlap_after later (some front) laterSpans result member front rfl
    · exact ih kept laterSpans

/-- An alignment that the filter leaves out starts inside one that it keeps, or inside
the one kept before. -/
theorem withoutOverlap_covers (results : List RuleSet) (kept : Option RuleSet)
    (increasing : results.Pairwise (fun earlier later => earlier.anchor < later.anchor))
    (behind : ∀ previous ∈ kept, ∀ result ∈ results, previous.anchor ≤ result.anchor)
    (result : RuleSet) (member : result ∈ results)
    (dropped : result ∉ withoutOverlap kept results) :
    ∃ covering, (covering ∈ kept ∨ covering ∈ withoutOverlap kept results) ∧
      covering.anchor ≤ result.anchor ∧ result.anchor ≤ covering.last := by
  induction results generalizing kept with
  | nil => simp at member
  | cons front later ih =>
    obtain ⟨frontFirst, laterIncreasing⟩ := List.pairwise_cons.mp increasing
    simp only [withoutOverlap] at dropped ⊢
    split at dropped
    next stays =>
      rw [if_pos stays]
      simp only [List.mem_cons, not_or] at dropped
      have isLater : result ∈ later := (List.mem_cons.mp member).resolve_left dropped.1
      have frontBehind :
          ∀ previous ∈ some front, ∀ other ∈ later, previous.anchor ≤ other.anchor := by
        intro previous isFront other isOther
        rw [← Option.mem_some_iff.mp isFront]
        exact Nat.le_of_lt (frontFirst other isOther)
      obtain ⟨covering, isFront | isKept, covers⟩ :=
        ih (some front) laterIncreasing frontBehind isLater dropped.2
      · rw [← Option.mem_some_iff.mp isFront] at covers
        exact ⟨front, .inr List.mem_cons_self, covers⟩
      · exact ⟨covering, .inr (List.mem_cons_of_mem front isKept), covers⟩
    next covered =>
      rw [if_neg covered]
      rcases List.mem_cons.mp member with rfl | isLater
      · simp only [Classical.not_forall, Nat.not_lt] at covered
        obtain ⟨previous, isPrevious, within⟩ := covered
        have started := behind previous isPrevious result List.mem_cons_self
        exact ⟨previous, .inl isPrevious, started, within⟩
      · have stillBehind :
            ∀ previous ∈ kept, ∀ other ∈ later, previous.anchor ≤ other.anchor := by
          intro previous isPrevious other isOther
          exact behind previous isPrevious other (List.mem_cons_of_mem front isOther)
        exact ih kept laterIncreasing stillBehind isLater dropped

/-! ## The runs -/

theorem ok_of_bind {α β : Type} {run : Except Fault α} {next : α → Except Fault β} {result : β}
    (returned : run >>= next = .ok result) :
    ∃ value, run = .ok value ∧ next value = .ok result := by
  cases run with
  | error fault => cases returned
  | ok value => exact ⟨value, rfl, returned⟩

/-- An anchor that is free can be tried wherever all anchors can. -/
theorem alignmentAt_returns {options : SearchOptions} {first : Pattern}
    {others : List Pattern} {anchor : Nat} {token : Token} {rest : List Token}
    {tried : Option (List Capture)} (other : SearchOptions)
    (policy : options.onMismatch = other.onMismatch) (free : Nat)
    (returned : alignmentAt options first others anchor 0 token rest = .ok tried) :
    ∃ found, alignmentAt other first others anchor free token rest = .ok found := by
  unfold alignmentAt at returned ⊢
  obtain ⟨read, attempted, continued⟩ := ok_of_bind returned
  rw [← policy, attempted]
  cases read with
  | none => exact ⟨none, rfl⟩
  | some value =>
    by_cases covered : anchor < free
    · exact ⟨none, by simp only [bind, Except.bind, if_pos covered]; rfl⟩
    · simp only [Nat.not_lt_zero, if_false] at continued
      obtain ⟨later, filled, _⟩ := ok_of_bind continued
      exact ⟨later.map (⟨anchor, value⟩ :: ·), by
        simp only [bind, Except.bind, if_neg covered, filled]; rfl⟩

/-- Where the search that tries every anchor returns, so does one that passes over some
of them or stops early. -/
theorem searchFrom_returns (policy : MismatchPolicy) (overlap : OverlapPolicy) (most : Option Nat)
    (first : Pattern) (others : List Pattern) (tokens : List Token) (anchor free : Nat)
    (limit : Option Nat) (results : List RuleSet)
    (returned : searchFrom ⟨policy, .keep, none⟩ first others anchor 0 none tokens = .ok results) :
    ∃ found, searchFrom ⟨policy, overlap, most⟩ first others anchor free limit tokens =
      .ok found := by
  induction tokens generalizing anchor free limit results with
  | nil => exact ⟨[], rfl⟩
  | cons token rest ih =>
    unfold searchFrom at returned ⊢
    rw [if_neg (by simp)] at returned
    obtain ⟨tried, aligned, continued⟩ := ok_of_bind returned
    have onward : ∃ later, searchFrom ⟨policy, .keep, none⟩ first others (anchor + 1) 0 none rest =
        .ok later := by
      cases tried with
      | none => exact ⟨results, continued⟩
      | some captures =>
        obtain ⟨later, searched, _⟩ := ok_of_bind continued
        exact ⟨later, searched⟩
    obtain ⟨later, searched⟩ := onward
    by_cases exhausted : limit = some 0
    · exact ⟨[], if_pos exhausted⟩
    · rw [if_neg exhausted]
      obtain ⟨found, alignedHere⟩ :=
        alignmentAt_returns ⟨policy, overlap, most⟩ rfl free aligned
      rw [alignedHere]
      cases found with
      | none => exact ih (anchor + 1) free limit later searched
      | some captures =>
        obtain ⟨following, returnedLater⟩ := ih (anchor + 1) (freeAfter overlap free captures)
          (limit.map (· - 1)) later searched
        exact ⟨populate (first :: others) captures :: following, by
          simp only [bind, Except.bind, returnedLater]; rfl⟩

theorem search_returns (policy : MismatchPolicy) (overlap : OverlapPolicy) (limit : Option Nat)
    (tokens : List Token) (rules : RuleSet) (results : List RuleSet)
    (returned : search ⟨policy, .keep, none⟩ tokens rules = .ok results) :
    ∃ found, search ⟨policy, overlap, limit⟩ tokens rules = .ok found := by
  unfold search at returned ⊢
  generalize rules.patterns = patterns at returned ⊢
  cases patterns with
  | nil => cases returned
  | cons first others =>
    exact searchFrom_returns policy overlap limit first others tokens 0 0 limit results returned

/-- Suppressing overlap keeps exactly the alignments that start after the end of the one
kept before. The spans of those kept are disjoint and in order, and every other
alignment starts inside one of them. -/
theorem search_suppress (policy : MismatchPolicy) (tokens : List Token) (rules : RuleSet)
    (results : List RuleSet)
    (returned : search ⟨policy, .keep, none⟩ tokens rules = .ok results) :
    search ⟨policy, .suppress, none⟩ tokens rules = .ok (withoutOverlap none results) ∧
      (withoutOverlap none results).Sublist results ∧
      (∀ result ∈ results, result.anchor ≤ result.last) ∧
      (withoutOverlap none results).Pairwise (fun earlier later => earlier.last < later.anchor) ∧
      ∀ result ∈ results, result ∉ withoutOverlap none results →
        ∃ covering ∈ withoutOverlap none results,
          covering.anchor ≤ result.anchor ∧ result.anchor ≤ covering.last := by
  obtain ⟨nonempty, resultsEq⟩ := eq_selected_of_search returned
  replace resultsEq : results = alignments rules.patterns tokens := resultsEq
  have spans : ∀ result ∈ results, result.anchor ≤ result.last := by
    intro result member
    obtain ⟨anchor, anchored⟩ := (mem_alignments_iff _ _ _).mp (resultsEq ▸ member)
    exact anchored.anchor_le_last
  have increasing : results.Pairwise (fun earlier later => earlier.anchor < later.anchor) :=
    resultsEq ▸ alignments_increasing rules.patterns tokens
  refine ⟨?_, withoutOverlap_sublist none results, spans,
    withoutOverlap_disjoint results none spans, ?_⟩
  · obtain ⟨kept, suppressed⟩ := search_returns policy .suppress none tokens rules results returned
    obtain ⟨_, keptEq⟩ := eq_selected_of_search suppressed
    rw [suppressed, keptEq, resultsEq]
    rfl
  · intro result member dropped
    obtain ⟨covering, before | isKept, covers⟩ :=
      withoutOverlap_covers results none increasing (by simp) result member dropped
    · simp at before
    · exact ⟨covering, isKept, covers⟩

theorem search_suppress_reminders :
    ∃ results, search ⟨.skipToken, .keep, none⟩ reminders reminderRules = .ok results ∧
      results.map RuleSet.positions = [[0, 3], [2, 3], [4, 5]] ∧
      search ⟨.skipToken, .suppress, none⟩ reminders reminderRules =
        .ok (withoutOverlap none results) ∧
      (withoutOverlap none results).map RuleSet.positions = [[0, 3], [4, 5]] := by
  have found : (search ⟨.skipToken, .keep, none⟩ reminders reminderRules).map
      (·.map RuleSet.positions) = .ok [[0, 3], [2, 3], [4, 5]] := by decide +kernel
  have kept : (search ⟨.skipToken, .suppress, none⟩ reminders reminderRules).map
      (·.map RuleSet.positions) = .ok [[0, 3], [4, 5]] := by decide +kernel
  cases returned : search ⟨.skipToken, .keep, none⟩ reminders reminderRules with
  | error fault =>
    rw [returned] at found
    cases found
  | ok results =>
    rw [returned] at found
    obtain ⟨suppressed, _⟩ := search_suppress .skipToken reminders reminderRules results returned
    rw [suppressed] at kept
    exact ⟨results, rfl, Except.ok.inj found, suppressed, Except.ok.inj kept⟩

end SlotFilling
