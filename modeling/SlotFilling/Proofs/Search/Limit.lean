import SlotFilling.Search
import Mathlib.Data.List.Basic

/-!
# Limits

A search without a limit has a course: the alignments that it finds in turn, and the
fault that stops it, if any. A limit only decides how far the course is followed. If
it is reached before the fault, that many alignments are returned and the fault stays
unseen; otherwise the search ends as it does without a limit.
-/
namespace SlotFilling

/-- The alignments found in turn, and the fault that comes after them. -/
structure Course where
  found : List RuleSet
  fault : Option Fault

/-- The course of a search from position `anchor` on, when no alignment may start
before position `free`. -/
def course (policy : MismatchPolicy) (overlap : OverlapPolicy) (first : Pattern)
    (others : List Pattern) : (anchor free : Nat) → List Token → Course
  | _, _, [] => ⟨[], none⟩
  | anchor, free, token :: rest =>
    match alignmentAt ⟨policy, overlap, none⟩ first others anchor free token rest with
    | .error fault => ⟨[], some fault⟩
    | .ok none => course policy overlap first others (anchor + 1) free rest
    | .ok (some captures) =>
      let later := course policy overlap first others (anchor + 1) (freeAfter overlap free captures)
        rest
      { later with found := populate (first :: others) captures :: later.found }

namespace Course

/-- How a course that is followed to its end ends. -/
def ending (course : Course) : Except Fault (List RuleSet) :=
  match course.fault with
  | some fault => .error fault
  | none => .ok course.found

/-- What is returned when no more than `limit` alignments are wanted. -/
def answer (course : Course) : (limit : Option Nat) → Except Fault (List RuleSet)
  | none => course.ending
  | some count =>
    if count ≤ course.found.length then .ok (course.found.take count) else course.ending

theorem answer_cons (result : RuleSet) (later : Course) (limit : Option Nat)
    (wanted : limit ≠ some 0) :
    answer { later with found := result :: later.found } limit =
      (later.answer (limit.map (· - 1))).map (result :: ·) := by
  have endingEq : ending { later with found := result :: later.found } =
      later.ending.map (result :: ·) := by
    unfold ending
    cases later.fault <;> rfl
  -- One result more in front, one wanted less: both sides of the test move by one.
  cases limit with
  | none => exact endingEq
  | some count =>
    cases count with
    | zero => exact absurd rfl wanted
    | succ count =>
      simp only [answer, Option.map_some, Nat.add_sub_cancel, List.length_cons,
        Nat.add_le_add_iff_right, List.take_succ_cons]
      by_cases reached : count ≤ later.found.length
      · rw [if_pos reached, if_pos reached]
        rfl
      · rw [if_neg reached, if_neg reached]
        exact endingEq

variable {course : Course} {results few many : List RuleSet} {fault : Fault}
  {count fewer more : Nat}

theorem answer_of_ok (returned : course.answer none = .ok results) (count : Nat) :
    course.answer (some count) = .ok (results.take count) := by
  simp only [answer, ending] at returned ⊢
  cases stopped : course.fault with
  | some fault =>
    rw [stopped] at returned
    cases returned
  | none =>
    rw [stopped] at returned
    cases returned
    by_cases reached : count ≤ course.found.length
    · rw [if_pos reached]
    · rw [if_neg reached, List.take_of_length_le (Nat.le_of_not_le reached)]

theorem answer_of_error (failed : course.answer none = .error fault) (count : Nat) :
    course.answer (some count) = .error fault ∨
      ∃ results, course.answer (some count) = .ok results ∧ results.length = count := by
  by_cases reached : count ≤ course.found.length
  · exact .inr ⟨_, if_pos reached, List.length_take_of_le reached⟩
  · exact .inl ((if_neg reached).trans failed)

theorem answer_error_mono (ordered : fewer ≤ more)
    (failed : course.answer (some fewer) = .error fault) :
    course.answer (some more) = .error fault := by
  simp only [answer] at failed ⊢
  by_cases reached : fewer ≤ course.found.length
  · rw [if_pos reached] at failed
    cases failed
  · rw [if_neg reached] at failed
    have missed : ¬ more ≤ course.found.length :=
      fun enough => reached (Nat.le_trans ordered enough)
    rw [if_neg missed]
    exact failed

theorem eq_take_of_answer (returned : course.answer (some count) = .ok results) :
    results = course.found.take count := by
  simp only [answer, ending] at returned
  by_cases reached : count ≤ course.found.length
  · rw [if_pos reached] at returned
    exact (Except.ok.inj returned).symm
  · rw [if_neg reached] at returned
    rw [List.take_of_length_le (Nat.le_of_not_le reached)]
    cases stopped : course.fault with
    | some fault =>
      rw [stopped] at returned
      cases returned
    | none =>
      rw [stopped] at returned
      exact (Except.ok.inj returned).symm

theorem answer_prefix (ordered : fewer ≤ more) (short : course.answer (some fewer) = .ok few)
    (long : course.answer (some more) = .ok many) : few <+: many := by
  rw [eq_take_of_answer short, eq_take_of_answer long]
  exact List.take_prefix_take_left ordered

end Course

/-- A search follows its course as far as the limit says. -/
theorem searchFrom_eq_answer (policy : MismatchPolicy) (overlap : OverlapPolicy)
    (most : Option Nat) (first : Pattern) (others : List Pattern) (tokens : List Token)
    (anchor free : Nat) (limit : Option Nat) :
    searchFrom ⟨policy, overlap, most⟩ first others anchor free limit tokens =
      (course policy overlap first others anchor free tokens).answer limit := by
  induction tokens generalizing anchor free limit with
  | nil => cases limit <;> simp [searchFrom, course, Course.answer, Course.ending]
  | cons token rest ih =>
    unfold searchFrom
    by_cases exhausted : limit = some 0
    · subst exhausted
      simp [Course.answer]
    · rw [if_neg exhausted]
      unfold course
      -- Which tokens are read at an anchor does not depend on the limit.
      have same : alignmentAt ⟨policy, overlap, most⟩ first others anchor free token rest =
          alignmentAt ⟨policy, overlap, none⟩ first others anchor free token rest := rfl
      rw [same]
      cases alignmentAt ⟨policy, overlap, none⟩ first others anchor free token rest with
      | error fault =>
        cases limit with
        | none => rfl
        | some count =>
          have positive : ¬ count ≤ 0 := by simpa using exhausted
          exact (if_neg positive).symm
      | ok tried =>
        cases tried with
        | none => exact ih (anchor + 1) free limit
        | some captures =>
          have continued := ih (anchor + 1) (freeAfter overlap free captures) (limit.map (· - 1))
          simp only [bind, Except.bind, continued, Course.answer_cons _ _ limit exhausted]
          rfl

/-- Whatever the limit is, a search of the same rules over the same tokens follows one
course. -/
theorem exists_course (policy : MismatchPolicy) (overlap : OverlapPolicy) (tokens : List Token)
    (rules : RuleSet) (nonempty : rules ≠ []) :
    ∃ course : Course, ∀ limit,
      search ⟨policy, overlap, limit⟩ tokens rules = course.answer limit := by
  cases rules with
  | nil => exact absurd rfl nonempty
  | cons first others =>
    refine ⟨course policy overlap first.pattern (RuleSet.patterns others) 0 0 tokens, ?_⟩
    intro limit
    exact searchFrom_eq_answer policy overlap limit first.pattern (RuleSet.patterns others) tokens
      0 0 limit

/-- A limit cuts the results of an unlimited search short. On a search that fails it
decides whether the fault is met at all, and no larger limit avoids a fault that a
smaller one meets. -/
theorem search_limit (policy : MismatchPolicy) (overlap : OverlapPolicy) (tokens : List Token)
    (rules : RuleSet) :
    (∀ results, search ⟨policy, overlap, none⟩ tokens rules = .ok results →
      ∀ count, search ⟨policy, overlap, some count⟩ tokens rules = .ok (results.take count)) ∧
    (∀ fault, search ⟨policy, overlap, none⟩ tokens rules = .error fault →
      ∀ count, search ⟨policy, overlap, some count⟩ tokens rules = .error fault ∨
        ∃ results, search ⟨policy, overlap, some count⟩ tokens rules = .ok results ∧
          results.length = count) ∧
    (∀ fewer more fault, fewer ≤ more →
      search ⟨policy, overlap, some fewer⟩ tokens rules = .error fault →
      search ⟨policy, overlap, some more⟩ tokens rules = .error fault) ∧
    (∀ fewer more few many, fewer ≤ more →
      search ⟨policy, overlap, some fewer⟩ tokens rules = .ok few →
      search ⟨policy, overlap, some more⟩ tokens rules = .ok many → few <+: many) := by
  by_cases empty : rules = []
  · subst empty
    have failed : ∀ limit, search ⟨policy, overlap, limit⟩ tokens [] = .error .emptyCollection :=
      fun _ => rfl
    simp [failed]
  · obtain ⟨course, answers⟩ := exists_course policy overlap tokens rules empty
    simp only [answers]
    refine ⟨?_, ?_, ?_, ?_⟩
    · intro results returned count
      exact Course.answer_of_ok returned count
    · intro fault failed count
      exact Course.answer_of_error failed count
    · intro fewer more fault ordered failed
      exact Course.answer_error_mono ordered failed
    · intro fewer more few many ordered short long
      exact Course.answer_prefix ordered short long

end SlotFilling
