import SlotFilling.Json.Decode

/-!
# The members of an object

A pattern is read from the members of an object in the order of the text. The reading fails at
the first member that is not what its name asks for. If there is none, the last member of each
name counts, and the category has to be there and must not be empty. So members of other names
make no difference, and only members of one name have an order among them.
-/
namespace SlotFilling.Json

variable {members others : List (Option String × Parsed)} {member : Option String × Parsed}

/-! ## What is asked of members -/

/-- Whether a member is what its name asks for: a text or null for the literal and the slot, a
text for the category, and anything in JSON for other names. -/
inductive Fits : Option String × Parsed → Prop
  | text {name : String} (value : String) :
      name ∈ ["text", "type", "variable"] → Fits (some name, .text value)
  | null {name : String} : name ∈ ["text", "variable"] → Fits (some name, .null)
  | other {name : String} {value : Parsed} :
      name ∉ ["text", "type", "variable"] → value.isWhole = true → Fits (some name, value)

/-- The fault of a value that stands where a text is wanted. -/
def notText (value : Parsed) : ReadFault :=
  match value.describe? with
  | some found => .wrongType found "a string"
  | none => .broken

/-- The fault of a member that does not fit. -/
def misfit (member : Option String × Parsed) : ReadFault :=
  if member.1 ∈ [some "text", some "type", some "variable"] then notText member.2 else .broken

theorem refuse_eq {α : Type} (value : Parsed) :
    value.refuse (α := α) "a string" = .error (notText value) := by
  unfold Parsed.refuse notText
  cases value.describe? <;> rfl

/-- The value of the last member of a name. -/
def lastValue? (name : String) (members : List (Option String × Parsed)) : Option Parsed :=
  (members.reverse.find? (·.1 == some name)).map (·.2)

/-- The text that a value holds; null holds none. -/
def textOf? : Parsed → Option String
  | .text value => some value
  | _ => none

theorem lastValue?_cons (name : String) (member : Option String × Parsed)
    (members : List (Option String × Parsed)) :
    lastValue? name (member :: members) =
      (lastValue? name members).or (if member.1 = some name then some member.2 else none) := by
  rw [lastValue?, lastValue?, List.reverse_cons, List.find?_append, Option.map_or]
  by_cases same : member.1 = some name <;> simp [same]

theorem lastValue?_eq_none_iff (name : String) :
    lastValue? name members = none ↔ ∀ member ∈ members, member.1 ≠ some name := by
  simp [lastValue?]

theorem mem_of_lastValue? {name : String} {value : Parsed}
    (last : lastValue? name members = some value) : (some name, value) ∈ members := by
  obtain ⟨⟨own, _⟩, found, rfl⟩ := Option.map_eq_some_iff.mp last
  have same := List.find?_some found
  rw [beq_iff_eq] at same
  rw [← same]
  exact List.mem_reverse.mp (List.mem_of_find?_eq_some found)

/-! ## One member -/

/-- A draft after some members that fit. -/
def PatternDraft.after (draft : PatternDraft) (members : List (Option String × Parsed)) :
    PatternDraft where
  literal := (lastValue? "text" members).elim draft.literal textOf?
  category := (lastValue? "type" members).elim draft.category textOf?
  slot := (lastValue? "variable" members).elim draft.slot textOf?

theorem after_of_unknown {name : String} (unknown : name ∉ ["text", "type", "variable"])
    (value : Parsed) (draft : PatternDraft) : draft.after [(some name, value)] = draft := by
  simp only [List.mem_cons, List.not_mem_nil, or_false, not_or] at unknown
  simp [PatternDraft.after, lastValue?, unknown]

theorem withMember_of_fits (fits : Fits member) (draft : PatternDraft) :
    draft.withMember member = .ok (draft.after [member]) := by
  cases fits with
  | text value known =>
    simp only [List.mem_cons, List.not_mem_nil, or_false] at known
    rcases known with rfl | rfl | rfl <;> rfl
  | null known =>
    simp only [List.mem_cons, List.not_mem_nil, or_false] at known
    rcases known with rfl | rfl <;> rfl
  | @other name value unknown whole =>
    rw [after_of_unknown unknown]
    simp only [List.mem_cons, List.not_mem_nil, or_false, not_or] at unknown
    obtain ⟨notLiteral, notCategory, notSlot⟩ := unknown
    unfold PatternDraft.withMember
    split
    next missing => cases missing
    next known => exact absurd (Option.some.inj known) notLiteral
    next known => exact absurd (Option.some.inj known) notCategory
    next known => exact absurd (Option.some.inj known) notSlot
    next =>
      rw [Parsed.passOver, if_pos whole]
      rfl

theorem withMember_of_misfit (bad : ¬ Fits member) (draft : PatternDraft) :
    draft.withMember member = .error (misfit member) := by
  obtain ⟨name, value⟩ := member
  cases name with
  | none => rfl
  | some name =>
    by_cases known : name ∈ ["text", "type", "variable"]
    · have fault : misfit (some name, value) = notText value := if_pos (by simpa using known)
      rw [fault]
      simp only [List.mem_cons, List.not_mem_nil, or_false] at known
      -- A value that is no text is refused, and null counts only where nothing need be said.
      cases value with
      | text value => exact absurd (.text value (by simpa using known)) bad
      | null =>
        rcases known with rfl | rfl | rfl
        · exact absurd (.null (by simp)) bad
        · rfl
        · exact absurd (.null (by simp)) bad
      | _ =>
        rcases known with rfl | rfl | rfl <;>
          simp only [PatternDraft.withMember, Parsed.asOptionalText, Parsed.asText, refuse_eq] <;>
          rfl
    · have broken : value.isWhole = false := by
        rw [← Bool.not_eq_true]
        exact fun whole => bad (.other known whole)
      have fault : misfit (some name, value) = .broken := if_neg (by simpa using known)
      simp only [List.mem_cons, List.not_mem_nil, or_false, not_or] at known
      rw [fault]
      unfold PatternDraft.withMember
      split
      next missing => cases missing
      next same => exact absurd (Option.some.inj same) known.1
      next same => exact absurd (Option.some.inj same) known.2.1
      next same => exact absurd (Option.some.inj same) known.2.2
      next =>
        simp only [Parsed.passOver, broken]
        rfl

/-! ## All members -/

theorem after_after (draft : PatternDraft) (member : Option String × Parsed)
    (members : List (Option String × Parsed)) :
    (draft.after [member]).after members = draft.after (member :: members) := by
  -- For each name, a later member hides the one before.
  have later (name : String) (given : Option String) :
      (lastValue? name members).elim ((lastValue? name [member]).elim given textOf?) textOf? =
        (lastValue? name (member :: members)).elim given textOf? := by
    rw [lastValue?_cons name member members, lastValue?_cons name member []]
    cases lastValue? name members <;> rfl
  simp only [PatternDraft.after, later]

theorem foldlM_of_fits (fit : ∀ member ∈ members, Fits member) (draft : PatternDraft) :
    members.foldlM PatternDraft.withMember draft = .ok (draft.after members) := by
  induction members generalizing draft with
  | nil => rfl
  | cons member rest ih =>
    obtain ⟨here, later⟩ := List.forall_mem_cons.mp fit
    rw [List.foldlM_cons, withMember_of_fits here, ← after_after draft member rest]
    exact ih later (draft.after [member])

/-- The members up to the first one that does not fit. -/
theorem fits_or_misfit (members : List (Option String × Parsed)) :
    (∀ member ∈ members, Fits member) ∨
      ∃ front bad back, members = front ++ bad :: back ∧ (∀ member ∈ front, Fits member) ∧
        ¬ Fits bad := by
  induction members with
  | nil => exact .inl nofun
  | cons member rest ih =>
    by_cases here : Fits member
    · rcases ih with later | ⟨front, bad, back, rfl, fit, misfits⟩
      · exact .inl (List.forall_mem_cons.mpr ⟨here, later⟩)
      · exact .inr ⟨member :: front, bad, back, rfl, List.forall_mem_cons.mpr ⟨here, fit⟩, misfits⟩
    · exact .inr ⟨[], member, rest, rfl, nofun, here⟩

/-! ## Reading an object -/

/-- What an object with fitting members means. -/
structure Means (members : List (Option String × Parsed)) (pattern : Pattern) : Prop where
  fit : ∀ member ∈ members, Fits member
  category : lastValue? "type" members = some (.text pattern.category)
  named : pattern.category ≠ ""
  literal : pattern.literal = (lastValue? "text" members).bind textOf?
  slot : pattern.slot = (lastValue? "variable" members).bind textOf?

/-- The fault of an object: that of its first member that does not fit, and otherwise that it
has no category, or an empty one. -/
inductive Refused (members : List (Option String × Parsed)) : ReadFault → Prop
  | member {front back : List (Option String × Parsed)} {bad : Option String × Parsed} :
      members = front ++ bad :: back → (∀ member ∈ front, Fits member) → ¬ Fits bad →
      Refused members (misfit bad)
  | missing :
      (∀ member ∈ members, Fits member) → (∀ member ∈ members, member.1 ≠ some "type") →
      Refused members (.missingMember "type")
  | empty :
      (∀ member ∈ members, Fits member) → lastValue? "type" members = some (.text "") →
      Refused members .emptyCategory

theorem exists_text_of_type {value : Parsed} (fit : ∀ member ∈ members, Fits member)
    (last : lastValue? "type" members = some value) : ∃ category, value = .text category := by
  cases fit _ (mem_of_lastValue? last) with
  | text category _ => exact ⟨category, rfl⟩
  | null known => simp at known
  | other unknown _ => simp at unknown

theorem means_or_refused (members : List (Option String × Parsed)) :
    (∃ pattern, Means members pattern) ∨ ∃ fault, Refused members fault := by
  rcases fits_or_misfit members with fit | ⟨front, bad, back, cut, fit, misfits⟩
  · cases last : lastValue? "type" members with
    | none => exact .inr ⟨_, .missing fit ((lastValue?_eq_none_iff "type").mp last)⟩
    | some value =>
      obtain ⟨category, rfl⟩ := exists_text_of_type fit last
      by_cases empty : category = ""
      · exact .inr ⟨_, .empty fit (empty ▸ last)⟩
      · exact .inl ⟨⟨_, category, _⟩, fit, last, empty, rfl, rfl⟩
  · exact .inr ⟨_, .member cut fit misfits⟩

theorem asPattern_of_fits (fit : ∀ member ∈ members, Fits member) :
    (Parsed.object members).asPattern = (PatternDraft.after {} members).finish := by
  simp only [Parsed.asPattern, patternOfMembers, foldlM_of_fits fit]
  rfl

theorem asPattern_of_means {pattern : Pattern} (means : Means members pattern) :
    (Parsed.object members).asPattern = .ok pattern := by
  have optional (name : String) : (lastValue? name members).elim none textOf? =
      (lastValue? name members).bind textOf? := by
    cases lastValue? name members <;> rfl
  rw [asPattern_of_fits means.fit]
  simp only [PatternDraft.after, PatternDraft.finish, means.category, optional, ← means.literal,
    ← means.slot, Option.elim_some, textOf?, if_neg means.named]

theorem asPattern_of_refused {fault : ReadFault} (refused : Refused members fault) :
    (Parsed.object members).asPattern = .error fault := by
  cases refused with
  | @member front back bad cut fit misfits =>
    simp only [Parsed.asPattern, patternOfMembers, cut, List.foldlM_append, foldlM_of_fits fit,
      List.foldlM_cons, bind, Except.bind, withMember_of_misfit misfits]
  | missing fit none =>
    have last := (lastValue?_eq_none_iff "type").mpr none
    simp only [asPattern_of_fits fit, PatternDraft.after, PatternDraft.finish, last,
      Option.elim_none]
  | empty fit last =>
    simp only [asPattern_of_fits fit, PatternDraft.after, PatternDraft.finish, last,
      Option.elim_some, textOf?, if_true]

theorem asPattern_eq_ok_iff (pattern : Pattern) :
    (Parsed.object members).asPattern = .ok pattern ↔ Means members pattern := by
  refine ⟨fun read => ?_, asPattern_of_means⟩
  rcases means_or_refused members with ⟨meant, means⟩ | ⟨fault, refused⟩
  · rw [asPattern_of_means means] at read
    cases read
    exact means
  · rw [asPattern_of_refused refused] at read
    cases read

theorem asPattern_eq_error_iff (fault : ReadFault) :
    (Parsed.object members).asPattern = .error fault ↔ Refused members fault := by
  refine ⟨fun read => ?_, asPattern_of_refused⟩
  rcases means_or_refused members with ⟨pattern, means⟩ | ⟨found, refused⟩
  · rw [asPattern_of_means means] at read
    cases read
  · rw [asPattern_of_refused refused] at read
    cases read
    exact refused

/-! ## Other orders and more members -/

/-- The same members, where those of one name stand in the same order. -/
def Reordered (members others : List (Option String × Parsed)) : Prop :=
  ∀ name, others.filter (·.1 == name) = members.filter (·.1 == name)

namespace Reordered

theorem mem_iff (reordered : Reordered members others) : member ∈ others ↔ member ∈ members := by
  have own (listed : List (Option String × Parsed)) :
      member ∈ listed ↔ member ∈ listed.filter (·.1 == member.1) := by simp
  rw [own others, own members, reordered]

theorem lastValue?_eq (reordered : Reordered members others) (name : String) :
    lastValue? name others = lastValue? name members := by
  simp only [lastValue?, ← List.head?_filter, List.filter_reverse, reordered (some name)]

theorem means (reordered : Reordered members others) {pattern : Pattern}
    (means : Means members pattern) : Means others pattern where
  fit _ member := means.fit _ (reordered.mem_iff.mp member)
  category := by rw [reordered.lastValue?_eq, means.category]
  named := means.named
  literal := by rw [reordered.lastValue?_eq, means.literal]
  slot := by rw [reordered.lastValue?_eq, means.slot]

theorem symm (reordered : Reordered members others) : Reordered others members :=
  fun name => (reordered name).symm

theorem means_iff (reordered : Reordered members others) (pattern : Pattern) :
    Means others pattern ↔ Means members pattern :=
  ⟨reordered.symm.means, reordered.means⟩

/-- Another order can bring another misfit to the front, but nothing else changes the fault. -/
theorem refused (reordered : Reordered members others)
    (alike : ∀ first ∈ members, ∀ second ∈ members, ¬ Fits first → ¬ Fits second →
      misfit first = misfit second)
    {fault : ReadFault} (refused : Refused members fault) : Refused others fault := by
  cases refused with
  | @member _ _ bad cut _ misfits =>
    have isMember : bad ∈ members := by simp [cut]
    rcases fits_or_misfit others with fit | ⟨front, first, back, otherCut, fit, alsoMisfits⟩
    · exact absurd (fit bad (reordered.mem_iff.mpr isMember)) misfits
    · have firstMember : first ∈ members := reordered.mem_iff.mp (by simp [otherCut])
      rw [alike bad isMember first firstMember misfits alsoMisfits]
      exact .member otherCut fit alsoMisfits
  | missing fit none =>
    exact .missing (fun _ member => fit _ (reordered.mem_iff.mp member))
      (fun _ member => none _ (reordered.mem_iff.mp member))
  | empty fit last =>
    refine .empty (fun _ member => fit _ (reordered.mem_iff.mp member)) ?_
    rw [reordered.lastValue?_eq, last]

theorem asPattern_eq (reordered : Reordered members others)
    (alike : ∀ first ∈ members, ∀ second ∈ members, ¬ Fits first → ¬ Fits second →
      misfit first = misfit second) :
    (Parsed.object others).asPattern = (Parsed.object members).asPattern := by
  rcases means_or_refused members with ⟨pattern, means⟩ | ⟨fault, refused⟩
  · rw [asPattern_of_means means, asPattern_of_means (reordered.means means)]
  · rw [asPattern_of_refused refused, asPattern_of_refused (reordered.refused alike refused)]

end Reordered

/-- A member of another name leaves every draft as it is, wherever it stands. -/
theorem asPattern_insert (front back : List (Option String × Parsed)) {name : String}
    {value : Parsed} (unknown : name ∉ ["text", "type", "variable"])
    (whole : value.isWhole = true) :
    (Parsed.object (front ++ (some name, value) :: back)).asPattern =
      (Parsed.object (front ++ back)).asPattern := by
  have kept (draft : PatternDraft) : draft.withMember (some name, value) = .ok draft := by
    rw [withMember_of_fits (.other unknown whole), after_of_unknown unknown]
  simp only [Parsed.asPattern, patternOfMembers, List.foldlM_append, List.foldlM_cons, kept]
  rfl

/-- An object is read as a pattern exactly if every member is what its name asks for and the last
category is not empty; its last members give the pattern, in whatever order those of different
names stand and whatever other members stand among them. Otherwise the first member that does
not fit is the fault, and only if all fit that there is no category, or an empty one. -/
theorem asPattern_object (members : List (Option String × Parsed)) :
    ((∃ pattern, (Parsed.object members).asPattern = .ok pattern) ↔
      (∀ member ∈ members, Fits member) ∧
        ∃ category, lastValue? "type" members = some (.text category) ∧ category ≠ "") ∧
    (∀ pattern, (Parsed.object members).asPattern = .ok pattern ↔ Means members pattern) ∧
    (∀ fault, (Parsed.object members).asPattern = .error fault ↔ Refused members fault) ∧
    (∀ others, Reordered members others →
      (∀ pattern, (Parsed.object others).asPattern = .ok pattern ↔
        (Parsed.object members).asPattern = .ok pattern) ∧
      ((∀ first ∈ members, ∀ second ∈ members, ¬ Fits first → ¬ Fits second →
          misfit first = misfit second) →
        (Parsed.object others).asPattern = (Parsed.object members).asPattern)) ∧
    ∀ front back name value, members = front ++ back → name ∉ ["text", "type", "variable"] →
      value.isWhole = true →
      (Parsed.object (front ++ (some name, value) :: back)).asPattern =
        (Parsed.object members).asPattern := by
  refine ⟨?_, asPattern_eq_ok_iff, asPattern_eq_error_iff, ?_, ?_⟩
  · simp only [asPattern_eq_ok_iff]
    constructor
    · rintro ⟨pattern, means⟩
      exact ⟨means.fit, pattern.category, means.category, means.named⟩
    · rintro ⟨fit, category, last, named⟩
      exact ⟨⟨_, category, _⟩, fit, last, named, rfl, rfl⟩
  · intro others reordered
    refine ⟨fun pattern => ?_, reordered.asPattern_eq⟩
    rw [asPattern_eq_ok_iff, asPattern_eq_ok_iff, reordered.means_iff]
  · rintro front back name value rfl unknown whole
    exact asPattern_insert front back unknown whole

/-- Null takes an earlier literal back, and a later category counts. -/
def repeatedMembers : List (Option String × Parsed) :=
  [(some "text", .text "tea"), (some "type", .text ""), (some "text", .null),
    (some "note", .list []), (some "variable", .text "drink"), (some "type", .text "noun")]

def reorderedMembers : List (Option String × Parsed) :=
  [(some "type", .text ""), (some "type", .text "noun"), (some "note", .list []),
    (some "text", .text "tea"), (some "variable", .text "drink"), (some "text", .null)]

theorem asPattern_object_repeated :
    Means repeatedMembers ⟨none, "noun", some "drink"⟩ ∧
    Reordered repeatedMembers reorderedMembers ∧
    (Parsed.object reorderedMembers).asPattern = .ok ⟨none, "noun", some "drink"⟩ := by
  obtain ⟨-, means, -, reorder, -⟩ := asPattern_object repeatedMembers
  have read : (Parsed.object repeatedMembers).asPattern = .ok ⟨none, "noun", some "drink"⟩ := rfl
  have reordered : Reordered repeatedMembers reorderedMembers := by
    intro name
    by_cases literal : name = some "text"
    · subst literal
      rfl
    by_cases category : name = some "type"
    · subst category
      rfl
    by_cases slot : name = some "variable"
    · subst slot
      rfl
    -- Only one member is left.
    simp [repeatedMembers, reorderedMembers, List.filter_cons, Ne.symm literal, Ne.symm category,
      Ne.symm slot]
  exact ⟨(means _).mp read, reordered, ((reorder _ reordered).1 _).mpr read⟩

end SlotFilling.Json
