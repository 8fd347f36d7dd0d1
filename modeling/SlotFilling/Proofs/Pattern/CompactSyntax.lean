import Mathlib.Data.List.Basic
import Mathlib.Data.List.Forall2
import SlotFilling.Proofs.Text.Marks
import SlotFilling.Rule

/-!
# The grammar of the compact rule syntax

A rule is spelled as a literal, the category between square brackets, and possibly an arrow
and the slot. No part may hold a bracket of its own, so the two brackets of a spelling are
the only ones, and they cut a text into parts in one way at most. The reader accepts the
spellings and nothing else. Every pattern is displayed in the same form, whether or not its
parts can be spelled, and what is read back from the display is the pattern itself or
nothing at all.
-/
namespace SlotFilling

/-! ## Parts of a spelling -/

/-- A letter of ASCII or an underscore, followed by letters, digits and underscores. -/
def IsIdentifier (name : String) : Prop :=
  ∃ first rest, name.toList = first :: rest ∧ (first.isAlpha = true ∨ first = '_') ∧
    ∀ character ∈ rest, character.isAlphanum = true ∨ character = '_'

/-- Parts that the compact syntax can hold. An empty literal stands for none. -/
structure Spellable (literal category : String) (slot : Option String) : Prop where
  unbracketed : ∀ character ∈ literal.toList, character ≠ '[' ∧ character ≠ ']'
  unpadded : Text.Unpadded literal.toList
  category_name : IsIdentifier category
  slot_name : ∀ name ∈ slot, IsIdentifier name

/-- What follows the category: an arrow and the slot, or nothing. -/
def arrow : Option String → String
  | none => ""
  | some slot => "->" ++ slot

/-- The text `literal[category]->slot`. -/
def spelled (literal category : String) (slot : Option String) : String :=
  literal ++ "[" ++ category ++ "]" ++ arrow slot

/-- The pattern that is spelled by these parts. -/
def Pattern.ofParts (literal category : String) (slot : Option String) : Pattern :=
  ⟨if literal = "" then none else some literal, category, slot⟩

theorem toList_spelled (literal category : String) (slot : Option String) :
    (spelled literal category slot).toList =
      literal.toList ++ '[' :: (category.toList ++ ']' :: (arrow slot).toList) := by
  have opening : "[".toList = ['['] := rfl
  have closing : "]".toList = [']'] := rfl
  simp only [spelled, String.toList_append, opening, closing, List.append_assoc, List.cons_append,
    List.nil_append]

theorem toList_arrow (slot : String) : (arrow (some slot)).toList = '-' :: '>' :: slot.toList := by
  rw [arrow, String.toList_append]
  rfl

theorem arrow_inj {left right : Option String} (same : arrow left = arrow right) :
    left = right := by
  rw [← String.toList_inj] at same
  cases left with
  | none =>
    cases right with
    | none => rfl
    | some slot => simp [arrow] at same
  | some slot =>
    cases right with
    | none => simp [arrow] at same
    | some other =>
      rw [toList_arrow, toList_arrow, List.cons.injEq, List.cons.injEq, String.toList_inj] at same
      rw [same.2.2]

theorem isName_iff (name : String) : isName name.toList = true ↔ IsIdentifier name := by
  unfold isName IsIdentifier
  cases name.toList with
  | nil => simp
  | cons first rest =>
    simp only [isNameStart, isNamePart, Bool.and_eq_true, Bool.or_eq_true, beq_iff_eq,
      List.all_eq_true, List.cons.injEq]
    constructor
    · rintro ⟨start, parts⟩
      exact ⟨first, rest, ⟨rfl, rfl⟩, start, parts⟩
    · rintro ⟨_, _, ⟨rfl, rfl⟩, start, parts⟩
      exact ⟨start, parts⟩

theorem isLiteral_iff (text : List Char) :
    isLiteral text = true ↔
      (∀ character ∈ text, character ≠ '[' ∧ character ≠ ']') ∧ Text.Unpadded text := by
  have clear : ∀ edge : Option Char,
      (!edge.any Text.isBlank) = true ↔ ∀ character ∈ edge, Text.isBlank character = false := by
    intro edge
    cases edge <;> simp
  simp only [isLiteral, isBracket, Text.Unpadded, Bool.and_eq_true, List.all_eq_true, clear,
    Bool.not_eq_true', Bool.or_eq_false_iff, beq_eq_false_iff_ne, and_assoc]

namespace IsIdentifier

variable {name : String}

theorem isNamePart_of_mem (identifier : IsIdentifier name) :
    ∀ character ∈ name.toList, isNamePart character = true := by
  obtain ⟨first, rest, same, start, parts⟩ := identifier
  rw [same]
  intro character member
  simp only [isNamePart, Bool.or_eq_true, beq_iff_eq]
  rcases List.mem_cons.mp member with rfl | later
  · exact start.imp_left (fun letter => by simp [Char.isAlphanum, letter])
  · exact parts character later

theorem not_mem (identifier : IsIdentifier name) {bracket : Char}
    (other : isNamePart bracket = false) : bracket ∉ name.toList :=
  fun member => by simp [identifier.isNamePart_of_mem bracket member] at other

end IsIdentifier

namespace Spellable

variable {literal category : String} {slot : Option String}

theorem not_mem_literal (spellable : Spellable literal category slot) :
    '[' ∉ literal.toList ∧ ']' ∉ literal.toList :=
  ⟨fun opening => (spellable.unbracketed _ opening).1 rfl,
    fun closing => (spellable.unbracketed _ closing).2 rfl⟩

theorem not_mem_arrow (spellable : Spellable literal category slot) {bracket : Char}
    (isBracket : bracket = '[' ∨ bracket = ']') : bracket ∉ (arrow slot).toList := by
  cases slot with
  | none => simp [arrow]
  | some name =>
    have inName : bracket ∉ name.toList := by
      apply (spellable.slot_name name rfl).not_mem
      rcases isBracket with rfl | rfl <;> rfl
    rw [toList_arrow]
    rcases isBracket with rfl | rfl <;> simp [inName]

/-- A spelling is cut into parts in one way only, even if the other parts are arbitrary. -/
theorem parts_eq (spellable : Spellable literal category slot) {before between : String}
    {after : Option String} (same : spelled literal category slot = spelled before between after) :
    literal = before ∧ category = between ∧ slot = after := by
  rw [← String.toList_inj, toList_spelled, toList_spelled] at same
  -- The spelling has one opening bracket, at the end of the literal, and one closing bracket,
  -- at the end of the category. So the brackets of the other cut are the same ones.
  have openings : '[' ∉ category.toList ++ ']' :: (arrow slot).toList := by
    have inCategory : '[' ∉ category.toList := spellable.category_name.not_mem rfl
    simp [inCategory, spellable.not_mem_arrow (.inl rfl)]
  have closings : ']' ∉ category.toList := spellable.category_name.not_mem rfl
  obtain ⟨literals, _, rest⟩ :=
    (List.append_cons_inj_of_notMem spellable.not_mem_literal.1 openings).mp same
  obtain ⟨categories, _, arrows⟩ :=
    (List.append_cons_inj_of_notMem closings (spellable.not_mem_arrow (.inr rfl))).mp rest
  exact ⟨String.toList_inj.mp literals, String.toList_inj.mp categories,
    arrow_inj (String.toList_inj.mp arrows)⟩

end Spellable

/-! ## Reading -/

theorem readSlot?_eq_some_iff (tail : List Char) (slot : Option String) :
    readSlot? tail = some slot ↔
      tail = (arrow slot).toList ∧ ∀ name ∈ slot, IsIdentifier name := by
  constructor
  · intro read
    unfold readSlot? at read
    split at read
    next =>
      cases read
      exact ⟨rfl, nofun⟩
    next name =>
      split at read
      next named =>
        cases read
        refine ⟨by rw [toList_arrow, String.toList_ofList], ?_⟩
        intro _ here
        cases here
        rwa [← isName_iff, String.toList_ofList]
      next => cases read
    next => cases read
  · rintro ⟨rfl, named⟩
    cases slot with
    | none => rfl
    | some name =>
      rw [toList_arrow, readSlot?, if_pos ((isName_iff name).mpr (named name rfl)),
        String.ofList_toList]

namespace Pattern

variable {literal category : String} {slot : Option String} {pattern : Pattern}

theorem ofChars?_spelled (spellable : Spellable literal category slot) :
    ofChars? (spelled literal category slot).toList = some (.ofParts literal category slot) := by
  -- No part goes on with the bracket that follows it, so the reader cuts where the parts meet.
  have unopened := spellable.not_mem_literal.1
  have categoryEnds := spellable.category_name.isNamePart_of_mem
  have closing : isNamePart ']' = false := rfl
  have isLiteral := (isLiteral_iff literal.toList).mpr ⟨spellable.unbracketed, spellable.unpadded⟩
  have isCategory := (isName_iff category).mpr spellable.category_name
  have isSlot := (readSlot?_eq_some_iff _ slot).mpr ⟨rfl, spellable.slot_name⟩
  rw [toList_spelled, ofChars?, Text.takeWhile_append_mark unopened,
    Text.dropWhile_append_mark unopened]
  simp only [Bool.false_eq_true, not_false_eq_true,
    List.takeWhile_cons_of_neg, List.dropWhile_cons_of_neg, List.append_nil, closing,
    List.takeWhile_append_of_pos categoryEnds, List.dropWhile_append_of_pos categoryEnds,
    isLiteral, isCategory, isSlot, Bool.and_self, if_true, Option.map_some, ofParts,
    String.toList_eq_nil_iff, String.ofList_toList]

theorem spelled_of_ofChars? {text : List Char} (read : ofChars? text = some pattern) :
    ∃ literal category slot, Spellable literal category slot ∧
      text = (spelled literal category slot).toList ∧ pattern = .ofParts literal category slot := by
  -- Both cuts of the reader are undone to put the spelling together again.
  unfold ofChars? at read
  simp only at read
  split at read
  next => cases read
  next opening rest bracketed =>
    have atBracket := Text.eq_append_of_dropWhile bracketed
    generalize text.takeWhile (· ≠ '[') = literal at *
    have atClosing := List.takeWhile_append_dropWhile (p := isNamePart) (l := rest)
    split at read
    next tail closed =>
      split at read
      next checked =>
        obtain ⟨slot, isSlot, rfl⟩ := Option.map_eq_some_iff.mp read
        rw [Bool.and_eq_true, isLiteral_iff] at checked
        obtain ⟨⟨unbracketed, unpadded⟩, isCategory⟩ := checked
        obtain ⟨rfl, named⟩ := (readSlot?_eq_some_iff tail slot).mp isSlot
        refine ⟨String.ofList literal, String.ofList (rest.takeWhile isNamePart), slot,
          ⟨?_, ?_, ?_, named⟩, ?_, ?_⟩
        · rwa [String.toList_ofList]
        · rwa [String.toList_ofList]
        · rwa [← isName_iff, String.toList_ofList]
        · rw [toList_spelled, String.toList_ofList, String.toList_ofList, ← closed, atClosing,
            atBracket]
        · simp only [ofParts, ← String.toList_eq_nil_iff, String.toList_ofList]
      next => cases read
    next => cases read

theorem ofChars?_eq_some_iff (text : String) (pattern : Pattern) :
    ofChars? text.toList = some pattern ↔
      ∃ literal category slot, Spellable literal category slot ∧
        text = spelled literal category slot ∧ pattern = .ofParts literal category slot := by
  constructor
  · intro read
    obtain ⟨literal, category, slot, spellable, same, parts⟩ := spelled_of_ofChars? read
    exact ⟨literal, category, slot, spellable, String.toList_inj.mp same, parts⟩
  · rintro ⟨literal, category, slot, spellable, rfl, rfl⟩
    exact ofChars?_spelled spellable

theorem parse_eq_ok_iff (text : String) (pattern : Pattern) :
    parse text = .ok pattern ↔
      ∃ literal category slot, Spellable literal category slot ∧
        text = spelled literal category slot ∧ pattern = .ofParts literal category slot := by
  rw [← ofChars?_eq_some_iff, parse]
  cases ofChars? text.toList <;> simp

theorem parse_eq_error_iff (text : String) (fault : Fault) :
    parse text = .error fault ↔
      fault = .malformedRule text ∧ ¬ ∃ pattern, parse text = .ok pattern := by
  unfold parse
  cases ofChars? text.toList <;> simp [eq_comm]

end Pattern

/-! ## Lists of rules -/

section Traversal

variable {ε α β : Type} {read : α → Except ε β}

theorem mapM_eq_ok_iff (items : List α) (results : List β) :
    items.mapM read = .ok results ↔
      List.Forall₂ (fun item result => read item = .ok result) items results := by
  induction items generalizing results with
  | nil => cases results <;> simp [pure, Except.pure]
  | cons item rest ih =>
    rw [List.mapM_cons]
    cases here : read item with
    | error fault => cases results <;> simp [bind, Except.bind, here]
    | ok result =>
      cases later : rest.mapM read with
      | error fault => cases results <;> simp [bind, Except.bind, here, ← ih, later]
      | ok others =>
        cases results <;> simp [bind, Except.bind, pure, Except.pure, here, ← ih, later]

/-- A traversal fails at the first item that cannot be read. -/
theorem mapM_eq_error_iff (items : List α) (fault : ε) :
    items.mapM read = .error fault ↔
      ∃ before item after, items = before ++ item :: after ∧
        (∀ earlier ∈ before, ∃ result, read earlier = .ok result) ∧ read item = .error fault := by
  induction items with
  | nil => simp [pure, Except.pure]
  | cons first rest ih =>
    rw [List.mapM_cons]
    constructor
    · intro failed
      cases here : read first with
      | error early =>
        have same : early = fault := by simpa [bind, Except.bind, here] using failed
        exact ⟨[], first, rest, rfl, by simp, by rw [here, same]⟩
      | ok result =>
        cases later : rest.mapM read with
        | ok others => simp [bind, Except.bind, pure, Except.pure, here, later] at failed
        | error late =>
          have same : late = fault := by simpa [bind, Except.bind, here, later] using failed
          obtain ⟨before, item, after, cut, readable, bad⟩ := ih.mp (by rw [later, same])
          refine ⟨first :: before, item, after, by rw [cut, List.cons_append], ?_, bad⟩
          exact List.forall_mem_cons.mpr ⟨⟨result, here⟩, readable⟩
    · rintro ⟨before, item, after, cut, readable, bad⟩
      cases before with
      | nil =>
        obtain ⟨rfl, -⟩ := List.cons.inj cut
        rw [bad]
        rfl
      | cons _ before =>
        obtain ⟨rfl, same⟩ := List.cons.inj cut
        obtain ⟨⟨result, here⟩, readable⟩ := List.forall_mem_cons.mp readable
        have failed := ih.mpr ⟨before, item, after, same, readable, bad⟩
        simp only [here, failed, bind, Except.bind]

end Traversal

namespace RuleSet

theorem parse_eq_ok_iff (texts : List String) (rules : RuleSet) :
    parse texts = .ok rules ↔
      List.Forall₂ (fun text rule => ∃ pattern, Pattern.parse text = .ok pattern ∧
        rule = .ofPattern pattern) texts rules := by
  have asList : parse texts = .ok rules ↔
      ∃ patterns, texts.mapM Pattern.parse = .ok patterns ∧ rules = ofPatterns patterns := by
    rw [parse]
    cases texts.mapM Pattern.parse <;> simp [Except.map, eq_comm]
  simp only [asList, mapM_eq_ok_iff, ofPatterns]
  clear asList
  constructor
  · rintro ⟨patterns, read, rfl⟩
    rw [List.forall₂_map_right_iff]
    exact read.imp (fun _ pattern here => ⟨pattern, here, rfl⟩)
  · intro read
    induction read with
    | nil => exact ⟨[], .nil, rfl⟩
    | cons here _ ih =>
      obtain ⟨pattern, parsed, rfl⟩ := here
      obtain ⟨patterns, rest, rfl⟩ := ih
      exact ⟨pattern :: patterns, .cons parsed rest, rfl⟩

theorem parse_eq_error_iff (texts : List String) (fault : Fault) :
    parse texts = .error fault ↔
      ∃ before bad after, texts = before ++ bad :: after ∧
        (∀ text ∈ before, ∃ pattern, Pattern.parse text = .ok pattern) ∧
        Pattern.parse bad = .error fault := by
  rw [← mapM_eq_error_iff, parse]
  cases texts.mapM Pattern.parse <;> simp [Except.map]

end RuleSet

/-- A text is read as a rule exactly when it is a spelling, and then as the pattern of its
parts, of which there is one choice only. Every other text is the fault itself. A list of
texts is read in order, and the first text that is no spelling is the fault. -/
theorem parse_grammar (text : String) (texts : List String) :
    (∀ pattern, Pattern.parse text = .ok pattern ↔
      ∃ literal category slot, Spellable literal category slot ∧
        text = spelled literal category slot ∧
        pattern = ⟨if literal = "" then none else some literal, category, slot⟩) ∧
    ((∃ pattern, Pattern.parse text = .ok pattern) ↔
      ∃! parts : String × String × Option String,
        Spellable parts.1 parts.2.1 parts.2.2 ∧ text = spelled parts.1 parts.2.1 parts.2.2) ∧
    (∀ fault, Pattern.parse text = .error fault ↔
      fault = .malformedRule text ∧ ¬ ∃ pattern, Pattern.parse text = .ok pattern) ∧
    (∀ rules, RuleSet.parse texts = .ok rules ↔
      List.Forall₂ (fun text rule => ∃ pattern, Pattern.parse text = .ok pattern ∧
        rule = .ofPattern pattern) texts rules) ∧
    (∀ fault, RuleSet.parse texts = .error fault ↔
      ∃ before bad after, texts = before ++ bad :: after ∧
        (∀ text ∈ before, ∃ pattern, Pattern.parse text = .ok pattern) ∧
        fault = .malformedRule bad ∧ ¬ ∃ pattern, Pattern.parse bad = .ok pattern) := by
  refine ⟨Pattern.parse_eq_ok_iff text, ?unique, Pattern.parse_eq_error_iff text,
    RuleSet.parse_eq_ok_iff texts, ?firstBad⟩
  case unique =>
    simp only [Pattern.parse_eq_ok_iff]
    constructor
    · rintro ⟨pattern, literal, category, slot, spellable, rfl, -⟩
      refine ⟨(literal, category, slot), ⟨spellable, rfl⟩, ?_⟩
      rintro ⟨other, between, after⟩ ⟨-, same⟩
      obtain ⟨rfl, rfl, rfl⟩ := spellable.parts_eq same
      rfl
    · rintro ⟨⟨literal, category, slot⟩, ⟨spellable, same⟩, -⟩
      exact ⟨_, literal, category, slot, spellable, same, rfl⟩
  case firstBad =>
    intro fault
    simp only [RuleSet.parse_eq_error_iff, Pattern.parse_eq_error_iff]

example : RuleSet.parse ["ice cream[noun]->dessert", "an -> arrow[noun]", "[noun]-> dessert"] =
    .error (.malformedRule "[noun]-> dessert") := by
  decide +kernel

/-! ## Reading what is displayed -/

namespace Pattern

/-- The parts of the pattern fit the compact syntax. An absent literal fits as an empty one. -/
def IsSpellable (pattern : Pattern) : Prop :=
  Spellable (pattern.literal.getD "") pattern.category pattern.slot

theorem display_eq_spelled (pattern : Pattern) :
    pattern.display = spelled (pattern.literal.getD "") pattern.category pattern.slot := by
  unfold display spelled arrow
  cases pattern.slot <;> rfl

theorem getD_ofParts (literal category : String) (slot : Option String) :
    (ofParts literal category slot).literal.getD "" = literal := by
  by_cases empty : literal = "" <;> simp [ofParts, empty]

theorem ofParts_getD (pattern : Pattern) :
    ofParts (pattern.literal.getD "") pattern.category pattern.slot =
      { pattern with literal := pattern.literal.filter (· ≠ "") } := by
  obtain ⟨literal, category, slot⟩ := pattern
  cases literal with
  | none => rfl
  | some literal => by_cases empty : literal = "" <;> simp [ofParts, Option.filter, empty]

theorem display_of_parse {text : String} {pattern : Pattern} (read : parse text = .ok pattern) :
    pattern.display = text := by
  obtain ⟨literal, category, slot, -, rfl, rfl⟩ := (parse_eq_ok_iff text pattern).mp read
  rw [display_eq_spelled, getD_ofParts]
  rfl

theorem parse_display_eq_ok_iff (pattern read : Pattern) :
    parse pattern.display = .ok read ↔
      pattern.IsSpellable ∧ read = { pattern with literal := pattern.literal.filter (· ≠ "") } := by
  rw [parse_eq_ok_iff, display_eq_spelled, ← ofParts_getD]
  constructor
  · rintro ⟨literal, category, slot, spellable, same, rfl⟩
    obtain ⟨rfl, rfl, rfl⟩ := spellable.parts_eq same.symm
    exact ⟨spellable, rfl⟩
  · rintro ⟨spellable, rfl⟩
    exact ⟨_, _, _, spellable, rfl, rfl⟩

end Pattern

/-- A text that is read as a rule is the display of that rule. The display of a pattern is
read exactly when its parts fit the compact syntax, and then as that pattern, an empty
literal left out. So no display is ever read as another rule. -/
theorem parse_display (pattern : Pattern) :
    (∀ text, Pattern.parse text = .ok pattern → pattern.display = text) ∧
    (∀ read, Pattern.parse pattern.display = .ok read ↔
      pattern.IsSpellable ∧ read = { pattern with literal := pattern.literal.filter (· ≠ "") }) ∧
    (∀ fault, Pattern.parse pattern.display = .error fault ↔
      fault = .malformedRule pattern.display ∧ ¬ pattern.IsSpellable) := by
  refine ⟨fun text => Pattern.display_of_parse, Pattern.parse_display_eq_ok_iff pattern, ?_⟩
  intro fault
  simp only [Pattern.parse_eq_error_iff, Pattern.parse_display_eq_ok_iff, exists_and_left,
    exists_eq, and_true]

/-- A bracket inside the category is not taken for the end of it. -/
example : Pattern.parse (Pattern.display ⟨none, "noun]->dessert", none⟩) =
    .error (.malformedRule "[noun]->dessert]") := by
  decide +kernel

end SlotFilling
