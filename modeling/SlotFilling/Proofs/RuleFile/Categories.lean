import SlotFilling.Proofs.Pattern.CompactSyntax
import SlotFilling.RuleFile.Folder

/-!
# The categories of loaded rules

A rule stands in its file as a text in the compact syntax or as a record of its parts, and the
file is written in one of two formats. Whichever way a rule is written, its category is not
empty, so no rule that has been loaded asks for a category without a name.
-/
namespace SlotFilling

theorem Pattern.category_ne_empty_of_ofChars? {text : List Char} {pattern : Pattern}
    (read : ofChars? text = some pattern) : pattern.category ≠ "" := by
  obtain ⟨literal, category, slot, spellable, -, rfl⟩ := spelled_of_ofChars? read
  obtain ⟨first, rest, letters, -⟩ := spellable.category_name
  rintro (rfl : category = "")
  cases letters

/-- Every pattern of a rule file asks for some category. -/
def RuleFile.Categorized (file : RuleFile) : Prop :=
  ∀ pattern ∈ file.patterns, pattern.category ≠ ""

/-! ## JSON -/

namespace Json

theorem category_ne_empty_of_finish {draft : PatternDraft} {pattern : Pattern}
    (read : draft.finish = .ok pattern) : pattern.category ≠ "" := by
  unfold PatternDraft.finish at read
  split at read
  next => cases read
  next category given =>
    split at read
    next => cases read
    next filled =>
      cases read
      exact filled

theorem category_ne_empty_of_asPattern {value : Parsed} {pattern : Pattern}
    (read : value.asPattern = .ok pattern) : pattern.category ≠ "" := by
  unfold Parsed.asPattern at read
  split at read
  next text =>
    split at read
    next compact =>
      cases read
      exact Pattern.category_ne_empty_of_ofChars? compact
    next => cases read
  next members =>
    unfold patternOfMembers at read
    cases drafted : members.foldlM PatternDraft.withMember {} with
    | error fault =>
      rw [drafted] at read
      cases read
    | ok draft =>
      rw [drafted] at read
      exact category_ne_empty_of_finish read
  next =>
    unfold Parsed.refuse at read
    split at read <;> cases read

/-- What holds of every value that is read from an item holds of all items of a list. -/
theorem forall_mem_of_asList? {α : Type} {read : Parsed → Option α} {post : α → Prop}
    (each : ∀ value result, read value = some result → post result) {value : Parsed}
    {results : List α} (listed : value.asList? read = some results) :
    ∀ result ∈ results, post result := by
  unfold Parsed.asList? at listed
  split at listed
  next items =>
    induction items generalizing results with
    | nil =>
      cases listed
      simp
    | cons item rest ih =>
      simp only [List.mapM_cons, Option.bind_eq_bind, Option.bind_eq_some_iff, Option.pure_def,
        Option.some.injEq] at listed
      obtain ⟨first, here, others, later, rfl⟩ := listed
      exact List.forall_mem_cons.mpr ⟨each item first here, ih later⟩
  next => cases listed

theorem exists_of_field? {α : Type} {read : Parsed → Option α} {name : String}
    {record : List (String × Parsed)} {result : α}
    (present : field? read name record = some (some result)) :
    ∃ value, read value = some result := by
  unfold field? at present
  cases found : record.lookup name with
  | none => simp [found] at present
  | some value => exact ⟨value, by simpa [found] using present⟩

theorem categorized_of_ofJson? {bytes : List UInt8} {file : RuleFile}
    (read : RuleFile.ofJson? bytes = some file) : file.Categorized := by
  simp only [RuleFile.ofJson?, Parsed.asRuleFile?, Option.bind_eq_bind, Option.bind_eq_some_iff,
    Option.ite_none_right_eq_some, Option.pure_def, Option.some.injEq] at read
  obtain ⟨_, ⟨record, -, _, -, name, -, _, given, patterns, rfl, tests, -, rfl⟩, -, rfl⟩ := read
  obtain ⟨value, listed⟩ := exists_of_field? given
  refine forall_mem_of_asList? (fun item pattern taken => ?_) listed
  cases readable : item.asPattern with
  | error fault => simp [readable, Except.toOption] at taken
  | ok found =>
    obtain rfl : found = pattern := by simpa [readable, Except.toOption] using taken
    exact category_ne_empty_of_asPattern readable

end Json

/-! ## YAML -/

namespace Yaml.Node

variable {α β : Type}

/-- Every value that a reading gives has a property, whatever the aliases are. -/
def Yields (decoding : Decoding α) (post : α → Prop) : Prop :=
  ∀ anchored left value remaining,
    (decoding.run anchored).run left = some (value, remaining) → post value

theorem yields_pure {value : α} {post : α → Prop} (holds : post value) :
    Yields (pure value) post := by
  intro anchored left result remaining read
  cases read
  exact holds

theorem yields_failure {post : α → Prop} : Yields (failure : Decoding α) post := by
  intro anchored left value remaining read
  cases read

theorem yields_bind {first : Decoding α} {later : α → Decoding β} {mid : α → Prop}
    {post : β → Prop} (start : Yields first mid)
    (continued : ∀ value, mid value → Yields (later value) post) :
    Yields (first >>= later) post := by
  intro anchored left result remaining read
  simp only [ReaderT.run_bind, StateT.run_bind, Option.bind_eq_bind, Option.bind_eq_some_iff]
    at read
  obtain ⟨⟨value, between⟩, here, rest⟩ := read
  exact continued value (start anchored left value between here) anchored between result remaining
    rest

/-- Where nothing is known of the first value, the rest has to hold for all of them. -/
theorem yields_bind_of_forall {first : Decoding α} {later : α → Decoding β} {post : β → Prop}
    (continued : ∀ value, Yields (later value) post) : Yields (first >>= later) post := by
  have start : Yields first fun _ => True := fun _ _ _ _ _ => trivial
  exact yields_bind start fun value _ => continued value

theorem yields_getM {given : Option α} {post : α → Prop}
    (each : ∀ value, given = some value → post value) :
    Yields (given.getM : Decoding α) post := by
  cases given with
  | none => exact yields_failure
  | some value => exact yields_pure (each value rfl)

theorem yields_mapM {items : List α} {read : α → Decoding β} {post : β → Prop}
    (each : ∀ item, Yields (read item) post) :
    Yields (items.mapM read) fun results => ∀ result ∈ results, post result := by
  induction items with
  | nil => exact yields_pure (by simp)
  | cons item rest ih =>
    rw [List.mapM_cons]
    refine yields_bind (each item) fun result holds => ?_
    exact yields_bind ih fun results later => yields_pure (List.forall_mem_cons.mpr ⟨holds, later⟩)

theorem yields_asList {read : Node → Decoding α} {post : α → Prop}
    (each : ∀ node, Yields (read node) post) (node : Node) :
    Yields (asList read node) fun results => ∀ result ∈ results, post result := by
  refine yields_bind_of_forall fun target => ?_
  split
  next => exact yields_mapM each
  next => exact yields_pure (by simp)
  next => exact yields_failure

theorem yields_patternOfEntries (entries : List (String × Node)) :
    Yields (patternOfEntries entries) fun pattern => pattern.category ≠ "" := by
  refine yields_bind_of_forall fun literal => ?_
  refine yields_bind_of_forall fun given => ?_
  refine yields_bind_of_forall fun category => ?_
  refine yields_bind_of_forall fun slot => ?_
  split
  next => exact yields_failure
  next filled => exact yields_pure (by simpa using filled)

theorem yields_asPattern (node : Node) :
    Yields (asPattern node) fun pattern => pattern.category ≠ "" := by
  refine yields_bind_of_forall fun target => ?_
  split
  next =>
    split
    next => exact yields_failure
    next => exact yields_getM fun _ => Pattern.category_ne_empty_of_ofChars?
  next =>
    split
    next => exact yields_failure
    next => exact yields_bind_of_forall yields_patternOfEntries
  next => exact yields_failure

theorem yields_asRuleFile (node : Node) : Yields (asRuleFile node) RuleFile.Categorized := by
  refine yields_bind_of_forall fun record => ?_
  refine yields_bind_of_forall fun name => ?_
  have patternsOf : Yields (field (asList asPattern) "rules" record)
      fun patterns => ∀ pattern ∈ patterns, pattern.category ≠ "" :=
    yields_bind_of_forall (yields_asList yields_asPattern)
  refine yields_bind patternsOf fun patterns filled => ?_
  exact yields_bind_of_forall fun tests => yields_pure filled

end Yaml.Node

theorem RuleFormat.categorized_of_read? {format : RuleFormat} {content : List UInt8}
    {file : RuleFile} (read : format.read? content = some file) : file.Categorized := by
  cases format with
  | json => exact Json.categorized_of_ofJson? read
  | yaml =>
    obtain ⟨root, -, read⟩ := Option.bind_eq_some_iff.mp read
    obtain ⟨⟨_, remaining⟩, decoded, rfl⟩ := Option.map_eq_some_iff.mp read
    exact Yaml.Node.yields_asRuleFile root _ _ _ remaining decoded

end SlotFilling
