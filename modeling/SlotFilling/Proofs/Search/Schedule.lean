import SlotFilling.Proofs.Search.Order
import SlotFilling.Proofs.Search.Overlap
import Mathlib.Data.Finset.Pairwise
import Mathlib.Order.Bounds.Basic
import Mathlib.Order.Interval.Finset.Nat
import Mathlib.Combinatorics.Enumerative.DoubleCounting

/-!
# Suppressing overlap is optimal

No family of embeddings with disjoint spans is larger than the list of alignments that
a suppressing search returns. Every embedding, first fit or not, has the end of a
returned alignment within its span: the alignment from the same anchor ends no later,
and if that one was left out, so does the one that covers its anchor. Embeddings with
disjoint spans hold different ends.
-/
namespace SlotFilling

/-- Every position from the first one to the last one. -/
def span (positions : List Nat) : Finset Nat :=
  Finset.Icc (positions.headD 0) (positions.getLastD 0)

/-- Embeddings, first fit or not, whose spans are pairwise disjoint. -/
structure DisjointFamily (patterns : List Pattern) (tokens : List Token)
    (family : Finset (List Nat)) : Prop where
  embeddings : ∀ positions ∈ family, Embedding patterns tokens positions
  disjoint : (family : Set (List Nat)).PairwiseDisjoint span

theorem getLastD_le_getLastD {left right : List Nat} (below : List.Forall₂ (· ≤ ·) left right)
    {before after : Nat} (ordered : before ≤ after) :
    left.getLastD before ≤ right.getLastD after := by
  induction below generalizing before after with
  | nil => exact ordered
  | cons front _ ih =>
    rw [List.getLastD_cons, List.getLastD_cons]
    exact ih front

/-! ## Alignments from later anchors -/

theorem last_mono (patterns : List Pattern) (tokens : List Token) (earlier later : RuleSet)
    (isEarlier : earlier ∈ alignments patterns tokens)
    (isLater : later ∈ alignments patterns tokens) (ordered : earlier.anchor ≤ later.anchor) :
    earlier.last ≤ later.last :=
  getLastD_le_getLastD (alignments_mono patterns tokens earlier later isEarlier isLater ordered)
    (Nat.le_refl 0)

/-! ## Charging embeddings to returned alignments -/

/-- Every embedding has the end of an alignment that stays within its span. -/
theorem exists_end_in_span (patterns : List Pattern) (tokens : List Token)
    (nonempty : patterns ≠ []) (positions : List Nat)
    (embedding : Embedding patterns tokens positions) :
    ∃ kept ∈ withoutOverlap none (alignments patterns tokens), kept.last ∈ span positions := by
  cases patterns with
  | nil => exact absurd rfl nonempty
  | cons first others =>
    obtain ⟨anchor, later, _, rfl, _⟩ := embedding.uncons
    obtain ⟨result, member, rfl⟩ :=
      (exists_alignment_iff_embedding _ tokens anchor).mpr ⟨later, embedding⟩
    have least := (alignment_least _ tokens result member).2 later embedding
    have ends : result.last ≤ (result.anchor :: later).getLastD 0 :=
      getLastD_le_getLastD least (Nat.le_refl 0)
    simp only [span, Finset.mem_Icc, List.headD_cons]
    by_cases stays : result ∈ withoutOverlap none (alignments (first :: others) tokens)
    · exact ⟨result, stays, anchor_le_last_of_mem _ tokens result member, ends⟩
    · obtain ⟨covering, before | isKept, started, within⟩ :=
        withoutOverlap_covers _ none (alignments_increasing _ tokens) (by simp) result member stays
      · simp at before
      · have isAlignment := (withoutOverlap_sublist none _).subset isKept
        have sooner := last_mono _ tokens covering result isAlignment member started
        exact ⟨covering, isKept, within, Nat.le_trans sooner ends⟩

theorem card_le_of_disjoint (patterns : List Pattern) (tokens : List Token)
    (nonempty : patterns ≠ []) (family : Finset (List Nat))
    (disjoint : DisjointFamily patterns tokens family) :
    family.card ≤ (withoutOverlap none (alignments patterns tokens)).length := by
  let ends := ((withoutOverlap none (alignments patterns tokens)).map RuleSet.last).toFinset
  have charged : family.card ≤ ends.card := by
    apply Finset.card_le_card_of_forall_subsingleton (fun positions last => last ∈ span positions)
    · intro positions member
      obtain ⟨kept, isKept, within⟩ :=
        exists_end_in_span patterns tokens nonempty positions (disjoint.embeddings _ member)
      exact ⟨kept.last, by simpa [ends] using ⟨kept, isKept, rfl⟩, within⟩
    · -- One end lies in the spans of two embeddings only if they are the same.
      intro last _ left ⟨isLeft, inLeft⟩ right ⟨isRight, inRight⟩
      by_contra different
      exact Finset.disjoint_left.mp (disjoint.disjoint isLeft isRight different) inLeft inRight
  calc family.card ≤ ends.card := charged
    _ ≤ ((withoutOverlap none (alignments patterns tokens)).map RuleSet.last).length :=
        List.toFinset_card_le _
    _ = (withoutOverlap none (alignments patterns tokens)).length := List.length_map _

theorem disjoint_span {earlier later : RuleSet} (ordered : earlier.last < later.anchor) :
    Disjoint (span earlier.positions) (span later.positions) := by
  refine Finset.disjoint_left.mpr ?_
  intro position inEarlier inLater
  have before : position ≤ earlier.last := (Finset.mem_Icc.mp inEarlier).2
  have after : later.anchor ≤ position := (Finset.mem_Icc.mp inLater).1
  omega

/-- The alignments that stay are themselves a family of that kind. -/
theorem withoutOverlap_family (patterns : List Pattern) (tokens : List Token) :
    ∃ family, DisjointFamily patterns tokens family ∧
      family.card = (withoutOverlap none (alignments patterns tokens)).length := by
  let kept := withoutOverlap none (alignments patterns tokens)
  have isAlignment : ∀ result ∈ kept, result ∈ alignments patterns tokens :=
    fun _ member => (withoutOverlap_sublist none _).subset member
  have apart : kept.Pairwise (fun earlier later => earlier.last < later.anchor) :=
    withoutOverlap_disjoint _ none (anchor_le_last_of_mem patterns tokens)
  have distinct : (kept.map RuleSet.positions).Nodup := by
    rw [List.Nodup, List.pairwise_map]
    refine apart.imp_of_mem ?_
    intro earlier later isEarlier _ ordered same
    have sameAnchor : earlier.anchor = later.anchor := by rw [RuleSet.anchor, same, RuleSet.anchor]
    have ends := anchor_le_last_of_mem patterns tokens earlier (isAlignment earlier isEarlier)
    omega
  have disjoint : (kept.map RuleSet.positions).Pairwise (Function.onFun Disjoint span) :=
    List.pairwise_map.mpr (apart.imp disjoint_span)
  refine ⟨(kept.map RuleSet.positions).toFinset, ⟨?_, ?_⟩, ?_⟩
  · intro positions member
    obtain ⟨result, isKept, rfl⟩ := List.mem_map.mp (List.mem_toFinset.mp member)
    exact (alignment_least patterns tokens result (isAlignment result isKept)).1
  · exact (List.pairwiseDisjoint_iff_coe_toFinset_pairwise_disjoint distinct).mpr disjoint
  · rw [List.toFinset_card_of_nodup distinct, List.length_map]

/-- A suppressing search returns as many alignments as any embeddings with disjoint spans
can number. -/
theorem search_suppress_optimal (tokens : List Token) (rules : RuleSet) (nonempty : rules ≠ []) :
    ∃ results, search ⟨.skipToken, .suppress, none⟩ tokens rules = .ok results ∧
      IsGreatest {size | ∃ family, DisjointFamily rules.patterns tokens family ∧
        family.card = size} results.length := by
  have ending := search_ending ⟨.skipToken, .suppress, none⟩ tokens rules nonempty
  have patternsNonempty : rules.patterns ≠ [] := by simpa [RuleSet.patterns] using nonempty
  refine ⟨_, ending.eq_ok_of_skipToken, withoutOverlap_family rules.patterns tokens, ?_⟩
  rintro size ⟨family, disjoint, rfl⟩
  exact card_le_of_disjoint rules.patterns tokens patternsNonempty family disjoint

theorem search_suppress_optimal_reminders :
    reminderRules ≠ [] ∧
    ∃ results, search ⟨.skipToken, .suppress, none⟩ reminders reminderRules = .ok results ∧
      results.length = 2 ∧
      IsGreatest {size | ∃ family, DisjointFamily reminderRules.patterns reminders family ∧
        family.card = size} 2 := by
  have nonempty : reminderRules ≠ [] := by decide
  obtain ⟨results, returned, greatest⟩ :=
    search_suppress_optimal reminders reminderRules nonempty
  have found : (search ⟨.skipToken, .suppress, none⟩ reminders reminderRules).map List.length =
      .ok 2 := by decide +kernel
  rw [returned] at found
  have two : results.length = 2 := Except.ok.inj found
  exact ⟨nonempty, results, returned, two, two ▸ greatest⟩

end SlotFilling
