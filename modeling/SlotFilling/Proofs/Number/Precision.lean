import SlotFilling.Proofs.Number.Shortest

/-!
# How many digits a number needs

Cut to some number of digits, the exact value of a number has a neighbour below and one above,
and no other decimal with so few digits lies between them. So if any decimal with so few digits
reads back, one of the neighbours does, and the shortest decimal that reads back is indeed a
shortest one. Seventeen digits are always enough.
-/
namespace SlotFilling

/-- A row of few digits, with zeros, does not lie between a longer row that was cut and its
successor. -/
theorem not_between {exact digits places cut : Nat} (long : 10 ^ (places + cut) ≤ exact)
    (few : digits < 10 ^ (places + 1)) (zeros more : Nat) :
    digits * 10 ^ zeros ≤ exact / 10 ^ cut * 10 ^ (cut + more) ∨
      (exact / 10 ^ cut + 1) * 10 ^ (cut + more) ≤ digits * 10 ^ zeros := by
  rcases Nat.lt_or_ge zeros (cut + more) with fine | coarse
  · -- The decimal has fewer places in front than the exact value.
    have leading : 10 ^ places ≤ exact / 10 ^ cut := by
      rw [Nat.le_div_iff_mul_le (Nat.pow_pos (by decide)), ← Nat.pow_add]
      exact long
    left
    calc digits * 10 ^ zeros ≤ 10 ^ (places + 1) * 10 ^ zeros :=
          Nat.mul_le_mul_right _ (Nat.le_of_lt few)
      _ = 10 ^ (places + (zeros + 1)) := by
          rw [← Nat.pow_add]
          congr 1
          omega
      _ ≤ 10 ^ (places + (cut + more)) := Nat.pow_le_pow_right (by decide) (by omega)
      _ = 10 ^ places * 10 ^ (cut + more) := Nat.pow_add ..
      _ ≤ exact / 10 ^ cut * 10 ^ (cut + more) := Nat.mul_le_mul_right _ leading
  · obtain ⟨behind, rfl⟩ := Nat.exists_eq_add_of_le coarse
    have onGrid : digits * 10 ^ (cut + more + behind) =
        digits * 10 ^ behind * 10 ^ (cut + more) := by
      rw [Nat.pow_add _ _ behind]
      ring
    rw [onGrid]
    exact (Nat.lt_or_ge (exact / 10 ^ cut) (digits * 10 ^ behind)).symm.imp
      (Nat.mul_le_mul_right _) (Nat.mul_le_mul_right _)

/-- A search through increasing candidates stops at a candidate or before it. -/
theorem exists_findSome?_le {α : Type} {search : Nat → Option α} {candidates : List Nat}
    (increasing : candidates.Pairwise (· < ·)) {candidate : Nat} (member : candidate ∈ candidates)
    (found : (search candidate).isSome = true) :
    ∃ first ≤ candidate, first ∈ candidates ∧
      ∃ result, candidates.findSome? search = some result ∧ search first = some result := by
  induction candidates with
  | nil => cases member
  | cons first later ih =>
    obtain ⟨before, laterIncreasing⟩ := List.pairwise_cons.mp increasing
    cases here : search first with
    | some result =>
      have least : first ≤ candidate := by
        rcases List.mem_cons.mp member with rfl | behind
        · exact Nat.le_refl _
        · exact Nat.le_of_lt (before candidate behind)
      exact ⟨first, least, List.mem_cons_self, result, by rw [List.findSome?_cons, here], here⟩
    | none =>
      have behind : candidate ∈ later := by
        rcases List.mem_cons.mp member with rfl | behind
        · rw [here] at found
          cases found
        · exact behind
      obtain ⟨other, least, isLater, result, laterResult, there⟩ := ih laterIncreasing behind
      exact ⟨other, least, List.mem_cons_of_mem _ isLater, result,
        by rw [List.findSome?_cons, here, laterResult], there⟩

namespace Binary64

variable {number : Binary64} {decimal : Decimal} {tie : Tie} {places : Nat}

/-! ## Neighbours -/

/-- The number of digits that are cut off to leave some places. -/
def cutFor (number : Binary64) (places : Nat) : Nat :=
  digitCount number.exactDecimal.digits - places

def below (number : Binary64) (places : Nat) : Decimal :=
  ⟨number.exactDecimal.digits / 10 ^ number.cutFor places, -1074 + number.cutFor places⟩

def above (number : Binary64) (places : Nat) : Decimal :=
  ⟨number.exactDecimal.digits / 10 ^ number.cutFor places + 1, -1074 + number.cutFor places⟩

theorem exists_neighbour?_eq (number : Binary64) (tie : Tie) (places : Nat) :
    ∃ nearer : Bool, number.neighbour? tie places =
      if number.reads (number.below places) && (nearer || !number.reads (number.above places)) then
        some (number.below places)
      else if number.reads (number.above places) then some (number.above places)
      else none :=
  ⟨_, rfl⟩

theorem eq_of_neighbour? (found : number.neighbour? tie places = some decimal) :
    decimal = number.below places ∨ decimal = number.above places := by
  obtain ⟨nearer, split⟩ := number.exists_neighbour?_eq tie places
  rw [split] at found
  split at found
  next => exact .inl (Option.some.inj found).symm
  next =>
    split at found
    next => exact .inr (Option.some.inj found).symm
    next => cases found

theorem neighbour?_isSome
    (read : number.reads (number.below places) = true ∨ number.reads (number.above places) = true) :
    (number.neighbour? tie places).isSome = true := by
  obtain ⟨nearer, split⟩ := number.exists_neighbour?_eq tie places
  rw [split]
  cases lower : number.reads (number.below places) with
  | true => cases nearer <;> cases number.reads (number.above places) <;> rfl
  | false =>
    rw [read.resolve_left (by simp [lower])]
    rfl

/-! ## Few digits -/

/-- A decimal can be written at every smaller exponent. -/
theorem reads_zeros (digits count : Nat) (exponent : Int) :
    number.reads ⟨digits, exponent + count⟩ = number.reads ⟨digits * 10 ^ count, exponent⟩ :=
  reads_congr (Decimal.sameValue_zeros digits count exponent)

/-- Everything between two decimals that read back reads back. -/
theorem reads_between {low middle high : Nat} {exponent : Int}
    (lowReads : number.reads ⟨low, exponent⟩ = true)
    (highReads : number.reads ⟨high, exponent⟩ = true)
    (least : low ≤ middle) (most : middle ≤ high) : number.reads ⟨middle, exponent⟩ = true := by
  rw [reads, beq_iff_eq] at lowReads highReads ⊢
  have fromLow := Decimal.nearestMagnitude_mono exponent least
  have toHigh := Decimal.nearestMagnitude_mono exponent most
  omega

theorem exactDigits_pos (nonzero : number.isZero = false) : 0 < number.exactDecimal.digits :=
  Nat.pos_of_ne_zero (exactDecimal_ne_zero (by simpa [isZero] using nonzero))

/-- An exact value with no more digits is its own neighbour. -/
theorem reads_below_of_whole (finite : number.isFinite = true) (whole : number.cutFor places = 0) :
    number.reads (number.below places) = true := by
  have same : number.below places = number.exactDecimal := by
    rw [below, whole, Nat.pow_zero, Nat.div_one]
    rfl
  rw [same]
  exact reads_exactDecimal finite

/-- An exact value with more digits has a digit other than zero in front. -/
theorem leading_digit (nonzero : number.isZero = false) (cut : 0 < number.cutFor (places + 1)) :
    10 ^ (places + number.cutFor (places + 1)) ≤ number.exactDecimal.digits := by
  apply pow_le_of_lt_digitCount (Nat.ne_of_gt (exactDigits_pos nonzero))
  rw [cutFor] at cut ⊢
  omega

/-- If any decimal with so few digits reads back, one of the neighbours does. -/
theorem reads_neighbour_of_reads (finite : number.isFinite = true) (nonzero : number.isZero = false)
    (few : decimal.digits < 10 ^ (places + 1)) (read : number.reads decimal = true) :
    number.reads (number.below (places + 1)) = true ∨
      number.reads (number.above (places + 1)) = true := by
  rcases Nat.eq_zero_or_pos (number.cutFor (places + 1)) with whole | cut
  · exact .inl (reads_below_of_whole finite whole)
  · -- All four decimals are compared at one exponent.
    obtain ⟨base, zeros, more, here, unit⟩ : ∃ (base : Int) (zeros more : Nat),
        decimal.exponent = base + zeros ∧ -1074 = base + more :=
      ⟨min decimal.exponent (-1074), (decimal.exponent - min decimal.exponent (-1074)).toNat,
        (-1074 - min decimal.exponent (-1074)).toNat, by omega, by omega⟩
    have shift : -1074 + (number.cutFor (places + 1) : Int) =
        base + (number.cutFor (places + 1) + more : Nat) := by omega
    have decimalReads : number.reads ⟨decimal.digits * 10 ^ zeros, base⟩ = true := by
      rw [← reads_zeros, ← here]
      exact read
    have exactReads : number.reads ⟨number.exactDecimal.digits * 10 ^ more, base⟩ = true := by
      rw [← reads_zeros, ← unit]
      exact reads_exactDecimal finite
    have split := Nat.div_add_mod number.exactDecimal.digits (10 ^ number.cutFor (places + 1))
    have rest := Nat.mod_lt number.exactDecimal.digits
      (Nat.pow_pos (by decide) : 0 < 10 ^ number.cutFor (places + 1))
    -- One neighbour lies between the decimal and the exact value, and both of these read back.
    rcases not_between (leading_digit nonzero cut) few zeros more with lower | upper
    · left
      rw [below, shift, reads_zeros]
      refine reads_between decimalReads exactReads lower ?_
      rw [Nat.pow_add, ← Nat.mul_assoc]
      exact Nat.mul_le_mul_right _ (Nat.div_mul_le_self _ _)
    · right
      rw [above, shift, reads_zeros]
      refine reads_between exactReads decimalReads ?_ upper
      rw [Nat.pow_add, ← Nat.mul_assoc, Nat.succ_mul, Nat.mul_comm (_ / _)]
      exact Nat.mul_le_mul_right _ (by omega)

/-! ## Seventeen digits -/

theorem reads_of_near (finite : number.isFinite = true) {digits distance : Nat}
    (near : digits = number.exactDecimal.digits + distance ∨
      digits + distance = number.exactDecimal.digits)
    (close : 2 ^ 54 * distance < number.exactDecimal.digits) :
    number.reads ⟨digits, -1074⟩ = true := by
  rw [exactDecimal_eq] at near close
  rw [reads, beq_iff_eq, nearestMagnitude_units, roundUnits_of_near near close]
  exact magnitudeOf_unitsOf (of_decide_eq_true finite)

/-- Cut to 17 digits, the nearer neighbour is close enough to read back. -/
theorem reads_neighbour_seventeen (finite : number.isFinite = true)
    (nonzero : number.isZero = false) :
    number.reads (number.below 17) = true ∨ number.reads (number.above 17) = true := by
  rcases Nat.eq_zero_or_pos (number.cutFor 17) with whole | cut
  · exact .inl (reads_below_of_whole finite whole)
  · have leading : 10 ^ (16 + number.cutFor 17) ≤ number.exactDecimal.digits :=
      leading_digit nonzero cut
    have split := Nat.div_add_mod' number.exactDecimal.digits (10 ^ number.cutFor 17)
    have rest := Nat.mod_lt number.exactDecimal.digits
      (Nat.pow_pos (by decide) : 0 < 10 ^ number.cutFor 17)
    have positive := exactDigits_pos nonzero
    rw [Nat.pow_add] at leading
    rw [below, above, reads_zeros, reads_zeros, Nat.succ_mul]
    generalize number.exactDecimal.digits % 10 ^ number.cutFor 17 = excess at *
    -- A last place is at most 10⁻¹⁶ of the value, and half of that is less than 2⁻⁵⁴ of it.
    by_cases lower : 2 * excess ≤ 10 ^ number.cutFor 17
    · exact .inl (reads_of_near finite (.inr split) (by omega))
    · right
      have distance : number.exactDecimal.digits / 10 ^ number.cutFor 17 * 10 ^ number.cutFor 17 +
          10 ^ number.cutFor 17 =
            number.exactDecimal.digits + (10 ^ number.cutFor 17 - excess) := by omega
      exact reads_of_near finite (.inl distance) (by omega)

/-! ## The shortest decimal -/

theorem digits_le_of_neighbour? (found : number.neighbour? tie (places + 1) = some decimal) :
    decimal.digits ≤ 10 ^ (places + 1) := by
  have exact : number.exactDecimal.digits <
      10 ^ number.cutFor (places + 1) * 10 ^ (places + 1) := by
    rw [← Nat.pow_add]
    refine Nat.lt_of_lt_of_le (lt_pow_digitCount _) (Nat.pow_le_pow_right (by decide) ?_)
    rw [cutFor]
    omega
  have cut := Nat.div_lt_of_lt_mul exact
  rcases eq_of_neighbour? found with rfl | rfl
  · exact Nat.le_of_lt cut
  · exact cut

/-- The search stops where a neighbour reads back, or before. -/
theorem digitCount_shortest_le_of_neighbour? (nonzero : number.isZero = false) (few : places < 17)
    (found : (number.neighbour? tie (places + 1)).isSome = true) :
    digitCount (number.shortest tie).digits ≤ places + 1 := by
  have member : places + 1 ∈ List.range' 1 17 := List.mem_range'_1.mpr (by omega)
  obtain ⟨first, least, isCandidate, decimal, result, here⟩ :=
    exists_findSome?_le (List.pairwise_lt_range' 1) member found
  obtain ⟨before, rfl⟩ : ∃ before, first = before + 1 :=
    Nat.exists_eq_add_one.mpr (List.mem_range'_1.mp isCandidate).1
  rw [shortest, nonzero, result]
  exact Nat.le_trans (Decimal.digitCount_stripped_le (digits_le_of_neighbour? here)) least

/-- No decimal with fewer digits than the shortest one reads back as the number, and no number
needs more than 17. -/
theorem digitCount_shortest_le (finite : number.isFinite = true) (tie : Tie) :
    digitCount (number.shortest tie).digits ≤ 17 ∧
      ∀ decimal, number.reads decimal = true →
        digitCount (number.shortest tie).digits ≤ digitCount decimal.digits := by
  cases zero : number.isZero with
  | true =>
    have single : digitCount (number.shortest tie).digits = 1 := by
      rw [shortest, zero, if_pos rfl]
      rfl
    rw [single]
    exact ⟨by decide, fun decimal _ => Nat.length_toDigits_pos⟩
  | false =>
    have seventeen := digitCount_shortest_le_of_neighbour? zero (by decide)
      (neighbour?_isSome (reads_neighbour_seventeen finite zero) : (number.neighbour? tie _).isSome)
    refine ⟨seventeen, fun decimal read => ?_⟩
    obtain ⟨places, count⟩ : ∃ places, digitCount decimal.digits = places + 1 :=
      Nat.exists_eq_add_one.mpr Nat.length_toDigits_pos
    rw [count]
    by_cases few : places < 17
    · have small : decimal.digits < 10 ^ (places + 1) := count ▸ lt_pow_digitCount decimal.digits
      exact digitCount_shortest_le_of_neighbour? zero few
        (neighbour?_isSome (reads_neighbour_of_reads finite zero small read))
    · omega

end Binary64

end SlotFilling
