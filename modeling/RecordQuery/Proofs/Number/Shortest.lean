import RecordQuery.Number.Shortest
import RecordQuery.Proofs.Number.Order
import RecordQuery.Proofs.Number.Quotient

/-!
# The order of shortest decimals

The decimal that a floating-point number is written with lies between the ends of the numbers that
round to it (`Binary64.roundsTo_shown`). Of two floating-point numbers the upper end of the smaller
one is not above the lower end of the larger one, and where the two ends are the same, one of the
numbers does not take its own end (`Binary64.RoundsTo.lt`). So the decimals are in the order of the
numbers, and with signs and infinities too (`Binary64.compare_toDecimal`).
-/

namespace RecordQuery.Number

namespace Binary64

variable {mantissa unit mantissa' unit' c : Nat} {g : Int} {q q' : ℚ}

/-- The number of a coefficient and an exponent. -/
def decimalValue (p : Nat × Int) : ℚ := p.1 * 10 ^ p.2

/-- Quarters of the least unit in one. -/
def quartersInOne : ℚ := (twoPow (leastExponent + 2) : Nat)

theorem quartersInOne_pos : 0 < quartersInOne := Nat.cast_pos.2 twoPow_pos

theorem cast_tenPow (n : Nat) : ((tenPow n : Nat) : ℚ) = 10 ^ n := by
  rw [tenPow, Nat.pow_eq]
  push_cast
  rfl

/-- A decimal is compared with a number of quarters of the least unit. -/
theorem compareQuarters_eq_cmp (c : Nat) (g : Int) (quarters : Nat) :
    compareQuarters c g quarters = cmp (decimalValue (c, g) * quartersInOne) quarters := by
  have hten : (10 : ℚ) ≠ 0 := by norm_num
  have hscale : (0 : ℚ) < 10 ^ (-g).toNat := by positivity
  have hpow : (10 : ℚ) ^ g * 10 ^ (-g).toNat = 10 ^ g.toNat := by
    rw [← zpow_natCast, ← zpow_natCast, ← zpow_add₀ hten]
    congr 1
    omega
  have hleft : decimalValue (c, g) * quartersInOne * 10 ^ (-g).toNat =
      ((c * tenPow g.toNat * twoPow (leastExponent + 2) : Nat) : ℚ) := by
    rw [Nat.cast_mul, Nat.cast_mul, cast_tenPow, ← hpow, decimalValue, quartersInOne]
    ring
  have hright : (quarters : ℚ) * 10 ^ (-g).toNat = ((quarters * tenPow (-g).toNat : Nat) : ℚ) := by
    rw [Nat.cast_mul, cast_tenPow]
  rw [compareQuarters, ← cmp_eq_compare, ← (Nat.strictMono_cast (α := ℚ)).cmp_map_eq, ← hleft,
    ← hright, (strictMono_mul_right_of_pos hscale).cmp_map_eq]

theorem compareQuarters_eq_lt_iff {quarters : Nat} :
    compareQuarters c g quarters = .lt ↔ decimalValue (c, g) * quartersInOne < quarters := by
  rw [compareQuarters_eq_cmp, cmp_eq_lt_iff]

theorem compareQuarters_eq_gt_iff {quarters : Nat} :
    compareQuarters c g quarters = .gt ↔ quarters < decimalValue (c, g) * quartersInOne := by
  rw [compareQuarters_eq_cmp, cmp_eq_gt_iff]

/-! ## The numbers that round to a floating-point number -/

/-- So many quarters of the least unit lie between the ends of the numbers that round to the
floating-point number, and they are none of the ends if the mantissa is odd. -/
structure RoundsTo (mantissa unit : Nat) (q : ℚ) : Prop where
  lower : lowerEnd mantissa unit ≤ q
  upper : q ≤ upperEnd mantissa unit
  odd : mantissa % 2 = 1 → lowerEnd mantissa unit < q ∧ q < upperEnd mantissa unit

theorem readsBack_iff : readsBack mantissa unit c g = true ↔
    RoundsTo mantissa unit (decimalValue (c, g) * quartersInOne) := by
  rw [readsBack]
  split
  · next heven =>
    simp only [Bool.and_eq_true, bne_iff_ne, ne_eq, compareQuarters_eq_lt_iff,
      compareQuarters_eq_gt_iff, not_lt]
    constructor
    · rintro ⟨hlower, hupper⟩
      exact ⟨hlower, hupper, fun hodd => by omega⟩
    · intro h
      exact ⟨h.lower, h.upper⟩
  · next hodd =>
    simp only [Bool.and_eq_true, beq_iff_eq, compareQuarters_eq_lt_iff, compareQuarters_eq_gt_iff]
    constructor
    · rintro ⟨hlower, hupper⟩
      exact ⟨hlower.le, hupper.le, fun _ => ⟨hlower, hupper⟩⟩
    · intro h
      exact h.odd (by omega)

/-- The upper end is half a unit above the number. -/
theorem upperEnd_eq : upperEnd mantissa unit = (4 * mantissa + 2) * twoPow unit := by
  rw [upperEnd, units]
  ring

/-- The lower end is half a unit below the number, or a quarter where the unit below is smaller. -/
theorem lowerEnd_eq : lowerEnd mantissa unit =
    (4 * mantissa - if mantissa = twoPow 52 ∧ 0 < unit then 1 else 2) * twoPow unit := by
  rw [lowerEnd, units]
  split <;> rw [Nat.sub_mul] <;> ring_nf

/-! ## The ends of different numbers -/

/-- In one unit, the upper end is not above the lower end of the next number, and below it if both
mantissas are even. -/
theorem upperEnd_le_of_mantissa_lt (hunit : unit = unit') (hlt : mantissa < mantissa') :
    upperEnd mantissa unit ≤ lowerEnd mantissa' unit' ∧
      (mantissa % 2 = 0 → mantissa' % 2 = 0 →
        upperEnd mantissa unit < lowerEnd mantissa' unit') := by
  subst hunit
  rw [upperEnd_eq, lowerEnd_eq]
  constructor
  · refine Nat.mul_le_mul_right _ ?_
    split <;> omega
  · intro heven heven'
    refine Nat.mul_lt_mul_of_pos_right ?_ twoPow_pos
    split <;> omega

section Canonical

variable (h : CanonicalMantissa mantissa unit) (h' : CanonicalMantissa mantissa' unit')

include h h'

/-- A number in a smaller unit is smaller, since the mantissa in the larger one has 53 bits. -/
theorem units_lt_of_unit_lt (hunit : unit < unit') :
    units mantissa unit < units mantissa' unit' := by
  have hfull : twoPow 52 ≤ mantissa' := h'.2.2.resolve_right (by omega)
  calc units mantissa unit < twoPow 53 * twoPow unit := Nat.mul_lt_mul_of_pos_right h.1 twoPow_pos
    _ ≤ twoPow 52 * twoPow unit' := by
      rw [← twoPow_add, ← twoPow_add]
      exact twoPow_le_twoPow (by omega)
    _ ≤ units mantissa' unit' := Nat.mul_le_mul_right _ hfull

/-- The smaller of two numbers has the smaller unit, or the smaller mantissa in the same unit. -/
theorem unit_lt_or_mantissa_lt (hlt : units mantissa unit < units mantissa' unit') :
    unit < unit' ∨ unit = unit' ∧ mantissa < mantissa' := by
  rcases Nat.lt_trichotomy unit unit' with hunit | rfl | hunit
  · exact .inl hunit
  · exact .inr ⟨rfl, Nat.lt_of_mul_lt_mul_right hlt⟩
  · exact absurd hlt (units_lt_of_unit_lt h' h hunit).not_gt

/-- In a smaller unit, the upper end is not above the lower end of the other number, and below it if
the mantissa is even. -/
theorem upperEnd_le_of_unit_lt (hunit : unit < unit') :
    upperEnd mantissa unit ≤ lowerEnd mantissa' unit' ∧
      (mantissa % 2 = 0 → upperEnd mantissa unit < lowerEnd mantissa' unit') := by
  have hword : twoPow 52 = 4503599627370496 := by decide
  have hfull : twoPow 52 ≤ mantissa' := h'.2.2.resolve_right (by omega)
  have hbits : mantissa < twoPow 53 := h.1
  rw [twoPow_53, hword] at hbits
  rw [hword] at hfull
  have hdouble : 2 * twoPow unit ≤ twoPow unit' := by
    rw [← twoPow_succ]
    exact twoPow_le_twoPow hunit
  have hlower : 18014398509481983 * (2 * twoPow unit) ≤ lowerEnd mantissa' unit' := by
    rw [lowerEnd_eq]
    refine Nat.mul_le_mul ?_ hdouble
    split <;> omega
  have hpos : 0 < twoPow unit := twoPow_pos
  rw [upperEnd_eq]
  constructor
  · calc (4 * mantissa + 2) * twoPow unit ≤ (18014398509481983 * 2) * twoPow unit :=
          Nat.mul_le_mul_right _ (by omega)
      _ ≤ lowerEnd mantissa' unit' := by rwa [Nat.mul_assoc]
  · intro heven
    calc (4 * mantissa + 2) * twoPow unit < (18014398509481983 * 2) * twoPow unit :=
          Nat.mul_lt_mul_of_pos_right (by omega) hpos
      _ ≤ lowerEnd mantissa' unit' := by rwa [Nat.mul_assoc]

/-- What rounds to the smaller of two numbers is less than what rounds to the larger one. -/
theorem RoundsTo.lt (hq : RoundsTo mantissa unit q) (hq' : RoundsTo mantissa' unit' q')
    (hlt : units mantissa unit < units mantissa' unit') : q < q' := by
  have hends : upperEnd mantissa unit ≤ lowerEnd mantissa' unit' ∧
      (mantissa % 2 = 0 → mantissa' % 2 = 0 →
        upperEnd mantissa unit < lowerEnd mantissa' unit') := by
    rcases unit_lt_or_mantissa_lt h h' hlt with hunit | ⟨hunit, hmantissa⟩
    · obtain ⟨hle, heven⟩ := upperEnd_le_of_unit_lt h h' hunit
      exact ⟨hle, fun hm _ => heven hm⟩
    · exact upperEnd_le_of_mantissa_lt hunit hmantissa
  have hle : (upperEnd mantissa unit : ℚ) ≤ lowerEnd mantissa' unit' := Nat.cast_le.2 hends.1
  rcases Nat.mod_two_eq_zero_or_one mantissa with heven | hodd
  · rcases Nat.mod_two_eq_zero_or_one mantissa' with heven' | hodd'
    · have : (upperEnd mantissa unit : ℚ) < lowerEnd mantissa' unit' :=
        Nat.cast_lt.2 (hends.2 heven heven')
      exact hq.upper.trans_lt (this.trans_le hq'.lower)
    · exact (hq.upper.trans hle).trans_lt (hq'.odd hodd').1
  · exact (hq.odd hodd).2.trans_le (hle.trans hq'.lower)

/-- Numbers with the same count of least units are the same. -/
theorem mantissa_eq_of_units_eq (heq : units mantissa unit = units mantissa' unit') :
    mantissa = mantissa' ∧ unit = unit' := by
  rcases Nat.lt_trichotomy unit unit' with hunit | rfl | hunit
  · exact absurd heq (units_lt_of_unit_lt h h' hunit).ne
  · exact ⟨Nat.eq_of_mul_eq_mul_right twoPow_pos heq, rfl⟩
  · exact absurd heq (units_lt_of_unit_lt h' h hunit).ne'

end Canonical

/-! ## The decimal that a number is written with -/

/-- A decimal from the grid has its exponent, and it was found to read back. -/
theorem readsBack_of_onGrid? {p : Nat × Int} (h : onGrid? mantissa unit g = some p) :
    p.2 = g ∧ readsBack mantissa unit p.1 p.2 = true := by
  obtain ⟨nearest, other, hgrid⟩ : ∃ nearest other, onGrid? mantissa unit g =
      if readsBack mantissa unit nearest g then some (nearest, g)
      else if readsBack mantissa unit other g then some (other, g)
      else none := ⟨_, _, rfl⟩
  rw [hgrid] at h
  split at h
  · next hnearest =>
    cases h
    exact ⟨rfl, hnearest⟩
  · split at h
    · next hother =>
      cases h
      exact ⟨rfl, hother⟩
    · cases h

/-- The exact value of a number other than zero rounds to it. -/
theorem roundsTo_exactDecimal (hpos : 0 < mantissa) :
    RoundsTo mantissa unit (decimalValue (exactDecimal mantissa unit) * quartersInOne) := by
  have hexact (n : Nat) : (5 : ℚ) ^ n * 10 ^ (-n : ℤ) * 2 ^ (n + 2) = 4 := by
    have hten : (10 : ℚ) ^ n ≠ 0 := by positivity
    have hpow : (10 : ℚ) ^ n = 5 ^ n * 2 ^ n := by rw [← mul_pow]; norm_num
    rw [zpow_neg, zpow_natCast, pow_add, ← mul_inv_cancel_right₀ hten 4, hpow]
    ring
  have hvalue : decimalValue (exactDecimal mantissa unit) * quartersInOne =
      ((4 * units mantissa unit : Nat) : ℚ) := by
    have hfive : ((Nat.pow 5 leastExponent : Nat) : ℚ) = 5 ^ leastExponent := by
      rw [Nat.pow_eq, Nat.cast_pow]
      rfl
    have htwo : quartersInOne = 2 ^ (leastExponent + 2) := by
      rw [quartersInOne, twoPow, Nat.pow_eq, Nat.cast_pow]
      rfl
    have hunits : decimalValue (exactDecimal mantissa unit) * quartersInOne = units mantissa unit *
        (5 ^ leastExponent * 10 ^ (-leastExponent : ℤ) * 2 ^ (leastExponent + 2)) := by
      rw [decimalValue, exactDecimal, Nat.cast_mul, hfive, htwo]
      ring
    rw [hunits, hexact]
    push_cast
    ring
  have hlower : lowerEnd mantissa unit < 4 * units mantissa unit := by
    rw [lowerEnd_eq, units, ← Nat.mul_assoc]
    refine Nat.mul_lt_mul_of_pos_right ?_ twoPow_pos
    split <;> omega
  have hupper : 4 * units mantissa unit < upperEnd mantissa unit :=
    Nat.lt_add_of_pos_right (Nat.mul_pos (by decide) twoPow_pos)
  rw [hvalue]
  exact ⟨Nat.cast_le.2 hlower.le, Nat.cast_le.2 hupper.le,
    fun _ => ⟨Nat.cast_lt.2 hlower, Nat.cast_lt.2 hupper⟩⟩

/-- Zeros at the end of a coefficient are made up for by the exponent. -/
theorem decimalValue_stripZeros (fuel c : Nat) (g : Int) :
    decimalValue (stripZeros fuel c g) = decimalValue (c, g) := by
  induction fuel generalizing c g with
  | zero => rfl
  | succ fuel ih =>
    rw [stripZeros]
    split
    · next hzero =>
      have hc : (c : ℚ) = (c / 10 : Nat) * 10 := by
        have : c = c / 10 * 10 := by omega
        exact_mod_cast this
      rw [ih, decimalValue, decimalValue, zpow_add_one₀ (by norm_num : (10 : ℚ) ≠ 0), hc]
      ring
    · rfl

/-- A digit behind the point is made up for by the exponent. -/
theorem decimalValue_withPointDigit : decimalValue (withPointDigit c g) = decimalValue (c, g) := by
  rw [withPointDigit]
  split
  · next h =>
    have hten : (10 : ℚ) ≠ 0 := by norm_num
    have hpow : (10 : ℚ) ^ (g.toNat + 1) * 10 ^ (-1 : ℤ) = 10 ^ g := by
      rw [← zpow_natCast, ← zpow_add₀ hten]
      congr 1
      omega
    rw [decimalValue, decimalValue, Nat.cast_mul, cast_tenPow, mul_assoc, hpow]
  · rfl

/-- The decimal of a number other than zero rounds to it. -/
theorem roundsTo_digits (hpos : 0 < mantissa) :
    RoundsTo mantissa unit (decimalValue (digits mantissa unit) * quartersInOne) := by
  rw [digits, decimalValue_stripZeros]
  cases hgrid : (List.range 17).findSome?
      fun n : Nat => onGrid? mantissa unit (leadExponent mantissa unit - (n : Int)) with
  | none => exact roundsTo_exactDecimal hpos
  | some p =>
    obtain ⟨n, -, hn⟩ := List.exists_of_findSome?_eq_some hgrid
    exact readsBack_iff.1 (readsBack_of_onGrid? hn).2

/-- The coefficient and exponent that the text of a number shows. -/
def shown (mantissa unit : Nat) : Nat × Int :=
  let p := if mantissa = 0 then (0, 0) else digits mantissa unit
  withPointDigit p.1 p.2

theorem toDecimal_finite {negative : Bool} (h : CanonicalMantissa mantissa unit) :
    (finite negative mantissa unit h).toDecimal =
      .finite negative (shown mantissa unit).1 (shown mantissa unit).2 := rfl

/-- What the text of a number shows rounds to the number. -/
theorem roundsTo_shown (mantissa unit : Nat) :
    RoundsTo mantissa unit (decimalValue (shown mantissa unit) * quartersInOne) := by
  rw [shown, decimalValue_withPointDigit]
  split
  · next hzero =>
    rw [hzero]
    refine ⟨?_, ?_, fun hodd => by omega⟩
    · simp [decimalValue, lowerEnd, units]
    · simp [decimalValue]
  · next hpos => exact roundsTo_digits (Nat.pos_of_ne_zero hpos)

/-! ## Shortest decimals in order -/

/-- The decimals of two numbers are in the order of the numbers. -/
theorem cmp_shown (h : CanonicalMantissa mantissa unit) (h' : CanonicalMantissa mantissa' unit') :
    cmp (decimalValue (shown mantissa unit)) (decimalValue (shown mantissa' unit')) =
      cmp (units mantissa unit) (units mantissa' unit') := by
  have hlt {m u m' u' : Nat} (h : CanonicalMantissa m u) (h' : CanonicalMantissa m' u')
      (hlt : units m u < units m' u') : decimalValue (shown m u) < decimalValue (shown m' u') :=
    lt_of_mul_lt_mul_right (RoundsTo.lt h h' (roundsTo_shown m u) (roundsTo_shown m' u') hlt)
      quartersInOne_pos.le
  rcases Nat.lt_trichotomy (units mantissa unit) (units mantissa' unit') with
    hunits | hunits | hunits
  · rw [(cmp_eq_lt_iff _ _).2 hunits, (cmp_eq_lt_iff _ _).2 (hlt h h' hunits)]
  · obtain ⟨rfl, rfl⟩ := mantissa_eq_of_units_eq h h' hunits
    rw [cmp_self_eq_eq, cmp_self_eq_eq]
  · rw [(cmp_eq_gt_iff _ _).2 hunits, (cmp_eq_gt_iff _ _).2 (hlt h' h hunits)]

/-- The decimal of a number stands to zero as the number does. -/
theorem cmp_zero_shown (h : CanonicalMantissa mantissa unit) :
    cmp 0 (decimalValue (shown mantissa unit)) = cmp 0 (units mantissa unit) := by
  have hzero : decimalValue (shown 0 0) = 0 := by
    rw [shown, decimalValue_withPointDigit]
    simp [decimalValue]
  have hunits : units 0 0 = 0 := Nat.zero_mul _
  rw [← hzero, ← hunits]
  exact cmp_shown (by decide) h

/-- A number and its negation, as the sign says. -/
def withSign {α : Type} [Neg α] (negative : Bool) (a : α) : α := if negative then -a else a

section Signs

variable {a b : Nat} {p q : ℚ} (ha : cmp 0 p = cmp 0 a) (hb : cmp 0 q = cmp 0 b)

include ha hb

/-- A number compares with a negated one by which of them are zero. -/
theorem cmp_neg_of_cmp_zero : cmp p (-q) = cmp (a : ℤ) (-b) := by
  have hsign {r : ℚ} {c : Nat} (h : cmp 0 r = cmp 0 c) : r = 0 ∧ c = 0 ∨ 0 < r ∧ 0 < c := by
    rcases Nat.eq_zero_or_pos c with rfl | hc
    · rw [cmp_self_eq_eq, cmp_eq_eq_iff] at h
      exact .inl ⟨h.symm, rfl⟩
    · rw [(cmp_eq_lt_iff _ _).2 hc, cmp_eq_lt_iff] at h
      exact .inr ⟨h, hc⟩
  rcases hsign ha with ⟨rfl, rfl⟩ | ⟨hp, ha⟩
  · rcases hsign hb with ⟨rfl, rfl⟩ | ⟨hq, hb⟩
    · rw [neg_zero, Nat.cast_zero, neg_zero, cmp_self_eq_eq, cmp_self_eq_eq]
    · have hneg : (-b : ℤ) < (0 : Nat) := by omega
      rw [(cmp_eq_gt_iff _ _).2 (neg_lt_zero.2 hq), (cmp_eq_gt_iff _ _).2 hneg]
  · have hq : 0 ≤ q := by
      rcases hsign hb with ⟨rfl, -⟩ | ⟨hq, -⟩
      · exact le_refl 0
      · exact hq.le
    have hneg : (-b : ℤ) < a := by omega
    rw [(cmp_eq_gt_iff _ _).2 ((neg_nonpos.2 hq).trans_lt hp), (cmp_eq_gt_iff _ _).2 hneg]

/-- Numbers in the order of natural numbers are so with signs. -/
theorem cmp_withSign (hab : cmp p q = cmp a b) (negative negative' : Bool) :
    cmp (withSign negative p) (withSign negative' q) =
      cmp (withSign negative (a : ℤ)) (withSign negative' (b : ℤ)) := by
  have hcast : cmp (a : ℤ) b = cmp a b := (Nat.strictMono_cast (α := ℤ)).cmp_map_eq a b
  cases negative with
  | false =>
    cases negative' with
    | false => exact hab.trans hcast.symm
    | true => exact cmp_neg_of_cmp_zero ha hb
  | true =>
    cases negative' with
    | false =>
      show cmp (-p) q = cmp (-a : ℤ) b
      rw [← cmp_swap, cmp_neg_of_cmp_zero hb ha, cmp_swap]
    | true =>
      have hneg : StrictAnti (Neg.neg : ℚ → ℚ) := fun _ _ => neg_lt_neg
      have hneg' : StrictAnti (Neg.neg : ℤ → ℤ) := fun _ _ => neg_lt_neg
      exact (hneg.cmp_map_eq p q).trans (((cmp_swap p q).symm.trans
        ((congrArg Ordering.swap (hab.trans hcast.symm)).trans (cmp_swap (a : ℤ) b))).trans
          (hneg'.cmp_map_eq (a : ℤ) b).symm)

end Signs

/-- A finite number and its decimal as rational numbers. -/
theorem exists_value_finite (negative : Bool) (h : CanonicalMantissa mantissa unit) :
    ∃ s s' : Scaled, (finite negative mantissa unit h).value? = some (.finite s) ∧
      (finite negative mantissa unit h).toDecimal.value? = some (.finite s') ∧
      s.toRat = (withSign negative (units mantissa unit : ℤ) : ℤ) / (twoPow leastExponent : Nat) ∧
      s'.toRat = withSign negative (decimalValue (shown mantissa unit)) := by
  refine ⟨_, _, rfl, congrArg Decimal.value? (toDecimal_finite h), ?_, ?_⟩
  · rw [Scaled.toRat, Rat.mkRat_eq_div, zpow_zero, mul_one]
    rfl
  · rw [Scaled.toRat]
    cases negative with
    | false => simp [withSign, decimalValue]
    | true => simp [withSign, decimalValue]

/-- Numbers are in the order of what their texts show, the infinities at the ends. -/
theorem compare_toDecimal {x y : Binary64} {m m' n n' : Extended} (hx : x.value? = some m)
    (hy : y.value? = some n) (hx' : x.toDecimal.value? = some m')
    (hy' : y.toDecimal.value? = some n') : m'.compare n' = m.compare n := by
  cases x with
  | nan => cases hx
  | infinity negative =>
    cases hx.symm.trans hx'
    cases y with
    | nan => cases hy
    | infinity negative' =>
      cases hy.symm.trans hy'
      rfl
    | finite negative' mantissa' unit' h' =>
      obtain ⟨s, s', hs, hs', -, -⟩ := exists_value_finite negative' h'
      cases hs.symm.trans hy
      cases hs'.symm.trans hy'
      cases hx
      cases negative <;> rfl
  | finite negative mantissa unit h =>
    obtain ⟨s, s', hs, hs', hvalue, hvalue'⟩ := exists_value_finite negative h
    cases hs.symm.trans hx
    cases hs'.symm.trans hx'
    cases y with
    | nan => cases hy
    | infinity negative' =>
      cases hy.symm.trans hy'
      cases hy
      cases negative' <;> rfl
    | finite negative' mantissa' unit' h' =>
      obtain ⟨t, t', ht, ht', hother, hother'⟩ := exists_value_finite negative' h'
      cases ht.symm.trans hy
      cases ht'.symm.trans hy'
      have hpos : (0 : ℚ) < (twoPow leastExponent : Nat) := Nat.cast_pos.2 twoPow_pos
      have hdiv : StrictMono fun q : ℚ => q / (twoPow leastExponent : Nat) :=
        fun _ _ hlt => div_lt_div_of_pos_right hlt hpos
      rw [Extended.compare, Extended.compare, Scaled.compare_eq_cmp, Scaled.compare_eq_cmp, hvalue,
        hvalue', hother, hother', hdiv.cmp_map_eq, Int.cast_strictMono.cmp_map_eq]
      exact cmp_withSign (cmp_zero_shown h) (cmp_zero_shown h') (cmp_shown h h') _ _

end Binary64

end RecordQuery.Number
