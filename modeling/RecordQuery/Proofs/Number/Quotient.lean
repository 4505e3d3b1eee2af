import Mathlib.Tactic.Ring
import RecordQuery.Number.Binary64

/-!
# Quotients as floating-point numbers

A quotient is rounded to a whole number of units, of which it has 53 binary digits
(`Number.le_unitOf`, `Number.unitOf_le`). Which whole numbers are below the floating-point number
nearest to it can be said without rounding it: those for which the quotient lies above the middle
of the two floating-point numbers around them, or in the middle if the upper one is even
(`Number.lt_nearestUnits_iff`). For a whole number `p` with a product `p * d` below `2 ^ 53` this is
the same as `p * d < n` (`Number.roundsAbove_iff_lt`).
-/

namespace RecordQuery

namespace Number

open Binary64

variable {n d k m e p y : Nat} {negative : Bool}

/-! ## Rounding to a whole number -/

/-- A quotient is rounded to more than a whole number if it lies more than one half above it, or one
half above an odd one. -/
theorem lt_roundHalfEven_iff (hd : 0 < d) : k < roundHalfEven n d ↔
    (2 * k + 1) * d < 2 * n ∨ (2 * k + 1) * d = 2 * n ∧ k % 2 = 1 := by
  have hn : n = n / d * d + n % d := (Nat.div_add_mod' n d).symm
  have hrest : n % d < d := Nat.mod_lt n hd
  have hhalf : (2 * k + 1) * d = 2 * (k * d) + d := by ring
  have hbounds : n / d ≤ roundHalfEven n d ∧ roundHalfEven n d ≤ n / d + 1 := by
    unfold roundHalfEven
    dsimp only
    split
    · omega
    · omega
    · split <;> omega
  rcases Nat.lt_trichotomy k (n / d) with hlt | hk | hgt
  · have hle : k * d + d ≤ n / d * d := by
      rw [← Nat.succ_mul]
      exact Nat.mul_le_mul_right d hlt
    exact iff_of_true (by omega) (.inl (by omega))
  · -- the half that is left decides
    rw [← hk] at hn
    rw [hhalf, roundHalfEven, ← hk]
    split
    · next h =>
      have := Nat.compare_eq_lt.1 h
      omega
    · next h =>
      have := Nat.compare_eq_gt.1 h
      omega
    · next h =>
      have := Nat.compare_eq_eq.1 h
      split <;> omega
  · have hle : n / d * d + d ≤ k * d := by
      rw [← Nat.succ_mul]
      exact Nat.mul_le_mul_right d hgt
    exact iff_of_false (by omega) (by omega)

theorem roundHalfEven_le (hd : 0 < d) (h : n ≤ k * d) : roundHalfEven n d ≤ k := by
  have hhalf : (2 * k + 1) * d = 2 * (k * d) + d := by ring
  rw [← Nat.not_lt, lt_roundHalfEven_iff hd, hhalf]
  omega

theorem le_roundHalfEven (hd : 0 < d) (h : k * d ≤ n) : k ≤ roundHalfEven n d := by
  cases k with
  | zero => exact Nat.zero_le _
  | succ k =>
    have hhalf : (2 * k + 1) * d = 2 * (k * d) + d := by ring
    have hsucc : (k + 1) * d = k * d + d := Nat.succ_mul k d
    exact (lt_roundHalfEven_iff hd).2 (.inl (by omega))

/-! ## The unit of a quotient -/

theorem twoPow_pos : 0 < twoPow k := Nat.pow_pos (by decide)

theorem twoPow_add : twoPow (n + k) = twoPow n * twoPow k := Nat.pow_add 2 n k

theorem twoPow_succ : twoPow (k + 1) = 2 * twoPow k := Nat.pow_succ'

theorem twoPow_lt_twoPow_iff : twoPow n < twoPow k ↔ n < k := Nat.pow_lt_pow_iff_right (by decide)

theorem twoPow_53 : twoPow 53 = 2 * twoPow 52 := twoPow_succ

theorem twoPow_le_twoPow (h : n ≤ k) : twoPow n ≤ twoPow k := Nat.pow_le_pow_right (by decide) h

/-- In its unit a quotient has at most 53 bits. -/
theorem le_unitOf (hd : 0 < d) : n ≤ twoPow 53 * (d * twoPow (unitOf n d)) := by
  have hwhole : n / d < twoPow 53 * twoPow (unitOf n d) := by
    rw [← twoPow_add, unitOf]
    split
    · next h => exact h ▸ twoPow_pos
    · next h => exact (Nat.log2_lt h).1 (by omega)
  have := (Nat.div_lt_iff_lt_mul hd).1 hwhole
  rw [Nat.mul_assoc, Nat.mul_comm (twoPow (unitOf n d))] at this
  exact this.le

/-- In its unit a quotient has 53 bits, unless the unit is the least one. -/
theorem unitOf_le (h : unitOf n d ≠ 0) : twoPow 52 * (d * twoPow (unitOf n d)) ≤ n := by
  have hzero : n / d ≠ 0 := by
    intro hzero
    exact h (by rw [unitOf, hzero]; rfl)
  have hlog : 52 + unitOf n d = (n / d).log2 := by
    rw [unitOf] at h ⊢
    simp only [hzero, if_false] at h ⊢
    omega
  have hpow : twoPow 52 * twoPow (unitOf n d) ≤ n / d := by
    rw [← twoPow_add, hlog]
    exact Nat.log2_self_le hzero
  calc twoPow 52 * (d * twoPow (unitOf n d)) = d * (twoPow 52 * twoPow (unitOf n d)) := by ring
    _ ≤ d * (n / d) := Nat.mul_le_mul_left d hpow
    _ ≤ n := Nat.mul_div_le n d

/-! ## The number nearest to a quotient -/

/-- The unit of the number nearest to `n / d`. -/
def nearestUnit (n d : Nat) : Nat := unitOf (n * twoPow leastExponent) d

/-- The quotient `n / d` in this unit, rounded to a whole number. -/
def nearestMantissa (n d : Nat) : Nat :=
  roundHalfEven (n * twoPow leastExponent) (d * twoPow (nearestUnit n d))

/-- The count of least units in the number nearest to `n / d`. -/
def nearestUnits (n d : Nat) : Nat := nearestMantissa n d * twoPow (nearestUnit n d)

theorem nearestMantissa_le (hd : 0 < d) : nearestMantissa n d ≤ twoPow 53 :=
  roundHalfEven_le (Nat.mul_pos hd twoPow_pos) (le_unitOf hd)

theorem le_nearestMantissa (hd : 0 < d) (h : nearestUnit n d ≠ 0) :
    twoPow 52 ≤ nearestMantissa n d :=
  le_roundHalfEven (Nat.mul_pos hd twoPow_pos) (unitOf_le h)

/-- Beyond this count of least units there is no floating-point number. -/
def maxUnits : Nat := twoPow 53 * twoPow 2045

theorem Binary64.ofRatio_eq : ofRatio negative n d =
    if nearestMantissa n d = twoPow 53 then make negative (twoPow 52) (nearestUnit n d + 1)
    else make negative (nearestMantissa n d) (nearestUnit n d) := rfl

/-- A quotient that is rounded to a floating-point number within range is finite. -/
theorem Binary64.ofRatio_eq_finite (negative : Bool) (hd : 0 < d)
    (h : nearestUnits n d < maxUnits) :
    ∃ mantissa unit canonical, ofRatio negative n d = .finite negative mantissa unit canonical ∧
      units mantissa unit = nearestUnits n d := by
  rw [ofRatio_eq]
  split
  · next hmax =>
    have hunit : nearestUnit n d + 1 ≤ 2045 := by
      rw [nearestUnits, hmax, maxUnits, Nat.mul_lt_mul_left twoPow_pos, twoPow_lt_twoPow_iff] at h
      exact h
    have hcanonical : CanonicalMantissa (twoPow 52) (nearestUnit n d + 1) :=
      ⟨by decide, hunit, .inl (Nat.le_refl _)⟩
    refine ⟨_, _, hcanonical, dif_pos hcanonical, ?_⟩
    rw [units, nearestUnits, hmax, Nat.add_comm, twoPow_add, ← Nat.mul_assoc]
    rfl
  · next hmax =>
    have hcanonical : CanonicalMantissa (nearestMantissa n d) (nearestUnit n d) := by
      refine ⟨Nat.lt_of_le_of_ne (nearestMantissa_le hd) hmax, ?_, ?_⟩
      · by_contra hunit
        have hle : twoPow 53 * twoPow 2045 ≤ twoPow 52 * twoPow (nearestUnit n d) := by
          rw [← twoPow_add, ← twoPow_add]
          exact twoPow_le_twoPow (by omega)
        refine absurd h (Nat.not_lt.2 (hle.trans (Nat.mul_le_mul_right _ ?_)))
        exact le_nearestMantissa hd (by omega)
      · by_cases hzero : nearestUnit n d = 0
        · exact .inr hzero
        · exact .inl (le_nearestMantissa hd hzero)
    exact ⟨_, _, hcanonical, dif_pos hcanonical, rfl⟩

/-- A quotient that is rounded to more is infinite. -/
theorem Binary64.ofRatio_eq_infinity (h : maxUnits ≤ nearestUnits n d) :
    ofRatio negative n d = .infinity negative := by
  rw [ofRatio_eq]
  split
  · next hmax =>
    refine dif_neg fun hcanonical => absurd h (Nat.not_le.2 ?_)
    have hunit : nearestUnit n d + 1 ≤ 2045 := hcanonical.2.1
    rw [nearestUnits, hmax, maxUnits, Nat.mul_lt_mul_left twoPow_pos, twoPow_lt_twoPow_iff]
    exact hunit
  · next hmax =>
    refine dif_neg fun hcanonical => absurd h (Nat.not_le.2 ?_)
    calc nearestUnits n d < twoPow 53 * twoPow (nearestUnit n d) :=
          Nat.mul_lt_mul_of_pos_right hcanonical.1 twoPow_pos
      _ ≤ maxUnits := Nat.mul_le_mul_left _ (twoPow_le_twoPow hcanonical.2.1)

/-! ## Numbers below a rounded quotient -/

/-- Between two neighbours with 53 bits or in the least unit, the numbers from the lower one on are
below the rounded quotient if the quotient, rounded in the unit of the two, is more than the lower
one. -/
theorem lt_nearestUnits_iff_lt_round (hd : 0 < d) (hm : twoPow 52 ≤ m ∨ e = 0) (hm' : m < twoPow 53)
    (hy : m * twoPow e ≤ y) (hy' : y < (m + 1) * twoPow e) :
    y < nearestUnits n d ↔ m < roundHalfEven (n * twoPow leastExponent) (d * twoPow e) := by
  have hpos : 0 < d * twoPow e := Nat.mul_pos hd twoPow_pos
  rcases Nat.lt_trichotomy (nearestUnit n d) e with hunit | rfl | hunit
  · -- all bits of the quotient are below the 53 of the neighbours
    have hscale : twoPow 53 * twoPow (nearestUnit n d) ≤ m * twoPow e := by
      calc twoPow 53 * twoPow (nearestUnit n d) ≤ twoPow 52 * twoPow e := by
            rw [← twoPow_add, ← twoPow_add]
            exact twoPow_le_twoPow (by omega)
        _ ≤ m * twoPow e := Nat.mul_le_mul_right _ (hm.resolve_right (by omega))
    have hunits : nearestUnits n d ≤ m * twoPow e :=
      (Nat.mul_le_mul_right _ (nearestMantissa_le hd)).trans hscale
    have hround : roundHalfEven (n * twoPow leastExponent) (d * twoPow e) ≤ m := by
      refine roundHalfEven_le hpos ?_
      calc n * twoPow leastExponent ≤ twoPow 53 * (d * twoPow (nearestUnit n d)) := le_unitOf hd
        _ = d * (twoPow 53 * twoPow (nearestUnit n d)) := by ring
        _ ≤ d * (m * twoPow e) := Nat.mul_le_mul_left d hscale
        _ = m * (d * twoPow e) := by ring
    exact iff_of_false (by omega) (by omega)
  · rw [nearestUnits, nearestMantissa]
    constructor
    · intro h
      exact Nat.lt_of_mul_lt_mul_right (Nat.lt_of_le_of_lt hy h)
    · intro h
      exact Nat.lt_of_lt_of_le hy' (Nat.mul_le_mul_right _ h)
  · -- all bits of the neighbours are below the 53 of the quotient
    have hzero : nearestUnit n d ≠ 0 := by omega
    have hscale : twoPow 53 * twoPow e ≤ twoPow 52 * twoPow (nearestUnit n d) := by
      rw [← twoPow_add, ← twoPow_add]
      exact twoPow_le_twoPow (by omega)
    have hunits : (m + 1) * twoPow e ≤ nearestUnits n d := by
      calc (m + 1) * twoPow e ≤ twoPow 53 * twoPow e := Nat.mul_le_mul_right _ hm'
        _ ≤ twoPow 52 * twoPow (nearestUnit n d) := hscale
        _ ≤ nearestUnits n d := Nat.mul_le_mul_right _ (le_nearestMantissa hd hzero)
    have hround : twoPow 53 ≤ roundHalfEven (n * twoPow leastExponent) (d * twoPow e) := by
      refine le_roundHalfEven hpos ?_
      calc twoPow 53 * (d * twoPow e) = d * (twoPow 53 * twoPow e) := by ring
        _ ≤ d * (twoPow 52 * twoPow (nearestUnit n d)) := Nat.mul_le_mul_left d hscale
        _ = twoPow 52 * (d * twoPow (nearestUnit n d)) := by ring
        _ ≤ n * twoPow leastExponent := unitOf_le hzero
    exact iff_of_true (by omega) (by omega)

/-- The first 53 binary digits of a whole number, with zeros behind them if it has fewer. -/
def leading (p : Nat) : Nat := p * twoPow 52 / twoPow p.log2

/-- The quotient `n / d` lies above the middle of the floating-point numbers around the whole number
`p`, from `p` on or the last one below it to the next one above it, or it is the middle, and the
upper one of them is even. -/
def RoundsAbove (n d p : Nat) : Prop :=
  (2 * leading p + 1) * twoPow p.log2 * d < twoPow 53 * n ∨
    (2 * leading p + 1) * twoPow p.log2 * d = twoPow 53 * n ∧ leading p % 2 = 1

instance (n d p : Nat) : Decidable (RoundsAbove n d p) := inferInstanceAs (Decidable (_ ∨ _ ∧ _))

theorem leading_le : leading p * twoPow p.log2 ≤ p * twoPow 52 := Nat.div_mul_le_self _ _

theorem lt_leading : p * twoPow 52 < (leading p + 1) * twoPow p.log2 := by
  rw [leading, ← Nat.div_lt_iff_lt_mul twoPow_pos]
  exact Nat.lt_succ_self _

/-- The digits of a whole number with no more than 53 are all leading ones. -/
theorem leading_mul_eq (h : p.log2 ≤ 52) : leading p * twoPow p.log2 = p * twoPow 52 := by
  rw [leading, Nat.div_mul_cancel]
  exact (Nat.pow_dvd_pow 2 h).mul_left p

theorem twoPow_log2_le (hp : 0 < p) : twoPow p.log2 ≤ p := Nat.log2_self_le (by omega)

theorem le_leading (hp : 0 < p) : twoPow 52 ≤ leading p := by
  rw [leading, Nat.le_div_iff_mul_le twoPow_pos, Nat.mul_comm]
  exact Nat.mul_le_mul_right _ (twoPow_log2_le hp)

theorem leading_lt : leading p < twoPow 53 := by
  have hlog : p < twoPow (p.log2 + 1) := Nat.lt_log2_self
  rw [leading, Nat.div_lt_iff_lt_mul twoPow_pos]
  calc p * twoPow 52 < twoPow (p.log2 + 1) * twoPow 52 :=
        Nat.mul_lt_mul_of_pos_right hlog twoPow_pos
    _ = twoPow 53 * twoPow p.log2 := by
        rw [← twoPow_add, ← twoPow_add]
        congr 1
        omega

/-- Of the whole numbers from one on, those are below the floating-point number nearest to a
quotient above which the quotient is rounded. -/
theorem lt_nearestUnits_iff (hd : 0 < d) (hp : 0 < p) :
    p * twoPow leastExponent < nearestUnits n d ↔ RoundsAbove n d p := by
  have hleast : twoPow leastExponent = twoPow 52 * twoPow 1022 := by rw [← twoPow_add, leastExponent]
  have hunit : twoPow (p.log2 + 1022) = twoPow p.log2 * twoPow 1022 := twoPow_add
  have hpos : 0 < twoPow 1022 := twoPow_pos
  have hlower : leading p * twoPow (p.log2 + 1022) ≤ p * twoPow leastExponent := by
    rw [hleast, hunit, ← Nat.mul_assoc, ← Nat.mul_assoc]
    exact Nat.mul_le_mul_right _ leading_le
  have hupper : p * twoPow leastExponent < (leading p + 1) * twoPow (p.log2 + 1022) := by
    rw [hleast, hunit, ← Nat.mul_assoc, ← Nat.mul_assoc]
    exact Nat.mul_lt_mul_of_pos_right lt_leading hpos
  have hleft : (2 * leading p + 1) * (d * twoPow (p.log2 + 1022)) =
      (2 * leading p + 1) * twoPow p.log2 * d * twoPow 1022 := by
    rw [hunit]
    ring
  have hright : 2 * (n * twoPow leastExponent) = twoPow 53 * n * twoPow 1022 := by
    rw [hleast, twoPow_53]
    ring
  rw [lt_nearestUnits_iff_lt_round hd (.inl (le_leading hp)) leading_lt hlower hupper,
    lt_roundHalfEven_iff (Nat.mul_pos hd twoPow_pos), hleft, hright,
    Nat.mul_lt_mul_right hpos, Nat.mul_left_inj hpos.ne', RoundsAbove]

/-- The middle of the largest floating-point number and `2 ^ 1024`. -/
def quotientLimit : Nat := (twoPow 54 - 1) * twoPow 970

/-- A quotient is rounded to more than the largest floating-point number exactly if it is not below
the limit. -/
theorem maxUnits_le_nearestUnits_iff (hd : 0 < d) :
    maxUnits ≤ nearestUnits n d ↔ quotientLimit * d ≤ n := by
  have hpos : 0 < twoPow 1075 := twoPow_pos
  have hmax : maxUnits = (twoPow 53 - 1 + 1) * twoPow 2045 := by
    rw [maxUnits, Nat.sub_add_cancel twoPow_pos]
  have hodd : (twoPow 53 - 1) % 2 = 1 := by decide
  have hlower : (twoPow 53 - 1) * twoPow 2045 ≤ maxUnits - 1 := by
    have : (twoPow 53 - 1) * twoPow 2045 < maxUnits :=
      Nat.mul_lt_mul_of_pos_right (by decide) twoPow_pos
    omega
  have hupper : maxUnits - 1 < (twoPow 53 - 1 + 1) * twoPow 2045 := by
    rw [← hmax]
    exact Nat.sub_lt (Nat.mul_pos twoPow_pos twoPow_pos) Nat.one_pos
  have hlt : maxUnits ≤ nearestUnits n d ↔ maxUnits - 1 < nearestUnits n d := by
    have : 0 < maxUnits := Nat.mul_pos twoPow_pos twoPow_pos
    omega
  have hunit : twoPow 2045 = twoPow 970 * twoPow 1075 := by rw [← twoPow_add]
  have hleft : (2 * (twoPow 53 - 1) + 1) * (d * twoPow 2045) =
      quotientLimit * d * twoPow 1075 := by
    have htwice : 2 * (twoPow 53 - 1) + 1 = twoPow 54 - 1 := by decide
    rw [htwice, hunit, quotientLimit]
    ring
  have hright : 2 * (n * twoPow leastExponent) = n * twoPow 1075 := by
    rw [twoPow_succ (k := 1074), leastExponent]
    ring
  rw [hlt, lt_nearestUnits_iff_lt_round hd (.inl (by decide)) (by decide) hlower hupper,
    lt_roundHalfEven_iff (Nat.mul_pos hd twoPow_pos), hleft, hright, Nat.mul_lt_mul_right hpos,
    Nat.mul_left_inj hpos.ne', Nat.le_iff_lt_or_eq]
  exact or_congr_right (and_iff_left hodd)

/-- A quotient is rounded above the whole numbers below it, if these times the divisor or the
dividend are not beyond 53 bits. -/
theorem roundsAbove_iff_lt (hd : 0 < d) (hp : 0 < p) (h : p * d < twoPow 53 ∨ n ≤ twoPow 53) :
    RoundsAbove n d p ↔ p * d < n := by
  have hword : twoPow 53 = 9007199254740992 := by decide
  rw [RoundsAbove]
  rcases Nat.lt_or_ge 52 p.log2 with hlog | hlog
  · -- both the product and the middle are too large
    have hpow : twoPow 53 ≤ twoPow p.log2 := twoPow_le_twoPow hlog
    have hproduct : twoPow 53 ≤ p * d :=
      (hpow.trans (twoPow_log2_le hp)).trans (Nat.le_mul_of_pos_right p hd)
    have hmiddle : (twoPow 53 + 1) * twoPow 53 ≤ (2 * leading p + 1) * twoPow p.log2 * d := by
      refine (Nat.mul_le_mul ?_ hpow).trans (Nat.le_mul_of_pos_right _ hd)
      have := le_leading hp
      rw [twoPow_53]
      omega
    rw [hword] at h hproduct hmiddle ⊢
    exact iff_of_false (by omega) (by omega)
  · have hmiddle : (2 * leading p + 1) * twoPow p.log2 * d =
        twoPow 53 * (p * d) + twoPow p.log2 * d := by
      calc (2 * leading p + 1) * twoPow p.log2 * d
          = 2 * (leading p * twoPow p.log2) * d + twoPow p.log2 * d := by ring
        _ = 2 * (p * twoPow 52) * d + twoPow p.log2 * d := by rw [leading_mul_eq hlog]
        _ = twoPow 53 * (p * d) + twoPow p.log2 * d := by rw [twoPow_53]; ring
    have hstep : twoPow p.log2 * d ≤ p * d := Nat.mul_le_mul_right d (twoPow_log2_le hp)
    have hpos : 0 < twoPow p.log2 * d := Nat.mul_pos twoPow_pos hd
    rw [hword] at h hmiddle ⊢
    omega

end Number

end RecordQuery
