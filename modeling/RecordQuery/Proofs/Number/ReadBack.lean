import RecordQuery.Proofs.Number.FloatText

/-!
# Floating-point numbers read back from their texts

A quotient that rounds to a floating-point number has that number for its nearest one
(`Binary64.ofRatio_of_roundsTo`), and the exponents for which no power of ten is written out are
rounded no other way (`Binary64.ofDecimal_eq`). So the text of a number is read as the number itself
(`Binary64.binary64?_text`).
-/

namespace RecordQuery.Number

variable {mantissa unit n d c : Nat} {g : Int} {negative : Bool}

namespace Binary64

/-! ## The nearest number -/

/-- The ends of the numbers that round to a floating-point number, around a quotient between
them. -/
theorem RoundsTo.bounds (hd : 0 < d) (h : RoundsTo mantissa unit ((n : ℚ) / d * quartersInOne)) :
    lowerEnd mantissa unit * d ≤ 4 * (n * twoPow leastExponent) ∧
      4 * (n * twoPow leastExponent) ≤ upperEnd mantissa unit * d ∧
      (mantissa % 2 = 1 → lowerEnd mantissa unit * d < 4 * (n * twoPow leastExponent) ∧
        4 * (n * twoPow leastExponent) < upperEnd mantissa unit * d) := by
  have hd' : (0 : ℚ) < d := Nat.cast_pos.2 hd
  have hquarters : (n : ℚ) / d * quartersInOne * d =
      ((4 * (n * twoPow leastExponent) : Nat) : ℚ) := by
    rw [quartersInOne, twoPow_add, Nat.mul_comm (twoPow leastExponent)]
    push_cast
    rw [mul_right_comm, div_mul_cancel₀ _ hd'.ne']
    have hfour : ((twoPow 2 : Nat) : ℚ) = 4 := by norm_num [twoPow]
    rw [hfour]
    ring
  have hle {a : Nat} : (a : ℚ) ≤ (n : ℚ) / d * quartersInOne ↔
      a * d ≤ 4 * (n * twoPow leastExponent) := by
    rw [← mul_le_mul_iff_left₀ hd', hquarters, ← Nat.cast_mul, Nat.cast_le]
  have hge {a : Nat} : (n : ℚ) / d * quartersInOne ≤ a ↔
      4 * (n * twoPow leastExponent) ≤ a * d := by
    rw [← mul_le_mul_iff_left₀ hd', hquarters, ← Nat.cast_mul, Nat.cast_le]
  refine ⟨hle.1 h.lower, hge.1 h.upper, fun hodd => ⟨?_, ?_⟩⟩
  · rw [← Nat.not_le, ← hge, not_le]
    exact (h.odd hodd).1
  · rw [← Nat.not_le, ← hle, not_le]
    exact (h.odd hodd).2

/-- The number below another one. The lower end of the upper one is the middle of the two, and of
their mantissas one is even. -/
theorem exists_below (h : CanonicalMantissa mantissa unit) (hpos : 0 < mantissa) :
    ∃ m e, (twoPow 52 ≤ m ∨ e = 0) ∧ m < twoPow 53 ∧
      units mantissa unit = (m + 1) * twoPow e ∧
      lowerEnd mantissa unit = 2 * ((2 * m + 1) * twoPow e) ∧
      (m % 2 = 1 ↔ mantissa % 2 = 0) := by
  rw [lowerEnd_eq, units]
  split
  · next hleast =>
    -- the unit of the number below is half as large
    obtain ⟨rfl, hunit⟩ := hleast
    obtain ⟨e, rfl⟩ := Nat.exists_eq_add_one.2 hunit
    have hsucc : twoPow (e + 1) = 2 * twoPow e := twoPow_succ
    have hword : twoPow 52 = 4503599627370496 := by decide
    have hword' : twoPow 53 = 9007199254740992 := by decide
    rw [hsucc, hword]
    refine ⟨9007199254740991, e, ?_⟩
    omega
  · next hleast =>
    obtain ⟨m, rfl⟩ := Nat.exists_eq_add_one.2 hpos
    have hfour : 4 * (m + 1) - 2 = 2 * (2 * m + 1) := by omega
    have hbits := h.1
    have hfull := h.2.2
    refine ⟨m, unit, by omega, by omega, rfl, by rw [hfour]; ring, by omega⟩

/-- A quotient that rounds to a number has as many least units when it is rounded. -/
theorem nearestUnits_eq (hd : 0 < d) (h : CanonicalMantissa mantissa unit)
    (hrounds : RoundsTo mantissa unit ((n : ℚ) / d * quartersInOne)) :
    nearestUnits n d = units mantissa unit := by
  obtain ⟨hlower, hupper, hodd⟩ := hrounds.bounds hd
  have hdpos (e : Nat) : 0 < d * twoPow e := Nat.mul_pos hd twoPow_pos
  refine Nat.le_antisymm ?_ ?_
  · have hmiddle : upperEnd mantissa unit * d = 2 * ((2 * mantissa + 1) * (d * twoPow unit)) := by
      rw [upperEnd_eq]
      ring
    have hself : mantissa * twoPow unit ≤ units mantissa unit := Nat.le_refl _
    have hnext : units mantissa unit < (mantissa + 1) * twoPow unit :=
      Nat.mul_lt_mul_of_pos_right (Nat.lt_succ_self _) twoPow_pos
    rw [← Nat.not_lt, lt_nearestUnits_iff_lt_round hd h.2.2 h.1 hself hnext,
      lt_roundHalfEven_iff (hdpos unit)]
    omega
  · rcases Nat.eq_zero_or_pos mantissa with rfl | hpos
    · rw [units, Nat.zero_mul]
      exact Nat.zero_le _
    · obtain ⟨m, e, hm, hm', hunits, hend, heven⟩ := exists_below h hpos
      have hmiddle : lowerEnd mantissa unit * d = 2 * ((2 * m + 1) * (d * twoPow e)) := by
        rw [hend]
        ring
      have hsucc : (m + 1) * twoPow e = m * twoPow e + twoPow e := Nat.succ_mul _ _
      have hpow : 0 < twoPow e := twoPow_pos
      have hbelow : units mantissa unit - 1 < nearestUnits n d := by
        rw [lt_nearestUnits_iff_lt_round hd hm hm' (by omega) (by omega),
          lt_roundHalfEven_iff (hdpos e)]
        omega
      omega

/-- The number nearest to a quotient is the one that the quotient rounds to. -/
theorem ofRatio_of_roundsTo (hd : 0 < d) (h : CanonicalMantissa mantissa unit)
    (hrounds : RoundsTo mantissa unit ((n : ℚ) / d * quartersInOne)) :
    ofRatio negative n d = finite negative mantissa unit h := by
  have hunits := nearestUnits_eq hd h hrounds
  have hrange : nearestUnits n d < maxUnits := by
    rw [hunits]
    calc units mantissa unit < twoPow 53 * twoPow unit :=
          Nat.mul_lt_mul_of_pos_right h.1 twoPow_pos
      _ ≤ maxUnits := Nat.mul_le_mul_left _ (twoPow_le_twoPow h.2.1)
  obtain ⟨mantissa', unit', h', hratio, hsame⟩ := ofRatio_eq_finite negative hd hrange
  obtain ⟨rfl, rfl⟩ := mantissa_eq_of_units_eq h' h (hsame.trans hunits)
  exact hratio

/-! ## Decimals far from one -/

/-- A quotient of less than half of the least unit is rounded to zero. -/
theorem ofRatio_eq_zero (hd : 0 < d) (h : 2 * (n * twoPow leastExponent) ≤ d) :
    ofRatio negative n d = zero negative := by
  have hzero : nearestUnits n d = 0 := by
    have hpos : 0 < d * twoPow 0 := Nat.mul_pos hd twoPow_pos
    have hone : d * twoPow 0 = d := Nat.mul_one d
    rw [← Nat.le_zero, ← Nat.not_lt, lt_nearestUnits_iff_lt_round hd (.inr rfl) twoPow_pos
      (Nat.zero_mul _).le (Nat.mul_pos Nat.one_pos twoPow_pos), lt_roundHalfEven_iff hpos, hone]
    omega
  have hrange : nearestUnits n d < maxUnits := by
    rw [hzero]
    exact Nat.mul_pos twoPow_pos twoPow_pos
  obtain ⟨mantissa, unit, h, hratio, hunits⟩ := ofRatio_eq_finite negative hd hrange
  have hcanonical : CanonicalMantissa 0 0 := by decide
  have hsame : units mantissa unit = units 0 0 := by
    rw [hunits, hzero, units, Nat.zero_mul]
  obtain ⟨rfl, rfl⟩ := mantissa_eq_of_units_eq h hcanonical hsame
  exact hratio

theorem twoPow_le_tenPow (k : Nat) : twoPow (3 * k) ≤ tenPow k := by
  calc twoPow (3 * k) = 8 ^ k := by rw [twoPow, Nat.pow_eq, Nat.pow_mul]
    _ ≤ tenPow k := Nat.pow_le_pow_left (by decide) k

theorem tenPow_pos {k : Nat} : 0 < tenPow k := Nat.pow_pos (by decide)

/-- The number nearest to a decimal is the one nearest to the quotient, whatever the exponent. -/
theorem ofDecimal_eq (negative : Bool) (c : Nat) (g : Int) :
    ofDecimal negative c g = ofRatio negative (c * tenPow g.toNat) (tenPow (-g).toNat) := by
  have hone : tenPow 0 = 1 := rfl
  rw [ofDecimal]
  split
  · next hzero =>
    rw [hzero, Nat.zero_mul, ofRatio_eq_zero tenPow_pos (by rw [Nat.zero_mul]; exact Nat.zero_le _)]
  · next hc =>
    split
    · next hlarge =>
      have hden : (-g).toNat = 0 := by omega
      have hlimit : quotientLimit ≤ c * tenPow g.toNat := by
        calc quotientLimit ≤ twoPow 54 * twoPow 970 := Nat.mul_le_mul_right _ (Nat.sub_le _ _)
          _ = twoPow (54 + 970) := twoPow_add.symm
          _ ≤ twoPow (3 * g.toNat) := twoPow_le_twoPow (by omega)
          _ ≤ tenPow g.toNat := twoPow_le_tenPow _
          _ ≤ c * tenPow g.toNat := Nat.le_mul_of_pos_left _ (Nat.pos_of_ne_zero hc)
      rw [hden, hone, ofRatio_eq_infinity ((maxUnits_le_nearestUnits_iff Nat.one_pos).2 ?_)]
      rwa [Nat.mul_one]
    · split
      · next hsmall =>
        have hnum : g.toNat = 0 := by omega
        have hbits : c ≤ twoPow (c.log2 + 1) := (Nat.lt_log2_self).le
        refine (ofRatio_eq_zero tenPow_pos ?_).symm
        calc 2 * (c * tenPow g.toNat * twoPow leastExponent)
            = c * twoPow (leastExponent + 1) := by
              rw [hnum, hone, twoPow_succ]
              ring
          _ ≤ twoPow (c.log2 + 1) * twoPow (leastExponent + 1) := Nat.mul_le_mul_right _ hbits
          _ = twoPow (c.log2 + 1 + (leastExponent + 1)) := twoPow_add.symm
          _ ≤ twoPow (3 * (-g).toNat) := twoPow_le_twoPow (by rw [leastExponent]; omega)
          _ ≤ tenPow (-g).toNat := twoPow_le_tenPow _
      · split
        · next hnonneg =>
          have hden : (-g).toNat = 0 := by omega
          rw [hden, hone]
        · next hneg =>
          have hnum : g.toNat = 0 := by omega
          rw [hnum, hone, Nat.mul_one]

/-! ## The text of a number -/

/-- The value of a coefficient and an exponent as a quotient. -/
theorem decimalValue_eq_div (c : Nat) (g : Int) :
    decimalValue (c, g) = ((c * tenPow g.toNat : Nat) : ℚ) / (tenPow (-g).toNat : Nat) := by
  have hpow : (10 : ℚ) ^ g * 10 ^ (-g).toNat = 10 ^ g.toNat := by
    rw [← zpow_natCast, ← zpow_natCast, ← zpow_add₀ (by norm_num)]
    congr 1
    omega
  rw [Nat.cast_mul, cast_tenPow, cast_tenPow, decimalValue, eq_div_iff (by positivity), mul_assoc,
    hpow]

/-- The text of a number is read as the number. -/
theorem binary64?_text (x : Binary64) : binary64? x.text = some x := by
  cases x with
  | nan => decide +kernel
  | infinity negative => cases negative <;> decide
  | finite negative mantissa unit h =>
    have hpoint := hasPointDigit_shown mantissa unit
    obtain ⟨d, rest, htext, hd⟩ := exists_unsignedText_eq_cons hpoint
    have hread := scientific?_unsignedText hpoint
    have hnearest : ofDecimal negative (shown mantissa unit).1 (shown mantissa unit).2 =
        finite negative mantissa unit h := by
      have hrounds := roundsTo_shown mantissa unit
      rw [← Prod.mk.eta (p := shown mantissa unit), decimalValue_eq_div] at hrounds
      rw [ofDecimal_eq]
      exact ofRatio_of_roundsTo tenPow_pos h hrounds
    rw [htext] at hread
    rw [text_finite, htext, binary64?, splitSign_signText negative hd]
    show (if isWordIn _ _ = true then _ else _) = _
    rw [isWordIn_eq_false hd (by decide), isWordIn_eq_false hd (by decide), hread]
    exact congrArg some hnearest

end Binary64

end RecordQuery.Number
