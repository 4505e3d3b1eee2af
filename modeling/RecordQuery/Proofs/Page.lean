import RecordQuery.Page
import RecordQuery.Proofs.Number.Quotient

/-!
# Whether a page follows

A page follows another one if the quotient of the total and the size of a page is rounded above the
number of that page (`hasNextPage_eq_roundsAbove`), and this is not decided where the quotient is
too large for a floating-point number (`hasNextPage_eq_error`). So the answer is the exact one
whenever the pages up to that one hold less than `2 ^ 53` records, and beyond exactly if rounding
moves the quotient neither onto the number of the page nor past it (`hasNextPage_exact_iff`).
-/

namespace RecordQuery

open Number Binary64

variable {page size total : Nat}

/-! ## The quotient -/

theorem nearestQuotient_eq : nearestQuotient total size = ofRatio false total size := by
  have htotal : ¬ (total : Int) < 0 := by omega
  have hsize : ¬ (size : Int) < 0 := by omega
  rw [nearestQuotient, decide_eq_false htotal, decide_eq_false hsize]
  rfl

/-- Below the limit, the quotient of a total and a size is a finite number. -/
theorem nearestQuotient_eq_finite (hsize : 0 < size) (h : total < quotientLimit * size) :
    ∃ mantissa unit canonical,
      nearestQuotient total size = .finite false mantissa unit canonical ∧
        units mantissa unit = nearestUnits total size := by
  have hrange : nearestUnits total size < maxUnits := by
    by_contra hmax
    exact absurd h (Nat.not_lt.2 ((maxUnits_le_nearestUnits_iff hsize).1 (Nat.not_lt.1 hmax)))
  rw [nearestQuotient_eq]
  exact ofRatio_eq_finite false hsize hrange

/-- No total up to `2 ^ 63` reaches the limit of quotients. -/
theorem lt_quotientLimit_mul (hsize : 0 < size) (htotal : total ≤ twoPow 63) :
    total < quotientLimit * size := by
  have hlimit : twoPow 63 < quotientLimit := by decide +kernel
  exact Nat.lt_of_le_of_lt htotal (hlimit.trans_le (Nat.le_mul_of_pos_right _ hsize))

/-! ## The next page -/

/-- It is decided whether a page follows one, unless there are too many records to count. -/
theorem exists_hasNextPage {page size : Int} (htotal : total < twoPow 63) :
    ∃ next, hasNextPage page size total = .ok next := by
  by_cases hsize : size ≤ 0
  · exact ⟨false, by rw [hasNextPage, if_pos hsize]⟩
  obtain ⟨n, rfl⟩ := Int.eq_ofNat_of_zero_le (Int.not_le.1 hsize).le
  have hn : 0 < n := by omega
  obtain ⟨mantissa, unit, canonical, hquotient, -⟩ :=
    nearestQuotient_eq_finite hn (lt_quotientLimit_mul hn htotal.le)
  rw [hasNextPage, if_neg hsize, hquotient]
  exact ⟨_, rfl⟩

/-- Below the limit of quotients, a page follows one above whose number the quotient is rounded. -/
theorem hasNextPage_eq_roundsAbove (hpage : 0 < page) (hsize : 0 < size)
    (h : total < quotientLimit * size) :
    hasNextPage page size total = .ok (decide (RoundsAbove total size page)) := by
  obtain ⟨mantissa, unit, canonical, hquotient, hunits⟩ := nearestQuotient_eq_finite hsize h
  have hpages (pages : Int) : (page : Int) < -(-pages / (twoPow leastExponent : Int)) ↔
      (page : Int) * twoPow leastExponent < pages := by
    have hpos : 0 < (twoPow leastExponent : Int) := by exact_mod_cast twoPow_pos
    rw [lt_neg, Int.ediv_lt_iff_lt_mul hpos, Int.neg_mul, Int.neg_lt_neg_iff]
  have hsize' : ¬ (size : Int) ≤ 0 := by omega
  rw [hasNextPage, if_neg hsize', hquotient]
  simp only [ceil?]
  refine congrArg Except.ok (decide_eq_decide.2 ?_)
  rw [if_neg Bool.false_ne_true, hpages, hunits, ← lt_nearestUnits_iff hsize hpage]
  exact_mod_cast Iff.rfl

/-- From the limit of quotients on, it is not decided whether a page follows. -/
theorem hasNextPage_eq_error {page : Int} (hsize : 0 < size) (h : quotientLimit * size ≤ total) :
    hasNextPage page size total = .error .outOfRange := by
  have hsize' : ¬ (size : Int) ≤ 0 := by omega
  rw [hasNextPage, if_neg hsize', nearestQuotient_eq,
    ofRatio_eq_infinity ((maxUnits_le_nearestUnits_iff hsize).2 h)]
  rfl

/-- Up to `2 ^ 53` records a page follows another one if the pages up to that one do not hold all
records. -/
theorem hasNextPage_eq (hpage : 0 < page) (hsize : 0 < size) (htotal : total ≤ 2 ^ 53) :
    hasNextPage page size total = .ok (decide (page * size < total)) := by
  have hword : total ≤ twoPow 63 := htotal.trans (twoPow_le_twoPow (by decide))
  rw [hasNextPage_eq_roundsAbove hpage hsize (lt_quotientLimit_mul hsize hword)]
  exact congrArg Except.ok (decide_eq_decide.2 (roundsAbove_iff_lt hsize hpage (.inr htotal)))

/-- Whether a page follows one is decided below the limit of quotients only, and is decided as the
records say, that the pages up to that one do not hold all of them, if and only if the exact
quotient and the rounded one are above the number of the page alike. They are, whatever the total
is, if the pages up to that one hold less than `2 ^ 53` records. -/
theorem hasNextPage_exact_iff (hpage : 0 < page) (hsize : 0 < size) :
    (hasNextPage page size total = .error .outOfRange ↔ quotientLimit * size ≤ total) ∧
      (hasNextPage page size total = .ok (decide (page * size < total)) ↔
        total < quotientLimit * size ∧
          (RoundsAbove total size page ↔ page * size < total)) ∧
      (page * size < 2 ^ 53 → (RoundsAbove total size page ↔ page * size < total)) := by
  have hfew (h : page * size < 2 ^ 53) := roundsAbove_iff_lt (n := total) hsize hpage (.inl h)
  rcases Nat.lt_or_ge total (quotientLimit * size) with h | h
  · rw [hasNextPage_eq_roundsAbove hpage hsize h, Except.ok.injEq, decide_eq_decide]
    refine ⟨iff_of_false nofun (Nat.not_le.2 h), ?_, hfew⟩
    rw [and_iff_right h]
  · rw [hasNextPage_eq_error hsize h]
    exact ⟨iff_of_true rfl h, iff_of_false nofun fun hlt => absurd hlt.1 (Nat.not_lt.2 h), hfew⟩

/-- A page beyond `2 ^ 53` is followed by another one where enough records are left. -/
theorem hasNextPage_exact_beyond :
    let page : Nat := 2 ^ 53 + 1
    let size : Nat := 1
    let total : Nat := 2 ^ 53 + 4
    0 < page ∧ 0 < size ∧ page * size < total ∧
      hasNextPage page size total = .ok (decide (page * size < total)) := by
  intro page size total
  have hpage : 0 < page := by decide
  have hsize : 0 < size := by decide
  have hlt : page * size < total := by decide
  have hlimit : total < quotientLimit * size := by decide +kernel
  have hrounds : RoundsAbove total size page := by decide
  exact ⟨hpage, hsize, hlt,
    (hasNextPage_exact_iff hpage hsize).2.1.2 ⟨hlimit, iff_of_true hrounds hlt⟩⟩

/-- With one record more than `2 ^ 53` the last page of one record is not announced, and with
`2 ^ 1024` records it is not decided whether a second page follows. -/
theorem hasNextPage_exact_rounded :
    let page : Nat := 2 ^ 53
    let size : Nat := 1
    let total : Nat := 2 ^ 53 + 1
    let large : Nat := twoPow 1024
    page * size < total ∧ hasNextPage page size total = .ok false ∧
      1 * size < large ∧ hasNextPage 1 size large = .error .outOfRange := by
  intro page size total large
  have hlast : hasNextPage page size total = .ok false := by decide +kernel
  have hlarge : 1 * size < large := by decide +kernel
  have hlimit : quotientLimit * size ≤ large := by decide +kernel
  exact ⟨by decide, hlast, hlarge, hasNextPage_eq_error Nat.one_pos hlimit⟩

end RecordQuery
