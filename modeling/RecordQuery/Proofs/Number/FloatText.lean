import RecordQuery.Proofs.Number.Numeral
import RecordQuery.Proofs.Number.Shortest
import RecordQuery.Proofs.Text.Blank
import RecordQuery.Proofs.Text.Digit

/-!
# The text of a floating-point number

A numeral is read as the number that its digits make up on both sides of the point, times the power
of ten behind it (`scientific?_eq`). So the text of a floating-point number, positional or with an
exponent, is read as the decimal that it shows (`Binary64.ofText?_text`), and as no integer
(`Binary64.integer?_text`).
-/

namespace RecordQuery.Number

open Text

/-! ## Digits -/

variable {s whole part t : List Char} {ds : List Nat} {c : Char} {n : Nat} {e : Int}

/-- The digits 0 to 9 have their values. -/
theorem digitValue?_digitChar : ∀ d < 10, digitValue? (Nat.digitChar d) = some d := by
  decide

theorem not_mem_of_isDigit (hs : ∀ c ∈ s, c.isDigit = true) (hc : c.isDigit = false) : c ∉ s :=
  fun h => Bool.false_ne_true (hc.symm.trans (hs c h))

/-- Digits without underscores are one group. -/
theorem groupedDigits?_eq (hs : '_' ∉ s) : groupedDigits? s = digits? s := by
  rw [groupedDigits?, List.splitOn_eq_singleton hs]
  cases h : digits? s <;> simp [h]

/-- A part of a numeral that is digits. -/
theorem partDigits?_eq (hs : '_' ∉ s) (hds : s.mapM digitValue? = some ds) :
    partDigits? s = some ds := by
  cases s with
  | nil => exact hds
  | cons c s =>
    rw [partDigits?, if_neg (by simp), groupedDigits?_eq hs, digits?, if_neg (by simp), hds]

/-- Among other characters there is one that is no digit. -/
theorem groupedDigits?_eq_none (hs : '_' ∉ s) (hc : c ∈ s) (hdigit : digitValue? c = none) :
    groupedDigits? s = none := by
  have hmap : s.mapM digitValue? = none := by
    obtain ⟨before, after, rfl⟩ := List.append_of_mem hc
    rw [List.mapM_append, List.mapM_cons, hdigit]
    cases before.mapM digitValue? <;> rfl
  rw [groupedDigits?_eq hs, digits?, hmap, ite_self]

/-- A text has as many digits as characters. -/
theorem length_of_mapM_digitValue? (h : s.mapM digitValue? = some ds) : ds.length = s.length := by
  induction s generalizing ds with
  | nil =>
    cases h
    rfl
  | cons c s ih =>
    simp only [List.mapM_cons, Option.bind_eq_bind, Option.bind_eq_some_iff, Option.pure_def,
      Option.some.injEq] at h
    obtain ⟨d, -, rest, hrest, rfl⟩ := h
    rw [List.length_cons, List.length_cons, ih hrest]

/-- The digits on both sides of the point of a numeral are those of a number, perhaps with zeros in
front. -/
structure IsParted (whole part : List Char) (n : Nat) : Prop where
  digits : ∃ width, n < 10 ^ width ∧ whole ++ part = digits width n
  whole_ne_nil : whole ≠ []

/-- The digits with a point between them, if some are behind it. -/
def pointed (whole part : List Char) : List Char :=
  if part = [] then whole else whole ++ '.' :: part

namespace IsParted

theorem isDigit (h : IsParted whole part n) : ∀ c ∈ whole ++ part, c.isDigit = true := by
  obtain ⟨width, -, hdigits⟩ := h.digits
  intro c hc
  rw [hdigits] at hc
  exact isDigit_of_mem_digits hc

/-- The parts are read as the digits of the number. -/
theorem exists_partDigits? (h : IsParted whole part n) :
    ∃ ds es, partDigits? whole = some ds ∧ partDigits? part = some es ∧ ds ≠ [] ∧
      ofDigits (ds ++ es) = n ∧ es.length = part.length := by
  obtain ⟨width, hn, hdigits⟩ := h.digits
  obtain ⟨all, hall, hvalue⟩ :
      ∃ all, (whole ++ part).mapM digitValue? = some all ∧ ofDigits all = n := by
    rw [hdigits]
    exact mapM_fixedText (by decide) digitValue?_digitChar hn
  have hmark : '_' ∉ whole ++ part := not_mem_of_isDigit h.isDigit (by decide)
  rw [List.mem_append, not_or] at hmark
  simp only [List.mapM_append, Option.bind_eq_bind, Option.bind_eq_some_iff, Option.pure_def,
    Option.some.injEq] at hall
  obtain ⟨ds, hds, es, hes, rfl⟩ := hall
  refine ⟨ds, es, partDigits?_eq hmark.1 hds, partDigits?_eq hmark.2 hes, ?_, hvalue,
    length_of_mapM_digitValue? hes⟩
  rintro rfl
  exact h.whole_ne_nil (List.length_eq_zero_iff.1 (length_of_mapM_digitValue? hds).symm)

/-- The point parts the digits. -/
theorem exists_cutAt_pointed (h : IsParted whole part n) :
    ∃ part?, cutAt (· = '.') (pointed whole part) = (whole, part?) ∧ part?.getD [] = part := by
  have hpoint : '.' ∉ whole ++ part := not_mem_of_isDigit h.isDigit (by decide)
  rw [List.mem_append, not_or] at hpoint
  have hwhole : ∀ c ∈ whole, decide (c = '.') = false :=
    fun c hc => decide_eq_false (ne_of_mem_of_not_mem hc hpoint.1)
  unfold pointed
  split
  · next hnil => exact ⟨none, cutAt_eq_none hwhole, hnil.symm⟩
  · exact ⟨some part, cutAt_eq_some_iff.2 ⟨'.', rfl, rfl, hwhole⟩, rfl⟩

/-- A numeral is read as the number that its digits make up, times a power of ten: the exponent
behind it less the digits behind the point. -/
theorem scientific?_eq {exponent? : Option (List Char)} (h : IsParted whole part n)
    (hcut : cutAt isExponentMark s = (pointed whole part, exponent?))
    (he : Number.exponent? exponent? = some e) : scientific? s = some (n, e - part.length) := by
  obtain ⟨part?, hpart, hget⟩ := h.exists_cutAt_pointed
  obtain ⟨ds, es, hds, hes, hne, hvalue, hlength⟩ := h.exists_partDigits?
  rw [scientific?, hcut]
  simp only [hpart, hget, hds, hes, he]
  simp [hne, hvalue, hlength]

end IsParted

/-! ## Digits around a point -/

/-- The digits of a number, with zeros in front, in two parts. -/
theorem isParted_of_eq {k : Nat} (h : whole ++ part = List.replicate k '0' ++ decimalText n)
    (hne : whole ≠ []) : IsParted whole part n where
  digits := by
    obtain ⟨width, hn, hdigits⟩ := exists_zeros_decimalText_eq k n
    exact ⟨width, hn, h.trans hdigits⟩
  whole_ne_nil := hne

theorem decimalText_ne_nil : decimalText n ≠ [] := Nat.toDigits_ne_nil

/-- In positional notation the point stands among the digits or in front of them, behind a zero. -/
theorem exists_positional_eq {point : Int} (hpoint : point < (decimalText n).length) :
    ∃ whole part, positional (decimalText n) point = pointed whole part ∧ IsParted whole part n ∧
      (part.length : Int) = (decimalText n).length - point := by
  rw [positional]
  split
  · next hfront =>
    have hpart : List.replicate (-point).toNat '0' ++ decimalText n ≠ [] := by
      simp [decimalText_ne_nil]
    refine ⟨['0'], _, (if_neg hpart).symm,
      isParted_of_eq (k := (-point).toNat + 1) rfl (by simp), ?_⟩
    rw [List.length_append, List.length_replicate]
    omega
  · next hbehind =>
    have hpart : (decimalText n).drop point.toNat ≠ [] := by
      rw [Ne, List.drop_eq_nil_iff]
      omega
    have hwhole : (decimalText n).take point.toNat ≠ [] := by
      rw [Ne, List.take_eq_nil_iff]
      simp only [decimalText_ne_nil, or_false]
      omega
    refine ⟨_, _, (if_neg hpart).symm, isParted_of_eq (k := 0) ?_ hwhole, ?_⟩
    · rw [List.take_append_drop]
      rfl
    · rw [List.length_drop]
      omega

/-- With an exponent the point stands behind the first digit. -/
theorem exists_leadingDigit_eq (n : Nat) :
    ∃ whole part, leadingDigit (decimalText n) = pointed whole part ∧ IsParted whole part n ∧
      (part.length : Int) = (decimalText n).length - 1 := by
  obtain ⟨d, rest, hdigits⟩ := List.exists_cons_of_ne_nil (decimalText_ne_nil (n := n))
  have hparted : IsParted [d] rest n := isParted_of_eq (k := 0) hdigits.symm (by simp)
  refine ⟨[d], rest, ?_, hparted, ?_⟩
  · rw [hdigits]
    cases rest with
    | nil => rfl
    | cons c rest => rfl
  · rw [hdigits, List.length_cons]
    omega

theorem isParted_paddedText (width n : Nat) : IsParted (paddedText width n) [] n :=
  isParted_of_eq (List.append_nil _) (by simp [paddedText, zeroPad, decimalText_ne_nil])

/-- Digits behind zeros are one group. -/
theorem exists_groupedDigits?_paddedText (width n : Nat) :
    ∃ ds, groupedDigits? (paddedText width n) = some ds ∧ ofDigits ds = n := by
  have hparted := isParted_paddedText width n
  obtain ⟨ds, es, hds, hes, -, hvalue, -⟩ := hparted.exists_partDigits?
  cases hes
  rw [partDigits?, if_neg (by simpa using hparted.whole_ne_nil)] at hds
  exact ⟨ds, hds, by rwa [List.append_nil] at hvalue⟩

/-- An exponent is read as it was written. -/
theorem exponent?_exponentText (lead : Int) :
    exponent? (some (Binary64.exponentText lead)) = some lead := by
  obtain ⟨ds, hds, hvalue⟩ := exists_groupedDigits?_paddedText 2 lead.natAbs
  have hsigned (negative : Bool) :
      (groupedDigits? (paddedText 2 lead.natAbs)).map (fun ds => signed negative (ofDigits ds)) =
        some (signed negative lead.natAbs) := by
    rw [hds, Option.map_some, hvalue]
  rw [Binary64.exponentText]
  split
  · next hneg =>
    refine (hsigned true).trans (congrArg some ?_)
    rw [signed, if_pos rfl]
    omega
  · next hpos =>
    refine (hsigned false).trans (congrArg some ?_)
    rw [signed, if_neg Bool.false_ne_true]
    omega

theorem mem_pointed (h : IsParted whole part n) (hc : c ∈ pointed whole part) :
    c.isDigit = true ∨ c = '.' := by
  unfold pointed at hc
  split at hc
  · exact .inl (h.isDigit c (List.mem_append_left _ hc))
  · rcases List.mem_append.1 hc with hc | hc
    · exact .inl (h.isDigit c (List.mem_append_left _ hc))
    · rcases List.mem_cons.1 hc with rfl | hc
      · exact .inr rfl
      · exact .inl (h.isDigit c (List.mem_append_right _ hc))

/-- Digits around a point have no exponent. -/
theorem not_isExponentMark_pointed (h : IsParted whole part n) :
    ∀ c ∈ pointed whole part, isExponentMark c = false := by
  intro c hc
  rcases mem_pointed h hc with hdigit | rfl
  · refine Bool.eq_false_iff.2 fun hmark => ?_
    simp only [isExponentMark, Bool.or_eq_true, decide_eq_true_eq] at hmark
    rcases hmark with rfl | rfl <;> cases hdigit
  · rfl

theorem mem_exponentText {lead : Int} (hc : c ∈ Binary64.exponentText lead) :
    c.isDigit = true ∨ c = '-' ∨ c = '+' := by
  rcases List.mem_cons.1 hc with rfl | hc
  · right
    split
    · exact .inl rfl
    · exact .inr rfl
  · exact .inl ((isParted_paddedText 2 lead.natAbs).isDigit c (List.mem_append_left _ hc))

namespace Binary64

/-! ## The text of an unsigned number -/

/-- The text of a coefficient and an exponent. -/
def unsignedText (c : Nat) (g : Int) : List Char :=
  let lead := Decimal.adjusted c g
  if positionalFrom ≤ lead ∧ lead < positionalBelow then positional (decimalText c) (lead + 1)
  else leadingDigit (decimalText c) ++ 'e' :: exponentText lead

/-- There is a digit behind the point where the notation is positional. -/
def HasPointDigit (c : Nat) (g : Int) : Prop :=
  positionalFrom ≤ Decimal.adjusted c g → Decimal.adjusted c g < positionalBelow → g < 0

variable {coefficient : Nat} {g : Int}

/-- The text of a number has a point, or an exponent behind the digits. -/
theorem exists_unsignedText_eq (h : HasPointDigit coefficient g) :
    ∃ whole part, IsParted whole part coefficient ∧
      (part ≠ [] ∧ unsignedText coefficient g = pointed whole part ∧ g = -part.length ∨
        unsignedText coefficient g =
          pointed whole part ++ 'e' :: exponentText (g + part.length)) := by
  rw [unsignedText]
  split
  · next hlead =>
    have hpoint : Decimal.adjusted coefficient g + 1 < (decimalText coefficient).length := by
      have := h hlead.1 hlead.2
      rw [Decimal.adjusted]
      omega
    obtain ⟨whole, part, htext, hparted, hlength⟩ := exists_positional_eq hpoint
    rw [Decimal.adjusted] at hlength
    have hg := h hlead.1 hlead.2
    refine ⟨whole, part, hparted, .inl ⟨?_, htext, by omega⟩⟩
    rintro rfl
    simp only [List.length_nil] at hlength
    omega
  · obtain ⟨whole, part, htext, hparted, hlength⟩ := exists_leadingDigit_eq coefficient
    have hlead : Decimal.adjusted coefficient g = g + part.length := by
      rw [Decimal.adjusted]
      omega
    exact ⟨whole, part, hparted, .inr (by rw [htext, hlead])⟩

/-- The text of a number is read as its coefficient and exponent. -/
theorem scientific?_unsignedText (h : HasPointDigit coefficient g) :
    scientific? (unsignedText coefficient g) = some (coefficient, g) := by
  obtain ⟨whole, part, hparted, ⟨-, htext, hg⟩ | htext⟩ := exists_unsignedText_eq h
  · rw [htext, hparted.scientific?_eq (cutAt_eq_none (not_isExponentMark_pointed hparted)) rfl, hg,
      Int.zero_sub]
  · have hcut : cutAt isExponentMark (unsignedText coefficient g) =
        (pointed whole part, some (exponentText (g + part.length))) :=
      cutAt_eq_some_iff.2 ⟨'e', htext, rfl, not_isExponentMark_pointed hparted⟩
    rw [hparted.scientific?_eq hcut (exponent?_exponentText _), Int.add_sub_cancel]

/-- The characters of the text of a number. -/
theorem mem_unsignedText (h : HasPointDigit coefficient g) (hc : c ∈ unsignedText coefficient g) :
    c.isDigit = true ∨ c = '.' ∨ c = 'e' ∨ c = '-' ∨ c = '+' := by
  obtain ⟨whole, part, hparted, ⟨-, htext, -⟩ | htext⟩ := exists_unsignedText_eq h
  · rw [htext] at hc
    exact (mem_pointed hparted hc).imp_right .inl
  · rw [htext] at hc
    rcases List.mem_append.1 hc with hc | hc
    · exact (mem_pointed hparted hc).imp_right .inl
    · rcases List.mem_cons.1 hc with rfl | hc
      · exact .inr (.inr (.inl rfl))
      · exact (mem_exponentText hc).imp_right fun hsign => .inr (.inr hsign)

/-- The text of a number begins with a digit. -/
theorem exists_unsignedText_eq_cons (h : HasPointDigit coefficient g) :
    ∃ d rest, unsignedText coefficient g = d :: rest ∧ d.isDigit = true := by
  obtain ⟨whole, part, hparted, htext⟩ := exists_unsignedText_eq h
  obtain ⟨d, rest, rfl⟩ := List.exists_cons_of_ne_nil hparted.whole_ne_nil
  have hd : d.isDigit = true := hparted.isDigit d (by simp)
  have hpointed : ∃ rest', pointed (d :: rest) part = d :: rest' := by
    unfold pointed
    split
    · exact ⟨rest, rfl⟩
    · exact ⟨_, List.cons_append⟩
  obtain ⟨rest', hrest'⟩ := hpointed
  rw [hrest'] at htext
  rcases htext with ⟨-, htext, -⟩ | htext
  · exact ⟨d, rest', htext, hd⟩
  · exact ⟨d, _, htext, hd⟩

/-- The text of a number has a point or the letter of an exponent. -/
theorem exists_mem_unsignedText (h : HasPointDigit coefficient g) :
    ∃ c ∈ unsignedText coefficient g, c = '.' ∨ c = 'e' := by
  obtain ⟨whole, part, -, ⟨hpart, htext, -⟩ | htext⟩ := exists_unsignedText_eq h
  · refine ⟨'.', ?_, .inl rfl⟩
    rw [htext, pointed, if_neg hpart]
    simp
  · refine ⟨'e', ?_, .inr rfl⟩
    rw [htext]
    simp

/-! ## The range of exponents -/

theorem le_stripZeros_snd (fuel c : Nat) (g : Int) : g ≤ (stripZeros fuel c g).2 := by
  induction fuel generalizing c g with
  | zero => exact Int.le_refl g
  | succ fuel ih =>
    rw [stripZeros]
    split
    · exact (Int.le_add_one (Int.le_refl g)).trans (ih _ _)
    · exact Int.le_refl g

variable {mantissa unit : Nat} {negative : Bool}

/-- The exponent of the leading digit is not below that of the least unit. -/
theorem le_leadExponent (mantissa unit : Nat) : -325 ≤ leadExponent mantissa unit := by
  have hestimate : -324 ≤ leadEstimate mantissa unit := by
    rw [leadEstimate, leastExponent]
    omega
  rw [leadExponent]
  split
  · omega
  · split <;> omega

/-- The exponent of a number other than zero is not below that of the exact value of the least
unit. -/
theorem le_digits_snd (mantissa unit : Nat) : -1074 ≤ (digits mantissa unit).2 := by
  rw [digits]
  refine Int.le_trans ?_ (le_stripZeros_snd _ _ _)
  cases hgrid : (List.range 17).findSome?
      fun n : Nat => onGrid? mantissa unit (leadExponent mantissa unit - (n : Int)) with
  | none => exact Int.le_refl _
  | some p =>
    obtain ⟨n, hn, hp⟩ := List.exists_of_findSome?_eq_some hgrid
    have hlead := le_leadExponent mantissa unit
    have hn := List.mem_range.1 hn
    have hsnd := (readsBack_of_onGrid? hp).1
    show -1074 ≤ p.2
    omega

theorem withPointDigit_snd (c : Nat) (g : Int) :
    (withPointDigit c g).2 = -1 ∨ (withPointDigit c g).2 = g := by
  rw [withPointDigit]
  split
  · exact .inl rfl
  · exact .inr rfl

theorem le_shown_snd (mantissa unit : Nat) : -1074 ≤ (shown mantissa unit).2 := by
  have hdigits := le_digits_snd mantissa unit
  rw [shown]
  rcases withPointDigit_snd (if mantissa = 0 then (0, 0) else digits mantissa unit).1
    (if mantissa = 0 then (0, 0) else digits mantissa unit).2 with h | h
  · rw [h]
    decide
  · rw [h]
    split
    · decide
    · exact hdigits

/-- The leading digit of a decimal below a power of ten. -/
theorem adjusted_lt {b : Nat} (hc : coefficient ≠ 0)
    (h : decimalValue (coefficient, g) < 10 ^ b) : Decimal.adjusted coefficient g < b := by
  have hdigits : 10 ^ ((decimalText coefficient).length - 1) ≤ coefficient := by
    rcases Nat.eq_zero_or_pos ((decimalText coefficient).length - 1) with hzero | hpos
    · rw [hzero]
      exact Nat.pos_of_ne_zero hc
    · rw [← Nat.not_lt, ← Nat.length_toDigits_le_iff (by decide) hpos, ← decimalText]
      omega
  have hlength : 0 < (decimalText coefficient).length := List.length_pos_iff.2 decimalText_ne_nil
  have hten : (1 : ℚ) < 10 := by norm_num
  have hlead : (10 : ℚ) ^ Decimal.adjusted coefficient g ≤ decimalValue (coefficient, g) := by
    have hpow : Decimal.adjusted coefficient g =
        ((decimalText coefficient).length - 1 : Nat) + g := by
      rw [Decimal.adjusted]
      omega
    rw [hpow, zpow_add₀ (by norm_num), zpow_natCast, decimalValue]
    exact mul_le_mul_of_nonneg_right (mod_cast hdigits) (by positivity)
  rw [← zpow_lt_zpow_iff_right₀ hten, zpow_natCast]
  exact hlead.trans_lt h

/-- The decimal of a number is not above the power of two beyond the largest number. -/
theorem decimalValue_shown_le (h : CanonicalMantissa mantissa unit) :
    decimalValue (shown mantissa unit) ≤ (twoPow 1024 : Nat) := by
  have hbits : 4 * mantissa + 2 ≤ twoPow 55 := by
    have hlt := h.1
    have hword : twoPow 55 = 36028797018963968 := by decide
    have hword' : twoPow 53 = 9007199254740992 := by decide
    omega
  have hupper : upperEnd mantissa unit ≤ twoPow 1024 * twoPow (leastExponent + 2) := by
    rw [upperEnd_eq, ← twoPow_add]
    calc (4 * mantissa + 2) * twoPow unit ≤ twoPow 55 * twoPow 2045 :=
          Nat.mul_le_mul hbits (twoPow_le_twoPow h.2.1)
      _ = twoPow (1024 + (leastExponent + 2)) := by rw [← twoPow_add, leastExponent]
  refine le_of_mul_le_mul_right ?_ quartersInOne_pos
  rw [quartersInOne, ← Nat.cast_mul]
  exact (roundsTo_shown mantissa unit).upper.trans (Nat.cast_le.2 hupper)

theorem cast_twoPow_lt {b : Nat} (hb : b ≠ 0) : ((twoPow b : Nat) : ℚ) < 10 ^ b := by
  rw [twoPow, Nat.pow_eq, Nat.cast_pow]
  exact pow_lt_pow_left₀ (Nat.cast_lt.2 (by decide : 2 < 10)) (by positivity) hb

/-- The leading digit of the decimal of a number. -/
theorem adjusted_shown_lt (h : CanonicalMantissa mantissa unit) :
    Decimal.adjusted (shown mantissa unit).1 (shown mantissa unit).2 < (1024 : Nat) := by
  rcases Nat.eq_zero_or_pos mantissa with rfl | hpos
  · have hzero : shown 0 unit = (0, -1) := by
      rw [shown, if_pos rfl]
      decide
    rw [hzero]
    decide
  · have hvalue : decimalValue (shown mantissa unit) ≠ 0 := by
      intro hzero
      have := cmp_zero_shown h
      rw [hzero, cmp_self_eq_eq, eq_comm, cmp_eq_eq_iff] at this
      exact absurd this (Nat.mul_pos hpos twoPow_pos).ne
    refine adjusted_lt (fun hzero => hvalue ?_) ?_
    · rw [decimalValue, hzero, Nat.cast_zero, zero_mul]
    · exact (decimalValue_shown_le h).trans_lt (cast_twoPow_lt (by decide))

/-- A number is shown with a digit behind the point where its notation is positional. -/
theorem hasPointDigit_withPointDigit (c : Nat) (g : Int) :
    HasPointDigit (withPointDigit c g).1 (withPointDigit c g).2 := by
  by_cases hpoint : positionalFrom ≤ Decimal.adjusted c g ∧
      Decimal.adjusted c g < positionalBelow ∧ 0 ≤ g
  · have h : withPointDigit c g = (c * tenPow (g.toNat + 1), -1) := if_pos hpoint
    rw [h]
    exact fun _ _ => Int.negSucc_lt_zero 0
  · have h : withPointDigit c g = (c, g) := if_neg hpoint
    rw [h]
    intro hfrom hbelow
    by_contra hneg
    exact hpoint ⟨hfrom, hbelow, by omega⟩

theorem hasPointDigit_shown (mantissa unit : Nat) :
    HasPointDigit (shown mantissa unit).1 (shown mantissa unit).2 :=
  hasPointDigit_withPointDigit _ _

/-! ## The text of a number -/

theorem text_finite (h : CanonicalMantissa mantissa unit) : (finite negative mantissa unit h).text =
    signText negative ++ unsignedText (shown mantissa unit).1 (shown mantissa unit).2 := rfl

/-- The character is none of those that are trimmed or replaced before a numeral is read. -/
def isPlain (c : Char) : Bool := !isBlank c && c ≠ ',' && c ≠ '_'

theorem isPlain_of_isDigit (hc : c.isDigit = true) : isPlain c = true := by
  have hcomma : c ≠ ',' := by
    rintro rfl
    cases hc
  have hmark : c ≠ '_' := by
    rintro rfl
    cases hc
  simp [isPlain, isBlank_of_isDigit hc, hcomma, hmark]

theorem isPlain_unsignedText (h : HasPointDigit coefficient g) :
    ∀ c ∈ unsignedText coefficient g, isPlain c = true := by
  intro c hc
  rcases mem_unsignedText h hc with hdigit | rfl | rfl | rfl | rfl
  · exact isPlain_of_isDigit hdigit
  all_goals decide

/-- The text of a number is read as it stands. -/
theorem isPlain_text (x : Binary64) : ∀ c ∈ x.text, isPlain c = true := by
  cases x with
  | nan => exact List.all_eq_true.1 (by decide)
  | infinity negative => cases negative <;> exact List.all_eq_true.1 (by decide)
  | finite negative mantissa unit h =>
    intro c hc
    rw [text_finite, List.mem_append] at hc
    rcases hc with hc | hc
    · cases negative with
      | true =>
        cases List.mem_singleton.1 hc
        decide
      | false => cases hc
    · exact isPlain_unsignedText (hasPointDigit_shown _ _) c hc

theorem splitSign_signText (negative : Bool) {d : Char} (hd : d.isDigit = true) (rest : List Char) :
    splitSign (signText negative ++ d :: rest) = (negative, d :: rest) := by
  cases negative with
  | true => rfl
  | false =>
    show splitSign (d :: rest) = _
    unfold splitSign
    split
    · next h =>
      cases h
      cases hd
    · next h =>
      cases h
      cases hd
    · rfl

/-- The text of a number is no integer. -/
theorem integer?_text (x : Binary64) : integer? x.text = none := by
  cases x with
  | nan => decide
  | infinity negative => cases negative <;> decide
  | finite negative mantissa unit h =>
    have hpoint := hasPointDigit_shown mantissa unit
    obtain ⟨d, rest, htext, hd⟩ := exists_unsignedText_eq_cons hpoint
    obtain ⟨c, hc, hmark⟩ := exists_mem_unsignedText hpoint
    have hnone : digitValue? c = none := by rcases hmark with rfl | rfl <;> decide
    have hplain : '_' ∉ unsignedText (shown mantissa unit).1 (shown mantissa unit).2 :=
      fun h => absurd (isPlain_unsignedText hpoint '_' h) (by decide)
    have hgroup := groupedDigits?_eq_none hplain hc hnone
    rw [htext] at hgroup
    rw [text_finite, htext, integer?, splitSign_signText negative hd]
    simp only [natural?, hgroup]
    rfl

/-- A text that begins with a digit is no word of letters. -/
theorem isWordIn_eq_false {words : List String} {d : Char} {rest : List Char}
    (hd : d.isDigit = true) (hwords : words.all fun w => w.toList.head?.all (!·.isDigit)) :
    isWordIn words (d :: rest) = false := by
  have hlower : d.toLower = d := by
    refine toLower_eq_self fun hcapital => ?_
    simp only [Char.isDigit, Bool.and_eq_true, decide_eq_true_eq] at hd
    have hval : d.toNat ≤ 0x39 := hd.2
    omega
  rw [isWordIn, decide_eq_false_iff_not, List.map_cons, hlower]
  intro hmem
  obtain ⟨w, hw, heq⟩ := List.mem_map.1 hmem
  have := List.all_eq_true.1 hwords w hw
  rw [heq] at this
  simp [hd] at this

/-- The text of a number is read as the decimal that it shows. -/
theorem ofText?_text {x : Binary64} (hx : x ≠ .nan) :
    Decimal.ofText? x.text = some x.toDecimal := by
  have hplain := isPlain_text x
  have htrim : (trim x.text).filter (· ≠ '_') = x.text := by
    rw [trim_eq_self fun c hc => ?_, List.filter_eq_self]
    · intro c hc
      have := hplain c hc
      simp only [isPlain, Bool.and_eq_true] at this
      exact this.2
    · have := hplain c hc
      simp only [isPlain, Bool.and_eq_true, Bool.not_eq_true'] at this
      exact this.1.1
  rw [Decimal.ofText?, htrim]
  cases x with
  | nan => exact absurd rfl hx
  | infinity negative => cases negative <;> decide
  | finite negative mantissa unit h =>
    have hpoint := hasPointDigit_shown mantissa unit
    obtain ⟨d, rest, htext, hd⟩ := exists_unsignedText_eq_cons hpoint
    have hread := scientific?_unsignedText hpoint
    rw [text_finite, htext, splitSign_signText negative hd, ← htext]
    have hbounds : Decimal.adjusted (shown mantissa unit).1 (shown mantissa unit).2 ≤
        Decimal.maxLead ∧ Decimal.minExponent ≤ (shown mantissa unit).2 := by
      have hlead := adjusted_shown_lt h
      have hexponent := le_shown_snd mantissa unit
      rw [Decimal.maxLead, Decimal.minExponent]
      omega
    rw [toDecimal_finite]
    show Decimal.unsigned? negative _ = _
    rw [htext] at hread ⊢
    rw [Decimal.unsigned?, isWordIn_eq_false hd (by decide), List.take_succ_cons,
      isWordIn_eq_false hd (by decide), List.take_succ_cons,
      isWordIn_eq_false hd (by decide), hread]
    simp [hbounds]

end Binary64

end RecordQuery.Number
