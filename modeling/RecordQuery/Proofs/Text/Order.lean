import RecordQuery.Proofs.Text.Digit

/-!
# The order of texts

Texts compare by their first difference (`compare_ofList`), so what stands in front of texts of one
length decides first (`compare_append`). Numerals of one width compare as their numbers
(`compare_fixedText`): a number compares by its quotient, then by its remainder
(`compare_div_mod`), and so do the digits in front of the last and the last digit.
-/

namespace RecordQuery.Text

/-! ## Texts as lists of characters -/

/-- Texts compare as the lists of their characters. -/
theorem compare_ofList (s t : List Char) :
    compare (String.ofList s) (String.ofList t) = compare s t := by
  have hunfold : compare (String.ofList s) (String.ofList t) =
      compareOfLessAndEq (String.ofList s) (String.ofList t) := rfl
  simp only [hunfold, compareOfLessAndEq, String.lt_iff, String.toList_ofList, String.ofList_inj]
  clear hunfold
  induction s generalizing t with
  | nil => cases t <;> simp
  | cons c s ih =>
    cases t with
    | nil => simp
    | cons d t =>
      have hchar : compare c d = compareOfLessAndEq c d := rfl
      rw [List.compare_cons_cons, ← ih, hchar, compareOfLessAndEq]
      by_cases hlt : c < d
      · simp [List.cons_lt_cons_iff, hlt]
      · by_cases heq : c = d
        · simp [heq]
        · have hnot : ¬c :: s < d :: t := by simp [List.cons_lt_cons_iff, hlt, heq, -List.not_lt]
          simp [hnot, hlt, heq, -List.not_lt]

variable {s t u v : List Char}

/-- What stands in front of texts of one length decides first. -/
theorem compare_append (h : s.length = t.length) :
    compare (s ++ u) (t ++ v) = (compare s t).then (compare u v) := by
  induction s generalizing t with
  | nil =>
    have : t = [] := List.length_eq_zero_iff.1 h.symm
    subst this
    rfl
  | cons c s ih =>
    cases t with
    | nil => simp at h
    | cons d t =>
      have hlength : s.length = t.length := by simpa using h
      simp only [List.cons_append, List.compare_cons_cons, ih hlength, Ordering.then_assoc]

/-- A character that both texts have at one place decides nothing. -/
theorem compare_append_cons (h : s.length = t.length) (c : Char) :
    compare (s ++ c :: u) (t ++ c :: v) = (compare s t).then (compare u v) := by
  rw [compare_append h, List.compare_cons_cons, Std.ReflOrd.compare_self]
  rfl

/-! ## Numerals of one width -/

/-- Numbers compare by their quotients, then by their remainders. -/
theorem compare_div_mod (m n base : Nat) :
    (compare (m / base) (n / base)).then (compare (m % base) (n % base)) = compare m n := by
  have hm := Nat.div_add_mod m base
  have hn := Nat.div_add_mod n base
  rcases Nat.lt_trichotomy (m / base) (n / base) with hlt | heq | hgt
  · rw [Nat.compare_eq_lt.2 hlt, Nat.compare_eq_lt.2 (Nat.lt_of_div_lt_div hlt)]
    rfl
  · rw [Nat.compare_eq_eq.2 heq]
    rw [heq] at hm
    have hlt : m % base < n % base ↔ m < n := by omega
    have hgt : n % base < m % base ↔ n < m := by omega
    simp only [Ordering.then, Nat.compare_eq_ite_lt, hlt, hgt]
  · rw [Nat.compare_eq_gt.2 hgt, Nat.compare_eq_gt.2 (Nat.lt_of_div_lt_div hgt)]
    rfl

variable {digit : Nat → Char} {base width m n : Nat}

/-- Numerals of one width compare as their numbers, if the digits below the base do. -/
theorem compare_fixedText (hbase : 0 < base)
    (hdigit : ∀ i < base, ∀ j < base, compare (digit i) (digit j) = compare i j)
    (hm : m < base ^ width) (hn : n < base ^ width) :
    compare (fixedText digit base width m) (fixedText digit base width n) = compare m n := by
  induction width generalizing m n with
  | zero =>
    rw [Nat.pow_zero, Nat.lt_one_iff] at hm hn
    rw [hm, hn]
    rfl
  | succ width ih =>
    rw [Nat.pow_succ] at hm hn
    have hm' : m / base < base ^ width := Nat.div_lt_of_lt_mul (by rwa [Nat.mul_comm])
    have hn' : n / base < base ^ width := Nat.div_lt_of_lt_mul (by rwa [Nat.mul_comm])
    have hlast := hdigit (m % base) (Nat.mod_lt m hbase) (n % base) (Nat.mod_lt n hbase)
    rw [fixedText, fixedText, compare_append (by simp), ih hm' hn', List.compare_cons_cons, hlast,
      List.compare_nil_nil, Ordering.then_eq, compare_div_mod]

/-- Decimal numerals of one width compare as their numbers. -/
theorem compare_digits (hm : m < 10 ^ width) (hn : n < 10 ^ width) :
    compare (digits width m) (digits width n) = compare m n :=
  compare_fixedText (by decide) (by decide) hm hn

/-- Hexadecimal numerals of one width compare as their numbers. -/
theorem compare_hexText (hm : m < 16 ^ width) (hn : n < 16 ^ width) :
    compare (hexText width m) (hexText width n) = compare m n := by
  rw [hexText_eq, hexText_eq]
  exact compare_fixedText (by decide) (by decide) hm hn

end RecordQuery.Text
