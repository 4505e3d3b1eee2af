import Mathlib.Algebra.Group.Nat.Defs
import RecordQuery.Text.Digit

/-!
# Numerals of a fixed width

Padded decimal and hexadecimal numerals are two cases of `fixedText`, the last digits of a number to
a base. `paddedText_eq` holds where the number has no more digits than the width, and
`decimalText_eq` where it has as many. Then the digits, read one by one, make up the number again
(`mapM_fixedText`).
-/

namespace RecordQuery.Text

/-- The last `width` digits of a number to a base. -/
def fixedText (digit : Nat → Char) (base : Nat) : Nat → Nat → List Char
  | 0, _ => []
  | width + 1, n => fixedText digit base width (n / base) ++ [digit (n % base)]

/-- The last decimal digits of a number. -/
abbrev digits (width n : Nat) : List Char := fixedText Nat.digitChar 10 width n

theorem digits_succ (width n : Nat) :
    digits (width + 1) n = digits width (n / 10) ++ [Nat.digitChar (n % 10)] := rfl

variable {digit : Nat → Char} {base width n : Nat}

@[simp]
theorem length_fixedText : (fixedText digit base width n).length = width := by
  induction width generalizing n with
  | zero => rfl
  | succ width ih => simp [fixedText, ih]

/-- The characters of a numeral are digits of values below the base. -/
theorem exists_of_mem_fixedText (hbase : 0 < base) {c : Char}
    (hc : c ∈ fixedText digit base width n) : ∃ d < base, c = digit d := by
  induction width generalizing n with
  | zero => simp [fixedText] at hc
  | succ width ih =>
    rcases List.mem_append.1 hc with hc | hc
    · exact ih hc
    · exact ⟨n % base, Nat.mod_lt n hbase, List.mem_singleton.1 hc⟩

/-- The digits of a number are read one by one. -/
theorem mapM_fixedText {digit? : Char → Option Nat} (hbase : 0 < base)
    (hdigit : ∀ d < base, digit? (digit d) = some d) (hn : n < base ^ width) :
    ∃ ds, (fixedText digit base width n).mapM digit? = some ds ∧
      ds.foldl (fun n d => base * n + d) 0 = n := by
  induction width generalizing n with
  | zero =>
    obtain rfl : n = 0 := by simpa using hn
    exact ⟨[], rfl, rfl⟩
  | succ width ih =>
    have hlast := hdigit (n % base) (Nat.mod_lt n hbase)
    have hfront : n / base < base ^ width := by
      rw [Nat.div_lt_iff_lt_mul hbase]
      rwa [Nat.pow_succ] at hn
    obtain ⟨ds, hds, hvalue⟩ := ih hfront
    refine ⟨ds ++ [n % base], ?_, ?_⟩
    · rw [fixedText, List.mapM_append, hds]
      simp [hlast]
    · rw [List.foldl_append, hvalue]
      exact Nat.div_add_mod n base

/-- A hexadecimal numeral. -/
theorem hexText_eq : hexText width n = fixedText hexDigit 16 width n := by
  induction width generalizing n with
  | zero => rfl
  | succ width ih => rw [hexText, fixedText, ih]

/-- The decimal digits of zero. -/
theorem digits_zero : digits width 0 = List.replicate width '0' := by
  induction width with
  | zero => rfl
  | succ width ih => rw [digits_succ, Nat.zero_div, ih, List.replicate_succ']; rfl

/-- A padded numeral of a number with no more digits than the width. -/
theorem paddedText_eq (hwidth : 0 < width) (hn : n < 10 ^ width) :
    paddedText width n = digits width n := by
  rw [paddedText, decimalText]
  induction width generalizing n with
  | zero => omega
  | succ width ih =>
    rw [Nat.toDigits_eq_if (by decide), digits_succ]
    split
    · next hlt => rw [Nat.div_eq_of_lt hlt, Nat.mod_eq_of_lt hlt, digits_zero, zeroPad]; rfl
    · next hge =>
      have hwidth : 0 < width := by
        rcases Nat.eq_zero_or_pos width with rfl | h
        · omega
        · exact h
      have hn' : n / 10 < 10 ^ width := by rw [Nat.pow_succ] at hn; omega
      rw [← ih hwidth hn', zeroPad, zeroPad, List.length_append, List.append_assoc]
      simp

/-- A numeral of a number with as many digits as the width is not padded. -/
theorem decimalText_eq (hwidth : 0 < width) (hlow : 10 ^ width ≤ n) (hn : n < 10 ^ (width + 1)) :
    decimalText n = digits (width + 1) n := by
  have hlength : ¬(Nat.toDigits 10 n).length ≤ width := by
    rw [Nat.length_toDigits_le_iff (by decide) hwidth]
    omega
  have hpad : width + 1 - (decimalText n).length = 0 := by
    rw [decimalText]
    omega
  rw [← paddedText_eq (by omega) hn, paddedText, zeroPad, hpad]
  rfl

/-- A numeral with any number of zeros in front are the last digits of its number. -/
theorem exists_zeros_decimalText_eq (k n : Nat) :
    ∃ width, n < 10 ^ width ∧ List.replicate k '0' ++ decimalText n = digits width n := by
  have hpos : 0 < (decimalText n).length :=
    List.length_pos_iff.2 Nat.toDigits_ne_nil
  have hn : n < 10 ^ (decimalText n).length :=
    (Nat.length_toDigits_le_iff (by decide) hpos).1 (Nat.le_refl _)
  have hlt : n < 10 ^ (k + (decimalText n).length) :=
    Nat.lt_of_lt_of_le hn (Nat.pow_le_pow_right (by decide) (Nat.le_add_left _ k))
  refine ⟨_, hlt, ?_⟩
  rw [← paddedText_eq (Nat.add_pos_right k hpos) hlt, paddedText, zeroPad, Nat.add_sub_cancel]

/-- The digits 0 to 9 are digits. -/
theorem isDigit_of_mem_digits {c : Char} (hc : c ∈ digits width n) : c.isDigit = true := by
  obtain ⟨d, hd, rfl⟩ := exists_of_mem_fixedText (by decide) hc
  simpa [Nat.isDigit_digitChar] using hd

end RecordQuery.Text
