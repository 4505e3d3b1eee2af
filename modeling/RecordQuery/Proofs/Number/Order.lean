import Mathlib.Algebra.Order.Field.Rat
import Mathlib.Algebra.Order.Field.Basic
import Mathlib.Algebra.Order.Field.Power
import Mathlib.Algebra.Order.Ring.Int
import Mathlib.Order.Compare
import Mathlib.Order.WithBot
import Mathlib.Tactic.FieldSimp
import Mathlib.Tactic.Positivity
import Mathlib.Tactic.Ring
import RecordQuery.Number.Scaled

/-!
# The order of numbers

Numbers that are held as a ratio and a power of ten compare as the rational numbers that they denote
(`Scaled.compare_eq_cmp`), although a power of ten that outgrows the other side is never written
out. With the infinities, numbers compare as rational numbers between a least and a greatest element
(`Extended.compare_eq_cmp`).
-/

namespace RecordQuery.Number

/-- A power of ten above the bit length of the other side decides as the product would. -/
theorem compareTimesPow_eq_cmp (a e b : Nat) : compareTimesPow a e b = cmp (a * 10 ^ e) b := by
  rw [compareTimesPow]
  by_cases hzero : a = 0
  · rw [if_pos hzero, hzero, Nat.zero_mul]
    exact (cmp_eq_compare 0 b).symm
  · rw [if_neg hzero]
    by_cases hlog : b.log2 < e
    · have hlt : b < a * 10 ^ e :=
        calc b < 2 ^ (b.log2 + 1) := Nat.lt_log2_self
          _ ≤ 2 ^ e := Nat.pow_le_pow_right (by decide) hlog
          _ ≤ 10 ^ e := Nat.pow_le_pow_left (by decide) e
          _ ≤ a * 10 ^ e := Nat.le_mul_of_pos_left _ (Nat.pos_of_ne_zero hzero)
      rw [if_pos hlog, (cmp_eq_gt_iff _ _).2 hlt]
    · rw [if_neg hlog]
      exact (cmp_eq_compare (a * 10 ^ e) b).symm

/-- Integers compare with integers times powers of ten by their signs first. -/
theorem compareIntTimesPow_eq_cmp (a : Int) (e : Nat) (b : Int) :
    compareIntTimesPow a e b = cmp (a * 10 ^ e) b := by
  have hpow : (0 : Int) < 10 ^ e := by positivity
  have hcast : StrictMono (Nat.cast : Nat → Int) := Nat.strictMono_cast
  cases a with
  | ofNat a =>
    cases b with
    | ofNat b =>
      have ha : ((a * 10 ^ e : Nat) : Int) = a * 10 ^ e := by push_cast; rfl
      rw [compareIntTimesPow, compareTimesPow_eq_cmp, ← hcast.cmp_map_eq, ha]
      rfl
    | negSucc b =>
      have hlt : Int.negSucc b < (a : Int) * 10 ^ e :=
        (Int.negSucc_lt_zero b).trans_le (by positivity)
      exact ((cmp_eq_gt_iff _ _).2 hlt).symm
  | negSucc a =>
    cases b with
    | ofNat b =>
      have hlt : Int.negSucc a * 10 ^ e < (b : Int) :=
        (mul_neg_of_neg_of_pos (Int.negSucc_lt_zero a) hpow).trans_le (by positivity)
      exact ((cmp_eq_lt_iff _ _).2 hlt).symm
    | negSucc b =>
      have hanti : StrictAnti (Neg.neg : Int → Int) := fun _ _ => Int.neg_lt_neg
      have ha : Int.negSucc a * 10 ^ e = -(((a + 1) * 10 ^ e : Nat) : Int) := by
        rw [Int.negSucc_eq]
        push_cast
        ring
      have hb : Int.negSucc b = -((b + 1 : Nat) : Int) := rfl
      rw [compareIntTimesPow, compareTimesPow_eq_cmp, cmp_swap, ha, hb, hanti.cmp_map_eq,
        hcast.cmp_map_eq]

/-- The rational number. -/
def Scaled.toRat (x : Scaled) : ℚ := x.ratio * 10 ^ x.exponent

/-- Numbers compare by cross multiplication, times the power of ten by which the exponent of the
first exceeds that of the second. -/
theorem Scaled.compareIntTimesPow_eq_cmp {x y : Scaled} (h : y.exponent ≤ x.exponent) :
    compareIntTimesPow (x.ratio.num * y.ratio.den) (x.exponent - y.exponent).toNat
      (y.ratio.num * x.ratio.den) = cmp x.toRat y.toRat := by
  let scale : ℚ := x.ratio.den * y.ratio.den * 10 ^ (-y.exponent)
  have hscale : 0 < scale := by
    have hx : (0 : ℚ) < x.ratio.den := Nat.cast_pos.2 x.ratio.den_pos
    have hy : (0 : ℚ) < y.ratio.den := Nat.cast_pos.2 y.ratio.den_pos
    positivity
  have hten : (10 : ℚ) ≠ 0 := by norm_num
  have hx : x.toRat * scale =
      ((x.ratio.num * y.ratio.den * 10 ^ (x.exponent - y.exponent).toNat : Int) : ℚ) := by
    have hpow : (10 : ℚ) ^ x.exponent * 10 ^ (-y.exponent) =
        10 ^ (x.exponent - y.exponent).toNat := by
      rw [← zpow_add₀ hten, ← zpow_natCast, Int.toNat_of_nonneg (by omega), sub_eq_add_neg]
    push_cast
    rw [← Rat.mul_den_eq_num, ← hpow, Scaled.toRat]
    ring
  have hy : y.toRat * scale = ((y.ratio.num * x.ratio.den : Int) : ℚ) := by
    have hpow : (10 : ℚ) ^ y.exponent * 10 ^ (-y.exponent) = 1 := by
      rw [← zpow_add₀ hten, add_neg_cancel, zpow_zero]
    push_cast
    rw [← Rat.mul_den_eq_num, Scaled.toRat]
    calc y.ratio * 10 ^ y.exponent * (x.ratio.den * y.ratio.den * 10 ^ (-y.exponent))
        = y.ratio * y.ratio.den * x.ratio.den * (10 ^ y.exponent * 10 ^ (-y.exponent)) := by ring
      _ = y.ratio * y.ratio.den * x.ratio.den := by rw [hpow, mul_one]
  have hcast : StrictMono (Int.cast : Int → ℚ) := Int.cast_strictMono
  rw [RecordQuery.Number.compareIntTimesPow_eq_cmp, ← hcast.cmp_map_eq, ← hx, ← hy,
    (strictMono_mul_right_of_pos hscale).cmp_map_eq]

/-- Numbers compare as the rational numbers that they denote. -/
theorem Scaled.compare_eq_cmp (x y : Scaled) : x.compare y = cmp x.toRat y.toRat := by
  rw [Scaled.compare]
  by_cases h : y.exponent ≤ x.exponent
  · rw [if_pos h]
    exact compareIntTimesPow_eq_cmp h
  · have hle : x.exponent ≤ y.exponent := (not_le.1 h).le
    rw [if_neg h, compareIntTimesPow_eq_cmp hle, cmp_swap]

/-- The place of a number among the rational numbers, with the infinities at the ends. -/
def Extended.place : Extended → WithBot (WithTop ℚ)
  | negInfinity => ⊥
  | finite x => ((x.toRat : WithTop ℚ) : WithBot (WithTop ℚ))
  | posInfinity => ⊤

/-- Numbers and infinities compare by their places. -/
theorem Extended.compare_eq_cmp (x y : Extended) : x.compare y = cmp x.place y.place := by
  have hcoe : StrictMono fun q : ℚ => ((q : WithTop ℚ) : WithBot (WithTop ℚ)) :=
    WithBot.coe_strictMono.comp WithTop.coe_strictMono
  refine (Ordering.Compares.cmp_eq ?_).symm
  cases x with
  | negInfinity =>
    cases y with
    | negInfinity => exact rfl
    | finite y => exact WithBot.bot_lt_coe _
    | posInfinity => exact bot_lt_top
  | finite x =>
    cases y with
    | negInfinity => exact WithBot.bot_lt_coe _
    | finite y =>
      rw [Extended.compare, Scaled.compare_eq_cmp, ← hcoe.cmp_map_eq]
      exact cmp_compares _ _
    | posInfinity => exact WithBot.coe_lt_coe.2 (WithTop.coe_lt_top _)
  | posInfinity =>
    cases y with
    | negInfinity => exact bot_lt_top
    | finite y => exact WithBot.coe_lt_coe.2 (WithTop.coe_lt_top _)
    | posInfinity => exact rfl

end RecordQuery.Number
