import RecordQuery.Proofs.Text.Order
import RecordQuery.Proofs.Time.Calendar

/-!
# The fields of a date-time

The year of a date has at most four digits and every other field but the microsecond at most two
(`Date.year_lt` and the like). Field by field, dates compare as their numbers do, times of day as
their microseconds (`TimeOfDay.compare_micros`), and date-times as their wall clocks
(`DateTime.compare_wall`).
-/

namespace RecordQuery.Time

open Text

/-! ## The digits of a field -/

/-- No month has more than 31 days. -/
theorem daysInMonth_le (year month : Nat) : daysInMonth year month ≤ 31 := by
  unfold daysInMonth
  split
  · split <;> omega
  · split <;> omega

namespace Date

theorem year_lt (d : Date) : d.year < 10 ^ 4 := by
  have : d.year ≤ 9999 := d.exists_date.1.2
  omega

theorem month_lt (d : Date) : d.month < 10 ^ 2 := by
  have := d.month_le
  omega

theorem day_lt (d : Date) : d.day < 10 ^ 2 := by
  have := d.day_le
  have := daysInMonth_le d.year d.month
  omega

/-- The digits of a date with hyphens between them. -/
def digits (d : Date) : List Char :=
  Text.digits 4 d.year ++ '-' :: (Text.digits 2 d.month ++ '-' :: Text.digits 2 d.day)

theorem length_digits (d : Date) : d.digits.length = 10 := by simp [digits]

/-- The text of a date is its digits. -/
theorem text_eq (d : Date) : d.text = d.digits := by
  rw [text, paddedText_eq (by decide) d.year_lt, paddedText_eq (by decide) d.month_lt,
    paddedText_eq (by decide) d.day_lt, digits, List.append_assoc]
  rfl

end Date

namespace TimeOfDay

theorem hour_lt (t : TimeOfDay) : t.hour < 10 ^ 2 := by
  have hlt := t.micros_lt
  simp only [dayMicros, secondMicros] at hlt
  simp only [hour, secondMicros]
  omega

theorem minute_lt (t : TimeOfDay) : t.minute < 10 ^ 2 :=
  Nat.lt_trans (Nat.mod_lt _ (by decide)) (by decide)

theorem second_lt (t : TimeOfDay) : t.second < 10 ^ 2 :=
  Nat.lt_trans (Nat.mod_lt _ (by decide)) (by decide)

theorem micro_lt (t : TimeOfDay) : t.micro < 10 ^ 6 := Nat.mod_lt _ (by decide)

end TimeOfDay

/-! ## Comparing field by field -/

/-- Dates compare as their digits do. -/
theorem Date.compare_digits (d e : Date) :
    compare d.digits e.digits = compare d.ordinal e.ordinal := by
  rw [digits, digits, compare_append_cons (by simp), compare_append_cons (by simp),
    Text.compare_digits d.year_lt e.year_lt, Text.compare_digits d.month_lt e.month_lt,
    Text.compare_digits d.day_lt e.day_lt, compare_ordinal]

/-- Times of day compare by hour, minute, second and microsecond. -/
theorem TimeOfDay.compare_micros (s t : TimeOfDay) :
    compare s.micros t.micros =
      (compare s.hour t.hour).then ((compare s.minute t.minute).then
        ((compare s.second t.second).then (compare s.micro t.micro))) := by
  have hhour (t : TimeOfDay) : t.micros / secondMicros / 60 / 60 = t.hour := by
    rw [Nat.div_div_eq_div_mul, Nat.div_div_eq_div_mul]
    rfl
  have hminute (t : TimeOfDay) : t.micros / secondMicros / 60 % 60 = t.minute := by
    rw [Nat.div_div_eq_div_mul]
    rfl
  rw [← compare_div_mod s.micros t.micros secondMicros,
    ← compare_div_mod (s.micros / secondMicros) (t.micros / secondMicros) 60,
    ← compare_div_mod (s.micros / secondMicros / 60) (t.micros / secondMicros / 60) 60,
    hhour, hhour, hminute, hminute, Ordering.then_assoc, Ordering.then_assoc]
  rfl

namespace DateTime

/-- On an earlier day the wall clock is behind. -/
theorem wall_lt_of_ordinal_lt {t u : DateTime} (h : t.date.ordinal < u.date.ordinal) :
    t.wall < u.wall := by
  have ht := t.time.micros_lt
  simp only [dayMicros, secondMicros] at ht
  simp only [wall, dayMicros, secondMicros]
  omega

/-- Date-times compare by the date, then by the time of day, as their wall clocks do. -/
theorem compare_wall (t u : DateTime) :
    compare t.wall u.wall =
      (compare t.date.ordinal u.date.ordinal).then (compare t.time.micros u.time.micros) := by
  rcases Nat.lt_trichotomy t.date.ordinal u.date.ordinal with hlt | heq | hgt
  · rw [Nat.compare_eq_lt.2 hlt, Int.compare_eq_lt.2 (wall_lt_of_ordinal_lt hlt)]
    rfl
  · rw [Nat.compare_eq_eq.2 heq, wall, wall, heq, Int.compare_eq_ite_lt, Nat.compare_eq_ite_lt]
    simp only [Int.add_lt_add_iff_left, Int.ofNat_lt]
    rfl
  · rw [Nat.compare_eq_gt.2 hgt, Int.compare_eq_gt.2 (wall_lt_of_ordinal_lt hgt)]
    rfl

end DateTime

end RecordQuery.Time
