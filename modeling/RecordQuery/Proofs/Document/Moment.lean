import RecordQuery.Document.Query
import RecordQuery.Proofs.Literal

/-!
# Moments in the filter of a query

A bound of a query is written to the second and at offset zero. `literal_momentChars` says what is
read of it: the beginning of its second, if its year has four digits, and nothing otherwise.
-/

namespace RecordQuery

open Text Time

namespace Time

/-! ## The beginning of a second -/

/-- The instant at which the second of an instant begins. -/
def secondStart (n : Int) : Int := n - n % secondMicros

/-- The time of day at which the second of a time of day begins. -/
def TimeOfDay.secondStart (t : TimeOfDay) : TimeOfDay :=
  ⟨t.micros - t.micros % secondMicros, by have := t.micros_lt; omega⟩

/-- The hour, minute and second of a time of day make up the beginning of its second. -/
theorem TimeOfDay.of?_fields (t : TimeOfDay) :
    TimeOfDay.of? t.hour t.minute t.second 0 = some t.secondStart := by
  have hmicro : t.secondStart.micro = 0 := by
    simp only [secondStart, micro, secondMicros]
    omega
  have hseconds : t.secondStart.micros / secondMicros = t.micros / secondMicros := by
    simp only [secondStart, secondMicros]
    omega
  rw [← hmicro, of?_of_seconds hseconds]

/-- The date-time at offset zero at which the second of a date-time begins. -/
def DateTime.secondStart (u : DateTime) : DateTime := ⟨u.date, u.time.secondStart, some .utc⟩

/-- At offset zero, the second of a date-time begins when that of its instant does. -/
theorem DateTime.instant_secondStart {u : DateTime} (h : u.offset? = some .utc) :
    u.secondStart.instant = Time.secondStart u.instant := by
  have hday : (u.date.ordinal * dayMicros + u.time.micros : Int) % secondMicros =
      (u.time.micros : Int) % secondMicros := by
    rw [show (dayMicros : Int) = 86400 * secondMicros from rfl, ← Int.mul_assoc,
      Int.add_comm, Int.add_mul_emod_self_right]
  have hle : u.time.micros % secondMicros ≤ u.time.micros := Nat.mod_le ..
  simp only [instant, wall, ahead, secondStart, h, Option.map_some, Option.getD_some, Offset.utc,
    Time.secondStart, TimeOfDay.secondStart, Int.sub_zero, hday]
  omega

end Time

namespace DocumentQuery

/-! ## The characters of a moment -/

/-- The characters of a moment: digits, hyphens, colons and the letter T. -/
def IsMomentChar (c : Char) : Prop := c.isDigit = true ∨ c = '-' ∨ c = ':' ∨ c = 'T'

/-- No other character is among them. -/
theorem IsMomentChar.ne {c d : Char} (h : IsMomentChar c) (hd : d.isDigit = false)
    (hne : d ∉ ['-', ':', 'T']) : c ≠ d := by
  rintro rfl
  rcases h with h | rfl | rfl | rfl
  · simp [h] at hd
  all_goals simp at hne

/-- No character of a moment is a blank. -/
theorem IsMomentChar.isBlank {c : Char} (h : IsMomentChar c) : isBlank c = false := by
  rcases h with h | rfl | rfl | rfl
  · exact isBlank_of_isDigit h
  all_goals decide

/-- The characters of the moment of a date-time at offset zero. -/
def momentChars (u : DateTime) : List Char :=
  decimalText u.date.year ++ '-' :: (digits 2 u.date.month ++ '-' :: (digits 2 u.date.day ++
    'T' :: clockDigits u.time.hour u.time.minute u.time.second))

/-- The moment of a date-time is that of its instant at offset zero. -/
theorem momentText_eq {t u : DateTime} (h : t.toUtc? = some u) :
    momentText t = .ok (momentChars u) := by
  simp only [momentText, h]
  rw [paddedText_eq (by decide) u.date.month_lt, paddedText_eq (by decide) u.date.day_lt,
    paddedText_eq (by decide) u.time.hour_lt, paddedText_eq (by decide) u.time.minute_lt,
    paddedText_eq (by decide) u.time.second_lt]
  simp [momentChars, clockDigits]

/-- What the characters of a moment are. -/
theorem isMomentChar_of_mem {u : DateTime} {c : Char} (hc : c ∈ momentChars u) :
    IsMomentChar c := by
  have hdigits {width n : Nat} (h : c ∈ digits width n) : IsMomentChar c :=
    .inl (isDigit_of_mem_digits h)
  simp only [momentChars, clockDigits, List.mem_append, List.mem_cons] at hc
  rcases hc with hc | rfl | hc | rfl | hc | rfl | hc | rfl | hc | rfl | hc
  · exact .inl (Nat.isDigit_of_mem_toDigits (by decide) (by decide) hc)
  · exact .inr (.inl rfl)
  · exact hdigits hc
  · exact .inr (.inl rfl)
  · exact hdigits hc
  · exact .inr (.inr (.inr rfl))
  · exact hdigits hc
  · exact .inr (.inr (.inl rfl))
  · exact hdigits hc
  · exact .inr (.inr (.inl rfl))
  · exact hdigits hc

/-! ## Reading a moment -/

/-- Reading a moment is reading its characters as a date-time. -/
theorem dateTimeText?_momentChars (u : DateTime) :
    Literal.dateTimeText? (trim (momentChars u)) = DateTime.ofText? (momentChars u) := by
  have hT : 'T' ∈ momentChars u := by simp [momentChars]
  have htrim : trim (momentChars u) = momentChars u :=
    trim_eq_self fun c hc => (isMomentChar_of_mem hc).isBlank
  have hzulu : Literal.spellZulu (momentChars u) = momentChars u :=
    Literal.spellZulu_eq_self fun c hc => (isMomentChar_of_mem hc).ne (by decide) (by decide)
  rw [htrim, Literal.dateTimeText?, if_neg (fun h => h.1 hT), hzulu]

/-- A moment of a year with four digits is read as the beginning of its second. -/
theorem literal_momentChars {u : DateTime} (hyear : 1000 ≤ u.date.year) :
    Literal.dateTime (some .dateTime) (momentChars u) = .ok (.dateTime u.secondStart) := by
  have hchars : momentChars u =
      u.date.digits ++ 'T' :: clockDigits u.time.hour u.time.minute u.time.second := by
    rw [momentChars, decimalText_eq (by decide : 0 < 3) hyear u.date.year_lt]
    simp [Date.digits]
  have hread := DateTime.ofText?_digits u.date u.time.of?_fields u.time.hour_lt
    u.time.minute_lt u.time.second_lt
  have hutc := DateTime.toUtc?_of_ahead_eq_zero (t := ⟨u.date, u.time.secondStart, none⟩) rfl
  rw [Literal.dateTime, dateTimeText?_momentChars, hchars, hread]
  simp only [orMalformed, bind, Except.bind, Literal.universal, hutc]
  rfl

/-- A moment of a year with fewer digits is no date-time. -/
theorem literal_momentChars_short {u : DateTime} (hyear : u.date.year < 1000) :
    Literal.dateTime (some .dateTime) (momentChars u) = .error (.malformed "datetime") := by
  have hlength : (decimalText u.date.year).length ≤ 3 :=
    (Nat.length_toDigits_le_iff (by decide) (by decide)).2 hyear
  have hhyphen : '-' ∈ (momentChars u).take 4 := by
    obtain ⟨k, hk⟩ := Nat.exists_eq_add_of_le hlength
    have hfour : 4 - (decimalText u.date.year).length = k + 1 := by omega
    rw [momentChars, List.take_append, hfour, List.take_succ_cons]
    simp
  rw [Literal.dateTime, dateTimeText?_momentChars, DateTime.ofText?_short_year hhyphen]
  rfl

end DocumentQuery

end RecordQuery
