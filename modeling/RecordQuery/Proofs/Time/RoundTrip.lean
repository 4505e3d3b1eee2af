import RecordQuery.Proofs.Time.Reading

/-!
# Reading back a written date-time

`Date.ofText?_text`: a date is read back from its text. `DateTime.ofText?_text`: a date-time is read
back from its text, with whatever fraction of the second and whatever offset, except that an offset
of less than a second is read as none at all (`Offset.read`).

Times of day and offsets are written alike, as `clockDigits` and `fractionDigits`, and an offset
without its sign is the time of day of its size.
-/

namespace RecordQuery.Time

open Text

/-! ## The fraction of a second -/

/-- Six digits behind a point, if there are microseconds. -/
def fractionDigits (micro : Nat) : List Char := if micro = 0 then [] else '.' :: digits 6 micro

/-- Hours, minutes, seconds and a fraction are read from their digits. -/
theorem ClockReading.ofText?_digits {hour minute second micro : Nat} (hhour : hour < 10 ^ 2)
    (hminute : minute < 10 ^ 2) (hsecond : second < 10 ^ 2) (hmicro : micro < 10 ^ 6) :
    ofText? (clockDigits hour minute second ++ fractionDigits micro) =
      some ⟨[hour, minute, second], micro, false⟩ := by
  have hlast : read? 1 (some true) (digits 2 second ++ fractionDigits micro) =
      some ⟨[second], micro, false⟩ := by
    rw [fractionDigits]
    split
    · next hzero => rw [List.append_nil, read?_last hsecond, hzero]
    · exact read?_fraction hsecond hmicro
  rw [ofText?, clockDigits, List.append_assoc, List.cons_append, List.append_assoc,
    List.cons_append, read?_colon hhour (by simp [digits_succ]) rfl,
    read?_colon hminute (by simp [digits_succ]) rfl, hlast]
  rfl

/-- Hours and minutes alone are read from their digits. -/
theorem ClockReading.ofText?_digits_minutes {hour minute : Nat} (hhour : hour < 10 ^ 2)
    (hminute : minute < 10 ^ 2) :
    ofText? (digits 2 hour ++ ':' :: digits 2 minute) = some ⟨[hour, minute], 0, false⟩ := by
  rw [ofText?, read?_colon hhour (by simp [digits_succ]) rfl, read?_last hminute]
  rfl

/-! ## A time of day -/

namespace TimeOfDay

/-- The text of a time of day is its digits. -/
theorem text_eq (t : TimeOfDay) :
    t.text = clockDigits t.hour t.minute t.second ++ fractionDigits t.micro := by
  rw [text, paddedText_eq (by decide) t.hour_lt, paddedText_eq (by decide) t.minute_lt,
    paddedText_eq (by decide) t.second_lt, paddedText_eq (by decide) t.micro_lt]
  simp [clockDigits, fractionDigits]

/-- The seconds of a time of day make up its hours, minutes and seconds. -/
theorem seconds_eq (t : TimeOfDay) :
    (t.hour * 60 + t.minute) * 60 + t.second = t.micros / secondMicros := by
  simp only [hour, minute, second, secondMicros]
  omega

/-- The hour, minute and second of a time of day make up its second, with any microsecond in it. -/
theorem of?_of_seconds {t u : TimeOfDay} (h : u.micros / secondMicros = t.micros / secondMicros) :
    of? t.hour t.minute t.second u.micro = some u := by
  have hmicros : ((t.hour * 60 + t.minute) * 60 + t.second) * secondMicros + u.micro =
      u.micros := by
    rw [seconds_eq, ← h, micro, Nat.div_add_mod']
  have hfields : t.minute < 60 ∧ t.second < 60 ∧ u.micro < secondMicros :=
    ⟨Nat.mod_lt _ (by decide), Nat.mod_lt _ (by decide), Nat.mod_lt _ (by decide)⟩
  simp only [of?, hmicros]
  rw [dif_pos u.micros_lt, if_pos hfields]

/-- The fields of a time of day. -/
theorem of?_self (t : TimeOfDay) : of? t.hour t.minute t.second t.micro = some t :=
  of?_of_seconds rfl

/-- No sign stands in the text of a time of day. -/
theorem isOffsetSign_of_mem_text {t : TimeOfDay} {c : Char} (hc : c ∈ t.text) :
    isOffsetSign c = false := by
  rw [text_eq, List.mem_append] at hc
  rcases hc with hc | hc
  · exact isOffsetSign_of_mem_clockDigits hc
  · unfold fractionDigits at hc
    split at hc
    · simp at hc
    · rcases List.mem_cons.1 hc with rfl | hc
      · decide
      · exact isOffsetSign_of_isDigit (isDigit_of_mem_digits hc)

/-- A time of day is read from its text. -/
theorem ofText?_text (t : TimeOfDay) :
    ClockReading.ofText? t.text = some ⟨[t.hour, t.minute, t.second], t.micro, false⟩ := by
  rw [text_eq, ClockReading.ofText?_digits t.hour_lt t.minute_lt t.second_lt t.micro_lt]

end TimeOfDay

/-! ## An offset -/

namespace Offset

/-- How far local time is ahead or behind. -/
def size (o : Offset) : TimeOfDay :=
  ⟨o.micros.natAbs, by have := o.neg_day_lt; have := o.lt_day; omega⟩

/-- What is read of the text of an offset: itself, unless it is less than a second. -/
def read (o : Offset) : Offset := if o.micros.natAbs < secondMicros then .utc else o

/-- Offsets of as many microseconds are equal. -/
theorem eq_of_micros_eq {o p : Offset} (h : o.micros = p.micros) : o = p := by
  cases o
  cases p
  simpa using h

/-- An offset is read back if and only if it is zero or a second at least. -/
theorem read_eq_self_iff {o : Offset} :
    o.read = o ↔ o.micros = 0 ∨ secondMicros ≤ o.micros.natAbs := by
  unfold read
  split
  · next hlt =>
    have hzero : utc = o ↔ o.micros = 0 :=
      ⟨fun h => (congrArg micros h).symm, fun h => eq_of_micros_eq h.symm⟩
    rw [hzero]
    omega
  · next hge => exact ⟨fun _ => .inr (by omega), fun _ => rfl⟩

/-- The number of microseconds of an offset. -/
theorem of?_self (o : Offset) : of? o.micros = some o := by
  rw [of?, dif_pos ⟨o.neg_day_lt, o.lt_day⟩]

/-- The sign of an offset. -/
def sign (o : Offset) : Char := if o.micros < 0 then '-' else '+'

theorem isOffsetSign_sign (o : Offset) : isOffsetSign o.sign = true := by
  rw [sign]
  split <;> rfl

/-- An offset has the sign minus if local time is behind. -/
theorem sign_eq_minus (o : Offset) : decide (o.sign = '-') = decide (o.micros < 0) := by
  rw [sign]
  split <;> simp_all

/-- The text of an offset is its sign and its size, without seconds if it is whole minutes. -/
theorem text_eq (o : Offset) :
    o.text = o.sign :: if o.size.second = 0 ∧ o.size.micro = 0 then
        digits 2 o.size.hour ++ ':' :: digits 2 o.size.minute
      else o.size.text := by
  have hhour : o.micros.natAbs / secondMicros / 3600 = o.size.hour := by
    rw [Nat.div_div_eq_div_mul, Nat.mul_comm]
    rfl
  have hminute : o.micros.natAbs / secondMicros / 60 % 60 = o.size.minute := by
    rw [Nat.div_div_eq_div_mul, Nat.mul_comm]
    rfl
  have hsecond : o.micros.natAbs / secondMicros % 60 = o.size.second := rfl
  have hmicro : o.micros.natAbs % secondMicros = o.size.micro := rfl
  simp only [text, hhour, hminute, hsecond, hmicro, TimeOfDay.text_eq]
  rw [paddedText_eq (by decide) o.size.hour_lt, paddedText_eq (by decide) o.size.minute_lt,
    paddedText_eq (by decide) o.size.second_lt, paddedText_eq (by decide) o.size.micro_lt]
  by_cases hwhole : o.size.second = 0 ∧ o.size.micro = 0
  · simp [sign, hwhole]
  · simp [sign, hwhole, clockDigits, fractionDigits]

/-- A sign comes first in the text of an offset, and its size is read of what follows. -/
theorem exists_text (o : Offset) :
    ∃ rest r, o.text = o.sign :: rest ∧ ClockReading.ofText? rest = some r ∧ r.leftover = false ∧
      r.seconds = o.micros.natAbs / secondMicros ∧ r.micro = o.micros.natAbs % secondMicros := by
  have hseconds := o.size.seconds_eq
  by_cases hwhole : o.size.second = 0 ∧ o.size.micro = 0
  · refine ⟨_, _, by rw [text_eq, if_pos hwhole],
      ClockReading.ofText?_digits_minutes o.size.hour_lt o.size.minute_lt, rfl, ?_, hwhole.2.symm⟩
    rw [hwhole.1] at hseconds
    exact hseconds
  · exact ⟨_, _, by rw [text_eq, if_neg hwhole], o.size.ofText?_text, rfl, hseconds, rfl⟩

/-- The sign and the size of an offset are those of what is read. -/
theorem ofReading?_eq {o : Offset} {r : ClockReading} (hleftover : r.leftover = false)
    (hseconds : r.seconds = o.micros.natAbs / secondMicros)
    (hmicro : r.micro = o.micros.natAbs % secondMicros) :
    ofReading? (decide (o.micros < 0)) r = some o.read := by
  have hsize : r.seconds * secondMicros + r.micro = o.micros.natAbs := by
    rw [hseconds, hmicro, Nat.div_add_mod']
  have hzero : r.seconds = 0 ↔ o.micros.natAbs < secondMicros := by
    rw [hseconds, Nat.div_eq_zero_iff]
    exact or_iff_right (by decide)
  have hsigned : (if decide (o.micros < 0) = true then -(o.micros.natAbs : Int)
      else o.micros.natAbs) = o.micros := by
    split
    · next h => have := of_decide_eq_true h; omega
    · next h => have := of_decide_eq_false (Bool.eq_false_iff.2 h); omega
  rw [ofReading?, hleftover, if_neg Bool.false_ne_true, read]
  by_cases hlt : o.micros.natAbs < secondMicros
  · rw [if_pos (hzero.2 hlt), if_pos hlt]
  · simp only [if_neg (mt hzero.1 hlt), if_neg hlt, hsize, hsigned, of?_self]

end Offset

/-! ## A date and a date-time -/

/-- A date is read back from its text. -/
theorem Date.ofText?_text (d : Date) : Date.ofText? d.text = some d := by
  rw [d.text_eq, d.ofText?_digits]

/-- A time of day with its offset is read back from its text. -/
theorem clockText?_text (t : TimeOfDay) (o? : Option Offset) :
    clockText? (t.text ++ (o?.map Offset.text).getD []) = some (t, o?.map Offset.read) := by
  have htime : ClockReading.timeOfDay? ⟨[t.hour, t.minute, t.second], t.micro, false⟩ = some t :=
    t.of?_self
  cases o? with
  | none =>
    rw [Option.map_none, Option.getD_none, List.append_nil]
    exact clockText?_of_read (fun c => TimeOfDay.isOffsetSign_of_mem_text) t.ofText?_text rfl htime
  | some o =>
    obtain ⟨rest, r, htext, hread, hleftover, hseconds, hmicro⟩ := o.exists_text
    have hoffset : Offset.ofReading? (o.sign = '-') r = some o.read := by
      rw [o.sign_eq_minus, Offset.ofReading?_eq hleftover hseconds hmicro]
    rw [Option.map_some, Option.getD_some, htext,
      clockText?_append (fun c => TimeOfDay.isOffsetSign_of_mem_text) o.isOffsetSign_sign,
      t.ofText?_text, Option.bind_some, hread, Option.bind_some, hoffset, Option.bind_some, htime]
    rfl

namespace DateTime

/-- What is read of the text of a date-time. -/
def read (t : DateTime) : DateTime := { t with offset? := t.offset?.map Offset.read }

/-- A date-time is read back from its text, but for an offset of less than a second. -/
theorem ofText?_text (t : DateTime) (separator : Char) :
    ofText? (t.text separator) = some t.read := by
  rw [text, Date.text_eq, List.append_assoc, List.cons_append]
  exact ofText?_append t.date separator (clockText?_text t.time t.offset?)

/-- A date-time is read back as it is if and only if its offset is. -/
theorem read_eq_self_iff {t : DateTime} :
    t.read = t ↔ ∀ o ∈ t.offset?, o.micros = 0 ∨ secondMicros ≤ o.micros.natAbs := by
  obtain ⟨date, time, o?⟩ := t
  cases o? with
  | none => simp [read]
  | some o => simp [read, Offset.read_eq_self_iff]

/-- The wall clock is read back, so what is read denotes another instant unless the offset is. -/
theorem read_eq_self_of_instant_eq {t : DateTime} (h : t.read.instant = t.instant) :
    t.read = t := by
  obtain ⟨date, time, o?⟩ := t
  cases o? with
  | none => rfl
  | some o =>
    have hmicros : o.read.micros = o.micros := by
      simp only [instant, wall, ahead, read, Option.map_some, Option.getD_some] at h
      omega
    rw [read, Option.map_some, Offset.eq_of_micros_eq hmicros]

end DateTime

end RecordQuery.Time
