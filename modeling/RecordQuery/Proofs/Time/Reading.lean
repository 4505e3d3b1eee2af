import Mathlib.Data.List.TakeWhile
import RecordQuery.Proofs.Time.Fields
import RecordQuery.Time.Iso

/-!
# Reading back the digits of a date-time

`DateTime.ofText?_digits`: a year in four digits, with the month, day, hour, minute and second in
two digits each, hyphens, the letter T and colons between them, is read as the date and the time of
these numbers. `DateTime.ofText?_short_year`: where a hyphen stands among the first four characters,
nothing is read.
-/

namespace RecordQuery.Time

open Text

variable {width n : Nat} {rest : List Char}

/-! ## Digits -/

/-- The digit of a number below ten is read back. -/
theorem asciiDigit?_digitChar (h : n < 10) : asciiDigit? n.digitChar = some n := by
  have hdigit : n.digitChar.isDigit = true := by simpa [Nat.isDigit_digitChar] using h
  rw [asciiDigit?, if_pos hdigit, Nat.toNat_digitChar_of_lt_ten h]
  simp

/-- The digits of a number are read as the number, whatever follows them. -/
theorem takeDigits?_digits (hn : n < 10 ^ width) (rest : List Char) :
    takeDigits? width (digits width n ++ rest) = some (n, rest) := by
  obtain ⟨ds, hds, hvalue⟩ := mapM_fixedText (by decide) (fun d => asciiDigit?_digitChar) hn
  have hlength : (digits width n).length = width := length_fixedText
  have htake : (digits width n ++ rest).take width = digits width n := List.take_left' hlength
  have hdrop : (digits width n ++ rest).drop width = rest := List.drop_left' hlength
  rw [takeDigits?, if_neg (by simp), htake, hdrop, hds, Option.map_some, hvalue]

/-- No number is read where a character that is no digit stands among the digits. -/
theorem takeDigits?_eq_none {count : Nat} {s : List Char} {c : Char} (hc : c.isDigit = false)
    (h : c ∈ s.take count) : takeDigits? count s = none := by
  have hmap : (s.take count).mapM asciiDigit? = none := by
    generalize s.take count = t at h
    induction t with
    | nil => simp at h
    | cons d t ih =>
      rcases List.mem_cons.1 h with rfl | h
      · simp [asciiDigit?, hc]
      · simp [ih h]
  rw [takeDigits?, hmap, Option.map_none, ite_self]

/-- Two digits begin with a digit. -/
theorem digits_two (n : Nat) : ∃ c d, digits 2 n = [c, d] ∧ c.isDigit = true := by
  refine ⟨(n / 10 % 10).digitChar, (n % 10).digitChar, rfl, ?_⟩
  simpa [Nat.isDigit_digitChar] using Nat.mod_lt (n / 10) (by decide)

/-! ## A date -/

/-- The numbers of a date. -/
theorem Date.of?_self (d : Date) : Date.of? d.year d.month d.day = some d := by
  rw [Date.of?, dif_pos d.exists_date]

/-- A date is read from its digits. -/
theorem Date.ofText?_digits (d : Date) : Date.ofText? d.digits = some d := by
  obtain ⟨c, e, hce, hdigit⟩ := digits_two d.month
  have hW : c ≠ 'W' := by rintro rfl; simp at hdigit
  have hmonth' := takeDigits?_digits d.month_lt ('-' :: Text.digits 2 d.day)
  have hday' := takeDigits?_digits d.day_lt []
  rw [List.append_nil] at hday'
  rw [Date.ofText?, Date.digits, takeDigits?_digits d.year_lt]
  simp only [Option.bind_eq_bind, Option.bind_some, List.head?_cons, decide_true, if_true,
    List.drop_succ_cons, List.drop_zero]
  have hmatch : monthDate? d.year true (Text.digits 2 d.month ++ '-' :: Text.digits 2 d.day) =
      some d := by
    simp [monthDate?, hmonth', dropHyphen?, dropChar?, hday', Date.of?_self]
  rw [hce] at hmatch ⊢
  simp only [List.cons_append]
  split
  · next heq => simp_all
  · exact hmatch

/-! ## A time of day -/

/-- The digits of a time of day with colons between them. -/
def clockDigits (hour minute second : Nat) : List Char :=
  digits 2 hour ++ ':' :: (digits 2 minute ++ ':' :: digits 2 second)

/-- A number with a colon behind it is a field of a time of day. -/
theorem ClockReading.read?_colon {fields : Nat} {colons? : Option Bool} (hn : n < 10 ^ 2)
    (hrest : rest ≠ []) (hcolons : colons?.getD true = true) :
    read? (fields + 1) colons? (digits 2 n ++ ':' :: rest) =
      (read? fields (some true) rest).map (cons n) := by
  obtain ⟨c, rest, rfl⟩ := List.exists_cons_of_ne_nil hrest
  simp [read?, takeDigits?_digits hn, hcolons]

/-- A number at the end is the last field of a time of day. -/
theorem ClockReading.read?_last {fields : Nat} {colons? : Option Bool} (hn : n < 10 ^ 2) :
    read? (fields + 1) colons? (digits 2 n) = some ⟨[n], 0, false⟩ := by
  have h := takeDigits?_digits hn []
  rw [List.append_nil] at h
  simp [read?, h]

/-- A number with a point and six digits behind it is the last field, with a fraction. -/
theorem ClockReading.read?_fraction {fields micro : Nat} {colons? : Option Bool} (hn : n < 10 ^ 2)
    (hmicro : micro < 10 ^ 6) :
    read? (fields + 1) colons? (digits 2 n ++ '.' :: digits 6 micro) =
      some ⟨[n], micro, false⟩ := by
  obtain ⟨ds, hds, hvalue⟩ := mapM_fixedText (by decide) (fun d => asciiDigit?_digitChar) hmicro
  have htake : (digits 6 micro).take 6 = digits 6 micro := List.take_of_length_le (by simp)
  have hdrop : (digits 6 micro).drop 6 = [] := List.drop_of_length_le (by simp)
  have hfraction : fraction? (digits 6 micro) = some ⟨[], micro, false⟩ := by
    simp [fraction?, htake, hdrop, hds, hvalue, isLeftover, Number.tenPow]
  obtain ⟨c, cs, hcs⟩ : ∃ c cs, digits 6 micro = c :: cs := ⟨_, _, rfl⟩
  rw [hcs] at hfraction
  rw [read?, takeDigits?_digits hn, hcs]
  simp [hfraction, cons]

/-- No digit is the sign of an offset. -/
theorem isOffsetSign_of_isDigit {c : Char} (hc : c.isDigit = true) : isOffsetSign c = false := by
  simp only [isOffsetSign, Bool.or_eq_false_iff, decide_eq_false_iff_not]
  constructor <;> rintro rfl <;> simp at hc

/-- A text without a sign is a time of day without an offset. -/
theorem clockText?_of_read {s : List Char} {r : ClockReading} {t : TimeOfDay}
    (hsign : ∀ c ∈ s, isOffsetSign c = false) (hread : ClockReading.ofText? s = some r)
    (hleftover : r.leftover = false) (htime : r.timeOfDay? = some t) :
    clockText? s = some (t, none) := by
  have hnot : ∀ c ∈ s, (!isOffsetSign c) = true := by simpa using hsign
  rw [clockText?, List.takeWhile_eq_self_iff.2 hnot, List.dropWhile_eq_nil_iff.2 hnot, hread]
  simp [hleftover, htime]

/-- A time of day stands in front of the first sign, and its offset from the sign on. -/
theorem clockText?_append {s : List Char} {sign : Char} (hs : ∀ c ∈ s, isOffsetSign c = false)
    (hsign : isOffsetSign sign = true) (rest : List Char) :
    clockText? (s ++ sign :: rest) =
      (ClockReading.ofText? s).bind fun r => (ClockReading.ofText? rest).bind fun r' =>
        (Offset.ofReading? (sign = '-') r').bind fun o => r.timeOfDay?.map (·, some o) := by
  have hpos : ∀ c ∈ s, (!isOffsetSign c) = true := by simpa using hs
  have hneg : ¬(!isOffsetSign sign) = true := by simp [hsign]
  have htake : (s ++ sign :: rest).takeWhile (fun c => !isOffsetSign c) = s := by
    rw [List.takeWhile_append_of_pos hpos,
      List.takeWhile_cons_of_neg (p := fun c => !isOffsetSign c) hneg, List.append_nil]
  have hdrop : (s ++ sign :: rest).dropWhile (fun c => !isOffsetSign c) = sign :: rest := by
    rw [List.dropWhile_append_of_pos hpos,
      List.dropWhile_cons_of_neg (p := fun c => !isOffsetSign c) hneg]
  rw [clockText?, htake, hdrop]
  rfl

/-- The digits of a time of day have no sign. -/
theorem isOffsetSign_of_mem_clockDigits {hour minute second : Nat} {c : Char}
    (hc : c ∈ clockDigits hour minute second) : isOffsetSign c = false := by
  simp only [clockDigits, List.mem_append, List.mem_cons] at hc
  rcases hc with hc | rfl | hc | rfl | hc
  · exact isOffsetSign_of_isDigit (isDigit_of_mem_digits hc)
  · decide
  · exact isOffsetSign_of_isDigit (isDigit_of_mem_digits hc)
  · decide
  · exact isOffsetSign_of_isDigit (isDigit_of_mem_digits hc)

/-- A time of day is read from its digits. -/
theorem clockText?_digits {hour minute second : Nat} {t : TimeOfDay}
    (h : TimeOfDay.of? hour minute second 0 = some t) (hhour : hour < 10 ^ 2)
    (hminute : minute < 10 ^ 2) (hsecond : second < 10 ^ 2) :
    clockText? (clockDigits hour minute second) = some (t, none) := by
  have hread : ClockReading.ofText? (clockDigits hour minute second) =
      some ⟨[hour, minute, second], 0, false⟩ := by
    rw [ClockReading.ofText?, clockDigits,
      ClockReading.read?_colon hhour (by simp [digits_succ]) rfl,
      ClockReading.read?_colon hminute (by simp [digits_succ]) rfl, ClockReading.read?_last hsecond]
    rfl
  have htime : ClockReading.timeOfDay? ⟨[hour, minute, second], 0, false⟩ = some t := by
    rw [ClockReading.timeOfDay?]
    exact h
  exact clockText?_of_read (fun c => isOffsetSign_of_mem_clockDigits) hread rfl htime

/-! ## A date with a time of day -/

/-- The digits of a date, one character and the text of a time of day are read as the two. -/
theorem DateTime.ofText?_append (d : Date) (separator : Char) {s : List Char} {t : TimeOfDay}
    {o? : Option Offset} (h : clockText? s = some (t, o?)) :
    DateTime.ofText? (d.digits ++ separator :: s) = some ⟨d, t, o?⟩ := by
  have hlength : dateLength? (d.digits ++ separator :: s) = some 10 := by
    obtain ⟨c, e, hce, hdigit⟩ := digits_two d.month
    have hW : c ≠ 'W' := by rintro rfl; simp at hdigit
    have hsize : 7 < (d.digits ++ separator :: s).length := by
      rw [List.length_append, d.length_digits, List.length_cons]
      omega
    have hfour : (d.digits ++ separator :: s)[4]? = some '-' := by simp [Date.digits]
    have hfive : (d.digits ++ separator :: s)[5]? = some c := by
      rw [Date.digits, List.append_assoc, List.getElem?_append_right (by simp)]
      simp [hce]
    rw [dateLength?, if_neg (by omega), if_pos hfour, if_neg (by simpa [hfive] using hW)]
  have htake : (d.digits ++ separator :: s).take 10 = d.digits := List.take_left' d.length_digits
  have hdrop : (d.digits ++ separator :: s).drop 10 = separator :: s :=
    List.drop_left' d.length_digits
  rw [DateTime.ofText?, if_neg (by rw [List.length_append, d.length_digits]; omega), hlength]
  simp [htake, hdrop, Date.ofText?_digits, h]

/-- A date-time is read from its digits. -/
theorem DateTime.ofText?_digits (d : Date) {hour minute second : Nat} {t : TimeOfDay}
    (h : TimeOfDay.of? hour minute second 0 = some t) (hhour : hour < 10 ^ 2)
    (hminute : minute < 10 ^ 2) (hsecond : second < 10 ^ 2) :
    DateTime.ofText? (d.digits ++ 'T' :: clockDigits hour minute second) =
      some ⟨d, t, none⟩ :=
  DateTime.ofText?_append d 'T' (clockText?_digits h hhour hminute hsecond)

/-- Nothing is read of a text with a hyphen among its first four characters. -/
theorem DateTime.ofText?_short_year {s : List Char} (h : '-' ∈ s.take 4) :
    DateTime.ofText? s = none := by
  have hdate (length : Nat) : Date.ofText? (s.take length) = none := by
    have hnone : takeDigits? 4 (s.take length) = none := by
      rcases Nat.lt_or_ge length 4 with hlt | hle
      · rw [takeDigits?, if_pos (by rw [List.length_take]; omega)]
      · exact takeDigits?_eq_none (c := '-') (by decide)
          (by rwa [List.take_take, Nat.min_eq_left hle])
    rw [Date.ofText?, hnone]
    rfl
  rw [DateTime.ofText?]
  split
  · rfl
  · cases dateLength? s with
    | none => rfl
    | some length => simp [hdate]

end RecordQuery.Time
