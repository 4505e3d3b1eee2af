import RecordQuery.Time.DateTime

/-!
# Days and instants

The days of the calendar are numbered without a gap: the day after and the day before a date have
the next number and the one before (`Date.ordinal_next?`, `Date.ordinal_prev?`), and dates compare
by year, month and day as their numbers do (`Date.compare_ordinal`). So moving a date-time to offset
zero keeps its instant (`DateTime.instant_toUtc?`), and it succeeds if and only if the instant lies
in the calendar (`DateTime.isSome_toUtc?_iff`).
-/

namespace RecordQuery.Time

namespace Date

/-! ## Days before a month -/

theorem daysBeforeMonth_one (year : Nat) : daysBeforeMonth year 1 = 0 := rfl

/-- The days before a month are those before the last month and the days of that one. -/
theorem daysBeforeMonth_succ (year : Nat) {month : Nat} (h : 1 ≤ month) :
    daysBeforeMonth year (month + 1) = daysBeforeMonth year month + daysInMonth year month := by
  obtain ⟨m, rfl⟩ := Nat.exists_eq_add_of_le' h
  simp [daysBeforeMonth, List.range_succ]

/-- The twelve months make up the year. -/
theorem daysBeforeMonth_thirteen (year : Nat) : daysBeforeMonth year 13 = daysInYear year := by
  by_cases h : IsLeap year <;>
    simp [daysBeforeMonth, daysInMonth, daysInYear, h, List.range_succ]

/-- A month ends before a later one begins. -/
theorem daysBeforeMonth_add_le (year : Nat) {month later : Nat} (h : 1 ≤ month)
    (hlater : month < later) :
    daysBeforeMonth year month + daysInMonth year month ≤ daysBeforeMonth year later := by
  induction hlater with
  | refl => exact Nat.le_of_eq (daysBeforeMonth_succ year h).symm
  | @step later hle ih =>
    have : 1 ≤ later := Nat.le_trans h (Nat.le_of_lt hle)
    rw [daysBeforeMonth_succ year this]
    omega

/-! ## Days before a year -/

/-- The days before a year are those before the last year and the days of that one. -/
theorem daysBeforeYear_succ {year : Nat} (h : 1 ≤ year) :
    daysBeforeYear (year + 1) = daysBeforeYear year + daysInYear year := by
  obtain ⟨y, rfl⟩ := Nat.exists_eq_add_of_le' h
  have hle : y / 100 ≤ y / 4 := Nat.div_le_div_left (by decide) (by decide)
  have hquarter : (y + 1) % 100 = 0 → (y + 1) % 4 = 0 := by omega
  have hcentury : (y + 1) % 400 = 0 → (y + 1) % 100 = 0 := by omega
  simp only [daysBeforeYear, daysInYear, Nat.add_sub_cancel, IsLeap, Nat.succ_div,
    Nat.dvd_iff_mod_eq_zero]
  by_cases h4 : (y + 1) % 4 = 0
  · by_cases h100 : (y + 1) % 100 = 0
    · by_cases h400 : (y + 1) % 400 = 0 <;> simp [h4, h100, h400] <;> omega
    · simp [h4, h100, mt hcentury h100]
      omega
  · simp [h4, mt hquarter h4, mt hcentury (mt hquarter h4)]
    omega

/-- A year ends before a later one begins. -/
theorem daysBeforeYear_add_le {year later : Nat} (h : 1 ≤ year) (hlater : year < later) :
    daysBeforeYear year + daysInYear year ≤ daysBeforeYear later := by
  induction hlater with
  | refl => exact Nat.le_of_eq (daysBeforeYear_succ h).symm
  | @step later hle ih =>
    have : 1 ≤ later := Nat.le_trans h (Nat.le_of_lt hle)
    rw [daysBeforeYear_succ this]
    omega

/-! ## The number of a day -/

theorem year_pos (d : Date) : 1 ≤ d.year := d.exists_date.1.1
theorem month_pos (d : Date) : 1 ≤ d.month := d.exists_date.2.1.1
theorem month_le (d : Date) : d.month ≤ 12 := d.exists_date.2.1.2
theorem day_pos (d : Date) : 1 ≤ d.day := d.exists_date.2.2.1
theorem day_le (d : Date) : d.day ≤ daysInMonth d.year d.month := d.exists_date.2.2.2

/-- The day lies in its year. -/
theorem daysBeforeMonth_add_day_le (d : Date) :
    daysBeforeMonth d.year d.month + d.day ≤ daysInYear d.year := by
  have hlast : d.month < 13 := Nat.lt_succ_of_le d.month_le
  have := daysBeforeMonth_add_le d.year d.month_pos hlast
  have := d.day_le
  rw [← daysBeforeMonth_thirteen]
  omega

/-- What a date is that was made of three numbers. -/
theorem eq_of_of? {year month day : Nat} {d : Date} (h : of? year month day = some d) :
    d.year = year ∧ d.month = month ∧ d.day = day := by
  unfold of? at h
  split at h
  · cases h
    exact ⟨rfl, rfl, rfl⟩
  · cases h

/-- The day after has the next number. -/
theorem ordinal_next? {d e : Date} (h : d.next? = some e) : e.ordinal = d.ordinal + 1 := by
  unfold next? at h
  have hday := d.day_le
  split at h
  · obtain ⟨hy, hm, hd⟩ := eq_of_of? h
    rw [ordinal, ordinal, hy, hm, hd]
    omega
  · next hlast =>
    split at h
    · obtain ⟨hy, hm, hd⟩ := eq_of_of? h
      rw [ordinal, ordinal, hy, hm, hd, daysBeforeMonth_succ _ d.month_pos]
      omega
    · obtain ⟨hy, hm, hd⟩ := eq_of_of? h
      have hmonth : d.month = 12 := by have := d.month_le; omega
      have hyear := daysBeforeMonth_succ d.year (by decide : 1 ≤ 12)
      rw [daysBeforeMonth_thirteen] at hyear
      rw [hmonth] at hday hlast
      rw [ordinal, ordinal, hy, hm, hd, daysBeforeMonth_one, daysBeforeYear_succ d.year_pos, hmonth]
      omega

/-- The day before has the number before. -/
theorem ordinal_prev? {d e : Date} (h : d.prev? = some e) : e.ordinal + 1 = d.ordinal := by
  unfold prev? at h
  have hday := d.day_pos
  split at h
  · obtain ⟨hy, hm, hd⟩ := eq_of_of? h
    rw [ordinal, ordinal, hy, hm, hd]
    omega
  · split at h
    · next hmonth =>
      obtain ⟨hy, hm, hd⟩ := eq_of_of? h
      have hpos : 1 ≤ d.month - 1 := by omega
      have hsucc := daysBeforeMonth_succ d.year hpos
      rw [Nat.sub_add_cancel (by omega)] at hsucc
      rw [ordinal, ordinal, hy, hm, hd, hsucc]
      omega
    · obtain ⟨hy, hm, hd⟩ := eq_of_of? h
      have hmonth : d.month = 1 := by have := d.month_pos; omega
      have hpos := e.year_pos
      have hyear := daysBeforeMonth_succ e.year (by decide : 1 ≤ 12)
      have hsucc := daysBeforeYear_succ hpos
      have hlast : daysInMonth e.year 12 = 31 := rfl
      rw [hy, Nat.sub_add_cancel (by omega)] at hsucc
      rw [daysBeforeMonth_thirteen] at hyear
      rw [ordinal, ordinal, hm, hd, hmonth, daysBeforeMonth_one, hsucc, hy]
      rw [hy] at hyear hlast
      omega

/-- A date in an earlier year has a smaller number. -/
theorem ordinal_lt_of_year_lt {d e : Date} (h : d.year < e.year) : d.ordinal < e.ordinal := by
  have hyears := daysBeforeYear_add_le d.year_pos h
  have hdays := d.daysBeforeMonth_add_day_le
  have hday := e.day_pos
  rw [ordinal, ordinal]
  omega

/-- A date in an earlier month of the same year has a smaller number. -/
theorem ordinal_lt_of_month_lt {d e : Date} (hyear : d.year = e.year) (h : d.month < e.month) :
    d.ordinal < e.ordinal := by
  have hmonths := daysBeforeMonth_add_le d.year d.month_pos h
  have hday := d.day_le
  have hday' := e.day_pos
  rw [ordinal, ordinal, ← hyear]
  omega

/-- Dates compare by year, month and day as their numbers do. -/
theorem compare_ordinal (d e : Date) :
    compare d.ordinal e.ordinal =
      (compare d.year e.year).then ((compare d.month e.month).then (compare d.day e.day)) := by
  rcases Nat.lt_trichotomy d.year e.year with h | hyear | h
  · rw [Nat.compare_eq_lt.2 h, Nat.compare_eq_lt.2 (ordinal_lt_of_year_lt h)]
    rfl
  · rcases Nat.lt_trichotomy d.month e.month with h | hmonth | h
    · rw [Nat.compare_eq_eq.2 hyear, Nat.compare_eq_lt.2 h,
        Nat.compare_eq_lt.2 (ordinal_lt_of_month_lt hyear h)]
      rfl
    · rw [Nat.compare_eq_eq.2 hyear, Nat.compare_eq_eq.2 hmonth, ordinal, ordinal, hyear, hmonth]
      simp only [Ordering.then, Nat.compare_eq_ite_lt]
      simp
    · rw [Nat.compare_eq_eq.2 hyear, Nat.compare_eq_gt.2 h,
        Nat.compare_eq_gt.2 (ordinal_lt_of_month_lt hyear.symm h)]
      rfl
  · rw [Nat.compare_eq_gt.2 h, Nat.compare_eq_gt.2 (ordinal_lt_of_year_lt h)]
    rfl

/-- No two dates have the same number. -/
theorem eq_of_ordinal_eq {d e : Date} (h : d.ordinal = e.ordinal) : d = e := by
  have hfields := (compare_ordinal d e).symm.trans (Nat.compare_eq_eq.2 h)
  simp only [Ordering.then_eq_eq, Nat.compare_eq_eq] at hfields
  obtain ⟨year, month, day, hdate⟩ := d
  obtain ⟨year', month', day', hdate'⟩ := e
  obtain ⟨rfl, rfl, rfl⟩ := hfields
  rfl

/-! ## The ends of the calendar -/

/-- No month is without days. -/
theorem daysInMonth_pos (year month : Nat) : 1 ≤ daysInMonth year month := by
  unfold daysInMonth
  split
  · split <;> omega
  · split <;> omega

theorem isSome_of?_iff {year month day : Nat} :
    (of? year month day).isSome ↔ IsDate year month day := by
  unfold of?
  split
  · next h => exact iff_of_true rfl h
  · next h => exact iff_of_false (by simp) h

theorem ordinal_pos (d : Date) : 1 ≤ d.ordinal := by
  have := d.day_pos
  rw [ordinal]
  omega

/-- There is a day before every day but the first. -/
theorem isSome_prev?_iff {d : Date} : d.prev?.isSome ↔ 1 < d.ordinal := by
  constructor
  · intro h
    obtain ⟨e, he⟩ := Option.isSome_iff_exists.1 h
    have := ordinal_prev? he
    have := e.ordinal_pos
    omega
  · intro hlt
    obtain ⟨⟨hyear, hmax⟩, ⟨hmonth, htwelve⟩, hday, hlast⟩ := d.exists_date
    unfold prev?
    split
    · exact isSome_of?_iff.2 ⟨⟨hyear, hmax⟩, ⟨hmonth, htwelve⟩, by omega, by omega⟩
    · split
      · exact isSome_of?_iff.2
          ⟨⟨hyear, hmax⟩, ⟨by omega, by omega⟩, daysInMonth_pos _ _, Nat.le_refl _⟩
      · next hfirst hjanuary =>
        have hone : d.month = 1 := by omega
        have hyear' : d.year ≠ 1 := by
          intro h
          have hzero : daysBeforeYear 1 = 0 := rfl
          rw [ordinal, hone, h, hzero, daysBeforeMonth_one] at hlt
          omega
        exact isSome_of?_iff.2 ⟨⟨by omega, by omega⟩, by decide, by omega, Nat.le_refl 31⟩

/-- The last day of the calendar. -/
def last : Date := ⟨maxYear, 12, 31, by decide⟩

/-- No day is after the last. -/
theorem ordinal_le_last (d : Date) : d.ordinal ≤ last.ordinal := by
  rcases Nat.lt_or_eq_of_le d.exists_date.1.2 with hlt | heq
  · exact Nat.le_of_lt (ordinal_lt_of_year_lt hlt)
  · have hdays := d.daysBeforeMonth_add_day_le
    have hlast : last.ordinal = daysBeforeYear maxYear + daysInYear maxYear := by decide
    rw [heq] at hdays
    rw [hlast, ordinal, heq]
    omega

/-- There is a day after every day but the last. -/
theorem isSome_next?_iff {d : Date} : d.next?.isSome ↔ d.ordinal < last.ordinal := by
  constructor
  · intro h
    obtain ⟨e, he⟩ := Option.isSome_iff_exists.1 h
    have := ordinal_next? he
    have := e.ordinal_le_last
    omega
  · intro hlt
    obtain ⟨⟨hyear, hmax⟩, ⟨hmonth, htwelve⟩, hday, hlast⟩ := d.exists_date
    unfold next?
    split
    · exact isSome_of?_iff.2 ⟨⟨hyear, hmax⟩, ⟨hmonth, htwelve⟩, by omega, by omega⟩
    · split
      · exact isSome_of?_iff.2
          ⟨⟨hyear, hmax⟩, ⟨by omega, by omega⟩, Nat.le_refl 1, daysInMonth_pos _ _⟩
      · next hend hdecember =>
        have htwelve : d.month = 12 := by omega
        have hyear' : d.year ≠ maxYear := by
          intro h
          have hdays : daysInMonth maxYear 12 = 31 := rfl
          rw [htwelve, h, hdays] at hlast hend
          have hday : d.day = 31 := by omega
          rw [ordinal, htwelve, h, hday] at hlt
          exact Nat.lt_irrefl _ hlt
        exact isSome_of?_iff.2
          ⟨⟨by omega, by omega⟩, by decide, Nat.le_refl 1, daysInMonth_pos _ _⟩

end Date

/-- The instant lies on a day of the calendar. -/
def InCalendar (instant : Int) : Prop :=
  (dayMicros : Int) ≤ instant ∧ instant < (Date.last.ordinal + 1) * dayMicros

instance (instant : Int) : Decidable (InCalendar instant) := inferInstanceAs (Decidable (_ ∧ _))

/-! ## Moving to offset zero -/

namespace DateTime

/-- A time of day on a date denotes its instant at offset zero, also where it lies outside the
date by less than a day. -/
theorem utcOn?_eq_some {date : Date} {micros : Int} {u : DateTime}
    (hmicros : -(dayMicros : Int) < micros) (h : utcOn? date micros = some u) :
    u.offset? = some .utc ∧ u.instant = date.ordinal * dayMicros + micros := by
  unfold utcOn? at h
  split at h
  · obtain ⟨d, hd, h⟩ := Option.bind_eq_some_iff.1 h
    have hprev := Date.ordinal_prev? hd
    split at h
    · cases h
      refine ⟨rfl, ?_⟩
      simp only [instant, wall, ahead, Option.map_some, Option.getD_some, Offset.utc, ← hprev]
      rw [Int.natCast_add, Int.add_mul, Int.natCast_one, Int.one_mul]
      omega
    · cases h
  · split at h
    · cases h
      refine ⟨rfl, ?_⟩
      simp only [instant, wall, ahead, Option.map_some, Option.getD_some, Offset.utc]
      omega
    · obtain ⟨d, hd, h⟩ := Option.bind_eq_some_iff.1 h
      have hnext := Date.ordinal_next? hd
      split at h
      · cases h
        refine ⟨rfl, ?_⟩
        simp only [instant, wall, ahead, Option.map_some, Option.getD_some, Offset.utc, hnext]
        rw [Int.natCast_add, Int.add_mul, Int.natCast_one, Int.one_mul]
        omega
      · cases h

/-- The wall clock is less than a day ahead of universal time or behind it. -/
theorem ahead_lt_day (t : DateTime) : -(dayMicros : Int) < t.ahead ∧ t.ahead < dayMicros := by
  unfold ahead
  cases t.offset? with
  | none => decide
  | some o => exact ⟨o.neg_day_lt, o.lt_day⟩

/-- Moving a date-time to offset zero keeps its instant. -/
theorem instant_toUtc? {t u : DateTime} (h : t.toUtc? = some u) :
    u.offset? = some .utc ∧ u.instant = t.instant := by
  have hahead := t.ahead_lt_day
  obtain ⟨hoffset, hinstant⟩ := utcOn?_eq_some (by omega) h
  refine ⟨hoffset, ?_⟩
  rw [hinstant, instant, wall]
  omega

/-- At one offset there is one date-time of an instant. -/
theorem eq_of_instant_eq {t u : DateTime} (hoffset : t.offset? = u.offset?)
    (h : t.instant = u.instant) : t = u := by
  obtain ⟨d, s, o?⟩ := t
  obtain ⟨d', s', o?'⟩ := u
  obtain rfl : o? = o?' := hoffset
  have hs := s.micros_lt
  have hs' := s'.micros_lt
  simp only [instant, wall, ahead, dayMicros, secondMicros] at h hs hs'
  obtain rfl : d = d' := Date.eq_of_ordinal_eq (by omega)
  have hmicros : s.micros = s'.micros := by omega
  obtain rfl : s = s' := by
    cases s
    cases hmicros
    rfl
  rfl

/-- A time of day, perhaps up to a day outside its date, has a date-time at offset zero if and only
if it lies in the calendar. -/
theorem isSome_utcOn?_iff {date : Date} {micros : Int} (hlow : -(dayMicros : Int) < micros)
    (hhigh : micros < 2 * dayMicros) :
    (utcOn? date micros).isSome ↔ InCalendar (date.ordinal * dayMicros + micros) := by
  have hpos := date.ordinal_pos
  have hle := date.ordinal_le_last
  have hday : dayMicros = 86400000000 := rfl
  unfold utcOn? InCalendar
  split
  · have hlt : (micros + dayMicros).toNat < dayMicros := by omega
    simp only [dif_pos hlt, Option.isSome_bind, Option.isSome_some, Option.any_true,
      Date.isSome_prev?_iff]
    rw [hday] at hlow ⊢
    omega
  · split
    · rw [hday] at *
      exact iff_of_true rfl (by omega)
    · have hlt : micros.toNat - dayMicros < dayMicros := by omega
      simp only [dif_pos hlt, Option.isSome_bind, Option.isSome_some, Option.any_true,
        Date.isSome_next?_iff]
      rw [hday] at *
      omega

/-- A date-time is moved to offset zero if and only if its instant lies in the calendar. -/
theorem isSome_toUtc?_iff {t : DateTime} : t.toUtc?.isSome ↔ InCalendar t.instant := by
  have hahead := t.ahead_lt_day
  have htime := t.time.micros_lt
  have hinstant : t.instant = t.date.ordinal * dayMicros + (t.time.micros - t.ahead) := by
    rw [instant, wall]
    omega
  rw [hinstant]
  exact isSome_utcOn?_iff (by omega) (by omega)

/-- Date-times of one instant are moved to the same date-time, or neither of them is moved. -/
theorem toUtc?_eq_of_instant_eq {t u : DateTime} (h : t.instant = u.instant) :
    t.toUtc? = u.toUtc? := by
  have hsome : t.toUtc?.isSome = u.toUtc?.isSome := by
    rw [Bool.eq_iff_iff, isSome_toUtc?_iff, isSome_toUtc?_iff, h]
  cases ht : t.toUtc? with
  | none =>
    rw [ht, Option.isSome_none] at hsome
    exact (Option.not_isSome_iff_eq_none.1 (Bool.eq_false_iff.1 hsome.symm)).symm
  | some t' =>
    rw [ht, Option.isSome_some] at hsome
    obtain ⟨u', hu⟩ := Option.isSome_iff_exists.1 hsome.symm
    obtain ⟨hoffset, hinstant⟩ := instant_toUtc? ht
    obtain ⟨hoffset', hinstant'⟩ := instant_toUtc? hu
    rw [hu, eq_of_instant_eq (hoffset.trans hoffset'.symm)
      (hinstant.trans (h.trans hinstant'.symm))]

/-- A date-time that is not ahead of universal time is moved by naming its offset. -/
theorem toUtc?_of_ahead_eq_zero {t : DateTime} (h : t.ahead = 0) :
    t.toUtc? = some ⟨t.date, t.time, some .utc⟩ := by
  have hmicros : ((t.time.micros : Int) - 0).toNat = t.time.micros := by omega
  rw [toUtc?, h, utcOn?, if_neg (by omega)]
  simp only [hmicros]
  rw [dif_pos t.time.micros_lt]

end DateTime

end RecordQuery.Time
