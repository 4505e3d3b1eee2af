import RecordQuery.Time.Date

/-!
# Dates with a time of day

A date-time is a date and a time of day, with or without an offset from universal time. Its instant
is counted in microseconds; one without an offset counts as universal time. `DateTime.toUtc?` moves
a date-time to offset zero, which takes it at most one day away and fails at the ends of the
calendar.
-/

namespace RecordQuery.Time

open Text

/-- The microseconds of a second. -/
def secondMicros : Nat := 1000000

/-- The microseconds of a day. -/
def dayMicros : Nat := 86400 * secondMicros

/-- A time of day, in microseconds from midnight. -/
structure TimeOfDay where
  /-- The microseconds since midnight. -/
  micros : Nat
  /-- The day is not over. -/
  micros_lt : micros < dayMicros
  deriving DecidableEq

namespace TimeOfDay

/-- Midnight. -/
def midnight : TimeOfDay := ⟨0, by decide⟩

/-- The time of an hour, a minute, a second and a microsecond, if it exists. -/
def of? (hour minute second micro : Nat) : Option TimeOfDay :=
  let micros := ((hour * 60 + minute) * 60 + second) * secondMicros + micro
  if h : micros < dayMicros then
    if minute < 60 ∧ second < 60 ∧ micro < secondMicros then some ⟨micros, h⟩ else none
  else none

/-- The hour. -/
def hour (t : TimeOfDay) : Nat := t.micros / (3600 * secondMicros)

/-- The minute of the hour. -/
def minute (t : TimeOfDay) : Nat := t.micros / (60 * secondMicros) % 60

/-- The second of the minute. -/
def second (t : TimeOfDay) : Nat := t.micros / secondMicros % 60

/-- The microsecond of the second. -/
def micro (t : TimeOfDay) : Nat := t.micros % secondMicros

end TimeOfDay

/-- An offset from universal time of less than a day, in microseconds. -/
structure Offset where
  /-- The microseconds that local time is ahead. -/
  micros : Int
  /-- Local time is less than a day behind. -/
  neg_day_lt : -(dayMicros : Int) < micros
  /-- Local time is less than a day ahead. -/
  lt_day : micros < dayMicros
  deriving DecidableEq

namespace Offset

/-- Universal time. -/
def utc : Offset := ⟨0, by decide, by decide⟩

/-- The offset of a number of microseconds, if it is less than a day. -/
def of? (micros : Int) : Option Offset :=
  if h : -(dayMicros : Int) < micros ∧ micros < dayMicros then some ⟨micros, h.1, h.2⟩ else none

end Offset

/-- A date with a time of day. -/
structure DateTime where
  /-- The date. -/
  date : Date
  /-- The time of day. -/
  time : TimeOfDay
  /-- The offset from universal time, if it is known. -/
  offset? : Option Offset
  deriving DecidableEq

namespace DateTime

/-- The microseconds of the wall clock, from the day before the calendar. -/
def wall (t : DateTime) : Int := t.date.ordinal * dayMicros + t.time.micros

/-- The microseconds that the wall clock is ahead of universal time. -/
def ahead (t : DateTime) : Int := (t.offset?.map Offset.micros).getD 0

/-- The instant in microseconds. -/
def instant (t : DateTime) : Int := t.wall - t.ahead

/-- The date-time at offset zero that denotes a time of day of which the microseconds may lie up to
a day outside the date. -/
def utcOn? (date : Date) (micros : Int) : Option DateTime :=
  if micros < 0 then
    date.prev?.bind fun d =>
      if h' : (micros + dayMicros).toNat < dayMicros then
        some ⟨d, ⟨(micros + dayMicros).toNat, h'⟩, some .utc⟩
      else none
  else if h' : micros.toNat < dayMicros then some ⟨date, ⟨micros.toNat, h'⟩, some .utc⟩
  else
    date.next?.bind fun d =>
      if h'' : micros.toNat - dayMicros < dayMicros then
        some ⟨d, ⟨micros.toNat - dayMicros, h''⟩, some .utc⟩
      else none

/-- The same instant at offset zero, if it lies in the calendar. -/
def toUtc? (t : DateTime) : Option DateTime := utcOn? t.date (t.time.micros - t.ahead)

end DateTime

end RecordQuery.Time
