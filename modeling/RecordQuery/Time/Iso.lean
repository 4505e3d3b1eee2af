import RecordQuery.Number.Scaled
import RecordQuery.Time.DateTime

/-!
# Dates and times as text

Writing: `2024-01-10T12:00:00`, with six digits behind a point if the second has a fraction, and the
offset as hours and minutes, seconds and their fraction only where they are not zero.

Reading accepts more than is written: a date with or without hyphens, also as year, week and day;
any one character between date and time; a time of day from the hour alone to a fraction of the
second, with or without colons; an offset in every form of a time of day.
-/

namespace RecordQuery.Time

open Text

/-! ## Writing -/

/-- Hours, minutes and seconds, with six digits behind a point if there are microseconds. -/
def TimeOfDay.text (t : TimeOfDay) : List Char :=
  paddedText 2 t.hour ++ ':' :: paddedText 2 t.minute ++ ':' :: paddedText 2 t.second ++
    if t.micro = 0 then [] else '.' :: paddedText 6 t.micro

/-- The sign, hours and minutes of an offset, with the seconds if it is not whole minutes. -/
def Offset.text (o : Offset) : List Char :=
  let micros := o.micros.natAbs
  let seconds := micros / secondMicros
  let micro := micros % secondMicros
  (if o.micros < 0 then '-' else '+') :: paddedText 2 (seconds / 3600) ++
    ':' :: paddedText 2 (seconds / 60 % 60) ++
    (if seconds % 60 = 0 ∧ micro = 0 then [] else ':' :: paddedText 2 (seconds % 60)) ++
    if micro = 0 then [] else '.' :: paddedText 6 micro

/-- The date, the separator, the time of day and the offset if it is known. -/
def DateTime.text (separator : Char) (t : DateTime) : List Char :=
  t.date.text ++ separator :: t.time.text ++ (t.offset?.map Offset.text).getD []

/-! ## Reading digits -/

/-- The number of a digit among 0 to 9. -/
def asciiDigit? (c : Char) : Option Nat := if c.isDigit then some (c.toNat - '0'.toNat) else none

/-- The number of the first digits of a text, and the rest. -/
def takeDigits? (count : Nat) (s : List Char) : Option (Nat × List Char) :=
  if s.length < count then none
  else ((s.take count).mapM asciiDigit?).map fun ds =>
    (ds.foldl (fun n d => 10 * n + d) 0, s.drop count)

/-- The text behind the given first character. -/
def dropChar? (c : Char) : List Char → Option (List Char)
  | [] => none
  | d :: rest => if d = c then some rest else none

/-- The text behind a hyphen, where one is called for. -/
def dropHyphen? (hyphens : Bool) (s : List Char) : Option (List Char) :=
  if hyphens then dropChar? '-' s else some s

/-! ## Reading a date -/

/-- The date of a week and perhaps a day of the week; what follows the day does not count. -/
def weekDate? (year : Nat) (hyphens : Bool) (s : List Char) : Option Date := do
  let (week, rest) ← takeDigits? 2 s
  if rest.isEmpty then Date.ofWeek? year week 1
  else
    let rest ← dropHyphen? hyphens rest
    let (day, _) ← takeDigits? 1 rest
    Date.ofWeek? year week day

/-- The date of a month and a day; what follows the day does not count. -/
def monthDate? (year : Nat) (hyphens : Bool) (s : List Char) : Option Date := do
  let (month, rest) ← takeDigits? 2 s
  let rest ← dropHyphen? hyphens rest
  let (day, _) ← takeDigits? 2 rest
  Date.of? year month day

/-- The date of a text: a year, then a week behind the letter W or a month and a day. -/
def Date.ofText? (s : List Char) : Option Date := do
  let (year, rest) ← takeDigits? 4 s
  let hyphens := rest.head? = some '-'
  let rest := if hyphens then rest.drop 1 else rest
  match rest with
  | 'W' :: rest => weekDate? year hyphens rest
  | rest => monthDate? year hyphens rest

/-! ## Reading a time of day -/

/-- What a text says about hours, minutes and seconds. -/
structure ClockReading where
  /-- The hours, minutes and seconds as far as they are given. -/
  fields : List Nat
  /-- The microseconds. -/
  micro : Nat
  /-- Characters follow that are no part of it. -/
  leftover : Bool

namespace ClockReading

/-- The number of a field, or zero. -/
def field (r : ClockReading) (i : Nat) : Nat := r.fields.getD i 0

/-- The seconds of the fields. -/
def seconds (r : ClockReading) : Nat := (r.field 0 * 60 + r.field 1) * 60 + r.field 2

/-- The reading with a field in front. -/
def cons (n : Nat) (r : ClockReading) : ClockReading := { r with fields := n :: r.fields }

/-- Characters that are left over; a text ends at the character of code zero. -/
def isLeftover : List Char → Bool
  | [] => false
  | c :: _ => c.toNat != 0

/-- The fraction of a second. Digits from the seventh on are passed over. -/
def fraction? (s : List Char) : Option ClockReading :=
  let digits := s.take 6
  (digits.mapM asciiDigit?).map fun ds =>
    { fields := []
      micro := ds.foldl (fun n d => 10 * n + d) 0 * Number.tenPow (6 - digits.length)
      leftover := isLeftover ((s.drop 6).dropWhile Char.isDigit) }

/-- The given number of fields and a fraction. The character behind the first field decides whether
colons stand between the fields; a point or a comma behind a field begins the fraction. -/
def read? : Nat → Option Bool → List Char → Option ClockReading
  | 0, _, s => fraction? s
  | fields + 1, colons?, s => do
    let (n, rest) ← takeDigits? 2 s
    match rest with
    | [] => some ⟨[n], 0, false⟩
    | [c] => if c.toNat < 0x80 then some ⟨[n], 0, isLeftover [c]⟩ else none
    | c :: after =>
      let colons := colons?.getD (c == ':')
      if colons && c == ':' then (read? fields (some colons) after).map (cons n)
      else if c = '.' ∨ c = ',' then (fraction? after).map (cons n)
      else if colons then none
      else (read? fields (some colons) rest).map (cons n)

/-- Hours, minutes, seconds and a fraction. -/
def ofText? (s : List Char) : Option ClockReading := read? 3 none s

/-- The time of day of a reading. -/
def timeOfDay? (r : ClockReading) : Option TimeOfDay :=
  TimeOfDay.of? (r.field 0) (r.field 1) (r.field 2) r.micro

end ClockReading

/-- The offset of a sign and a time span. A span of less than a second is no offset. -/
def Offset.ofReading? (negative : Bool) (r : ClockReading) : Option Offset :=
  if r.leftover then none
  else if r.seconds = 0 then some .utc
  else
    let micros : Int := (r.seconds * secondMicros + r.micro : Nat)
    Offset.of? (if negative then -micros else micros)

/-- A sign in front of an offset. -/
def isOffsetSign (c : Char) : Bool := c = '+' || c = '-'

/-- The time of day of a text and its offset, if one follows. Between the two other characters may
stand. -/
def clockText? (s : List Char) : Option (TimeOfDay × Option Offset) := do
  let reading ← ClockReading.ofText? (s.takeWhile fun c => !isOffsetSign c)
  match s.dropWhile fun c => !isOffsetSign c with
  | [] => if reading.leftover then none else reading.timeOfDay?.map (·, none)
  | sign :: rest =>
    let offset ← Offset.ofReading? (sign = '-') (← ClockReading.ofText? rest)
    reading.timeOfDay?.map (·, some offset)

/-! ## Reading a date with a time of day -/

/-- The length of the date at the front of a text of seven characters or more. The character between
date and time is free, so two forms are told apart by what follows: behind year and week a hyphen
and two digits are a time, and an even number of digits behind the week begins with a day. -/
def dateLength? (s : List Char) : Option Nat :=
  if s.length = 7 then some 7
  else if s[4]? = some '-' then
    if s[5]? = some 'W' then
      if s[8]? = some '-' then
        if s.length = 9 then none
        else some (if (s[10]?.bind asciiDigit?).isSome then 8 else 10)
      else some 8
    else some 10
  else if s[4]? = some 'W' then
    let digits := ((s.drop 7).takeWhile Char.isDigit).length
    some (if digits < 2 then 7 + digits else if digits % 2 = 1 then 7 else 8)
  else some 8

/-- The date-time of a text. A date alone is midnight. -/
def DateTime.ofText? (s : List Char) : Option DateTime :=
  if s.length < 7 then none
  else do
    let length ← dateLength? s
    let date ← Date.ofText? (s.take length)
    match s.drop length with
    | [] => some ⟨date, .midnight, none⟩
    | _ :: clock => (clockText? clock).map fun (time, offset?) => ⟨date, time, offset?⟩

end RecordQuery.Time
