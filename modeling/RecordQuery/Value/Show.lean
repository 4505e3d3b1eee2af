import RecordQuery.Number.Numeral
import RecordQuery.Text.Quoted
import RecordQuery.Time.Iso
import RecordQuery.Value.Basic

/-!
# Values as text

`Value.plain` is the bare text of a value, which text operators look into, and `Value.described` the
text by which a condition names a literal: it tells the kinds of values apart.
-/

namespace RecordQuery

open Number Text Time

/-- The parts with a comma and a space between them. -/
def commaList (parts : List (List Char)) : List Char := (parts.intersperse ", ".toList).flatten

/-- A name in front of a list in parentheses. -/
def applied (name : String) (parts : List (List Char)) : List Char :=
  name.toList ++ '(' :: commaList parts ++ [')']

/-- A word, an equals sign and an integer. -/
def keyed (word : String) (n : Int) : List Char := word.toList ++ '=' :: integerText n

/-! ## Bare text -/

/-- A fraction in lowest terms; a whole number has no denominator. -/
def fractionText (q : Rat) : List Char :=
  integerText q.num ++ if q.den = 1 then [] else '/' :: decimalText q.den

/-- The name of a member behind the name of its type. -/
def Member.path (m : Member) : List Char := m.typeName.toList ++ '.' :: m.name.toList

/-- The bare text of a value. -/
def Value.plain : Value → List Char
  | null => "None".toList
  | bool b => if b then "True".toList else "False".toList
  | text s => s.toList
  | int n => integerText n
  | float x => x.text
  | decimal d => d.text
  | fraction q => fractionText q
  | guid g => g.text
  | dateTime t => t.text ' '
  | date d => d.text
  | member m => m.path

/-! ## Descriptions -/

/-- The description of a span of time: whole days, rounded down, then seconds and microseconds, each
only if it is not zero. -/
def describeSpan (micros : Int) : List Char :=
  let days := micros / dayMicros
  let within := (micros % dayMicros).toNat
  let parts := [("days", days), ("seconds", (within / secondMicros : Nat)),
    ("microseconds", (within % secondMicros : Nat))].filter (·.2 ≠ 0)
  applied "datetime.timedelta" <|
    if parts.isEmpty then [['0']] else parts.map fun (word, n) => keyed word n

/-- The description of an offset. -/
def Time.Offset.described (o : Offset) : List Char :=
  if o.micros = 0 then "datetime.timezone.utc".toList
  else applied "datetime.timezone" [describeSpan o.micros]

/-- The description of a date-time: its seconds and microseconds only if they are not zero. -/
def Time.DateTime.described (t : DateTime) : List Char :=
  let seconds :=
    if t.time.micro ≠ 0 then [t.time.second, t.time.micro]
    else if t.time.second ≠ 0 then [t.time.second]
    else []
  let fields := [t.date.year, t.date.month, t.date.day, t.time.hour, t.time.minute] ++ seconds
  let offset := t.offset?.map fun o => "tzinfo=".toList ++ o.described
  applied "datetime.datetime" (fields.map decimalText ++ offset.toList)

/-- The description of a date. -/
def Time.Date.described (d : Date) : List Char :=
  applied "datetime.date" ([d.year, d.month, d.day].map decimalText)

/-- The description of a member's value. -/
def Payload.described : Payload → List Char
  | text s => quoted s.toList
  | whole n => integerText n

/-- The description of a value. -/
def Value.described : Value → List Char
  | text s => quoted s.toList
  | decimal d => applied "Decimal" [quoted d.text]
  | fraction q => applied "Fraction" [integerText q.num, decimalText q.den]
  | guid g => applied "UUID" [quoted g.text]
  | dateTime t => t.described
  | date d => d.described
  | member m => '<' :: m.path ++ ": ".toList ++ m.payload.described ++ ['>']
  | v => v.plain

/-- The value can be described. Integers with too many digits are neither read nor written, but
a fraction may have such parts, as those of a numeral with an exponent. -/
def Value.isWritable : Value → Bool
  | fraction q => [q.num.natAbs, q.den].all fun n => (decimalText n).length ≤ maxIntegerDigits
  | _ => true

end RecordQuery
