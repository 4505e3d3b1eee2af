import RecordQuery.Number.Numeral
import RecordQuery.Refusal
import RecordQuery.Time.DateTime

/-!
# Values of requests

A request arrives as values by name, of which nothing is known beforehand. The readers here take a
value as a whole number, a text or a member of a list of names, or say which rule it breaks.
`Checked.problems` gathers what is wrong, in the order of the fields.
-/

namespace RecordQuery

open Number Text Time

/-- A value of a request. -/
inductive Input where
  /-- The request does not have the field. -/
  | absent
  /-- No value. -/
  | null
  /-- A truth value. -/
  | bool (b : Bool)
  /-- An integer. -/
  | int (n : Int)
  /-- A floating-point number. -/
  | float (x : Binary64)
  /-- A text. -/
  | text (s : String)
  /-- A date with a time of day. -/
  | dateTime (t : DateTime)
  /-- A list or an object. -/
  | other

/-- The values of a request by name. -/
abbrev Inputs := String → Input

/-- A value of a request, or the rule that it breaks. -/
abbrev Checked (α : Type) := Except Problem α

/-- What is wrong with a value. -/
def Checked.problem? {α : Type} : Checked α → Option Problem
  | .ok _ => none
  | .error p => some p

namespace Input

/-! ## Whole numbers -/

/-- The whole number of a text: digits, perhaps with a sign, single underscores between digits, and
a point with zeros behind it. -/
def wholeText? (s : List Char) : Option Int := do
  let (negative, rest) := splitSign s
  let (whole, part) := cutAt (· = '.') rest
  if (part.getD []).all (· = '0') ∧ whole.all (fun c => c.isDigit || c = '_') then
    (groupedDigits? whole).map fun ds => signed negative (ofDigits ds)
  else none

/-- The whole number of a text, or the rule that it breaks. -/
def wholeOfText (s : String) : Except String Int :=
  let s := trimBy isWhiteSpace s.toList
  if maxIntegerDigits < s.length then .error "int_parsing_size"
  else
    match wholeText? s with
    | some n => .ok n
    | none => .error "int_parsing"

/-- The whole number that a floating-point number is, or the rule that it breaks. -/
def wholeOfFloat (x : Binary64) : Except String Int :=
  match x with
  | .finite negative mantissa unit _ =>
    let n := Binary64.units mantissa unit
    if n % twoPow leastExponent ≠ 0 then .error "int_from_float"
    else if n / twoPow leastExponent < twoPow 63 then
      .ok (signed negative (n / twoPow leastExponent))
    else .error "int_parsing_size"
  | _ => .error "finite_number"

/-- A value as a whole number, or the rule that it breaks. -/
def whole : Input → Except String Int
  | int n => .ok n
  | bool b => .ok (if b then 1 else 0)
  | float x => wholeOfFloat x
  | text s => wholeOfText s
  | _ => .error "int_type"

/-- A whole number within bounds. -/
def wholeBetween (least : Int) (greatest? : Option Int) (n : Int) : Except String Int :=
  if n < least then .error "greater_than_equal"
  else if greatest?.any (fun m => decide (m < n)) then .error "less_than_equal"
  else .ok n

/-- The value of a field within bounds, or a default where the field is absent. -/
def boundedWhole (field : String) (default : Int) (least : Int) (greatest? : Option Int)
    (inputs : Inputs) : Checked Int :=
  match inputs field with
  | absent => .ok default
  | v => ((v.whole).bind (wholeBetween least greatest?)).mapError (⟨field, ·⟩)

/-! ## Texts, names and dates -/

/-- The text of a field, or a default where the field is absent. -/
def plainText (field default : String) (inputs : Inputs) : Checked String :=
  match inputs field with
  | absent => .ok default
  | text s => .ok s
  | _ => .error ⟨field, "string_type"⟩

/-- The text of a field that may be missing. -/
def optionalText (field : String) (inputs : Inputs) : Checked (Option String) :=
  match inputs field with
  | absent | null => .ok none
  | text s => .ok (some s)
  | _ => .error ⟨field, "string_type"⟩

/-- What a field names, where it may be missing. -/
def optionalName {α : Type} (field : String) (named? : String → Option α) (inputs : Inputs) :
    Checked (Option α) :=
  match inputs field with
  | absent | null => .ok none
  | text s =>
    match named? s with
    | some a => .ok (some a)
    | none => .error ⟨field, "enum"⟩
  | _ => .error ⟨field, "enum"⟩

/-- The date-time of a field that may be missing. -/
def optionalDateTime (field : String) (inputs : Inputs) : Checked (Option DateTime) :=
  match inputs field with
  | absent | null => .ok none
  | dateTime t => .ok (some t)
  | _ => .error ⟨field, "datetime_type"⟩

end Input

end RecordQuery
