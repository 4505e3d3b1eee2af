import RecordQuery.Number.Numeral
import RecordQuery.Refusal
import RecordQuery.Time.Iso
import RecordQuery.Value.Show

/-!
# Literals

`Field.literal` reads a text as a value of a field: by the kind of the field, and for numbers and
dates by its type. `Field.normalize` brings the value of a record to the shape that literals have:
date-times at offset zero, and floating-point numbers of a field without a type as the decimals that
they are written with.
-/

namespace RecordQuery

open Number Text Time

/-- Why a text is no literal of a field. -/
inductive LiteralProblem where
  /-- The text does not say what is expected. -/
  | malformed (expected : String)
  /-- The text cannot be read for another reason. -/
  | faulty (f : Fault)
  deriving DecidableEq

/-- A value that was read, or that the text does not say what is expected. -/
def orMalformed {α : Type} (expected : String) (v? : Option α) : Except LiteralProblem α :=
  match v? with
  | some v => .ok v
  | none => .error (.malformed expected)

namespace Literal

/-! ## Choices, identifiers and truth values -/

/-- The first member whose name is the text, in letters of either case. -/
def member? (t : Choice) (s : List Char) : Option Member :=
  t.members.find? fun m => lower m.name.toList = lower s

/-- The member that a text names. A field without a choice type keeps the text as it is. -/
def choice (type? : Option FieldType) (s : List Char) : Except LiteralProblem Value :=
  match type? with
  | none => .ok (.text (String.ofList s))
  | some (.choice t) => orMalformed t.name ((member? t (trim s)).map .member)
  | some _ => .error (.faulty .incomparable)

/-- The identifier of a text. -/
def guid (s : List Char) : Except LiteralProblem Value :=
  orMalformed "GUID" ((Guid.ofText? (trim s)).map .guid)

/-- The truth value of a text. -/
def bool (s : List Char) : Except LiteralProblem Value :=
  let word := (trim s).map Char.toLower
  if word = "true".toList then .ok (.bool true)
  else if word = "false".toList then .ok (.bool false)
  else .error (.malformed "boolean")

/-! ## Dates -/

/-- The letter Z stands for offset zero. -/
def spellZulu (s : List Char) : List Char :=
  s.flatMap fun c => if c = 'Z' then "+00:00".toList else [c]

/-- The date-time of a text. Ten characters without the letter T or a space are a date alone. -/
def dateTimeText? (s : List Char) : Option DateTime :=
  if 'T' ∉ s ∧ ' ' ∉ s ∧ s.length = 10 then
    if s.all (·.toNat < 0x80) then (Date.ofText? s).map fun d => ⟨d, .midnight, none⟩ else none
  else DateTime.ofText? (spellZulu s)

/-- A date-time at offset zero. -/
def universal (t : DateTime) : Except Fault Value :=
  match t.toUtc? with
  | some u => .ok (.dateTime u)
  | none => .error .outOfRange

/-- The date-time of a text at offset zero, or its date as it stands if the field holds dates. -/
def dateTime (type? : Option FieldType) (s : List Char) : Except LiteralProblem Value := do
  let t ← orMalformed "datetime" (dateTimeText? (trim s))
  if type? = some .date then .ok (.date t.date)
  else (universal t).mapError .faulty

/-! ## Numbers -/

/-- The number of a text that is not empty. A field without a type takes an integer where the text
is one, and a decimal otherwise. A type that is none of numbers takes a text as it makes values of
texts: a truth value made of one is true. -/
def numberOf (type? : Option FieldType) (s : List Char) : Except LiteralProblem Value :=
  let expect (v? : Option Value) := orMalformed "number" v?
  match type? with
  | none => expect (((integer? s).map .int).or ((Decimal.ofText? s).map .decimal))
  | some .int => expect ((integer? s).map .int)
  | some .float => expect ((binary64? s).map .float)
  | some .decimal => expect ((Decimal.ofText? s).map .decimal)
  | some .fraction =>
    match fraction? s with
    | .value q => .ok (.fraction q)
    | .zeroDenominator => .error (.faulty .zeroDenominator)
    | .malformed => expect none
  | some (.choice t) =>
    expect ((t.members.find? (·.payload = .text (String.ofList s))).map .member)
  | some .bool => expect (some (.bool true))
  | some .text => expect (some (.text (String.ofList s)))
  | some .guid => expect ((Guid.ofText? s).map .guid)
  | some .dateTime | some .date | some (.other _) => expect none

/-- The number of a text, with a decimal point for every comma. A blank text is none, whatever the
type of the field. -/
def number? (type? : Option FieldType) (s : List Char) : Except LiteralProblem Value :=
  let s := (trim s).map fun c => if c = ',' then '.' else c
  if s.isEmpty then .error (.malformed "number") else numberOf type? s

end Literal

namespace Field

/-- The value that a text stands for in a field. -/
def literal (f : Field) (text : String) : Except LiteralProblem Value :=
  let s := text.toList
  match f.kind with
  | .string => .ok (.text text)
  | .choice => Literal.choice f.type? s
  | .guid => Literal.guid s
  | .dateTime => Literal.dateTime f.type? s
  | .bool => Literal.bool s
  | .numeric => Literal.number? f.type? s

/-- The value that a text stands for in a field, or a refusal of the criterion. -/
def coerce (f : Field) (text : String) (criterion? : Option Criterion) : Except Failure Value :=
  match f.literal text with
  | .ok v => .ok v
  | .error (.malformed expected) =>
    .error (.refuse (.badLiteral expected text f.name) criterion?)
  | .error (.faulty g) => .error (.faulty g)

/-- The value of a record in the shape that the literals of the field have. -/
def normalize (f : Field) (v : Value) : Except Fault Value :=
  match f.kind, v with
  | .dateTime, .dateTime t => if f.type? = some .date then .ok v else Literal.universal t
  | .numeric, .float x => .ok (if f.type?.isNone then .decimal x.toDecimal else v)
  | _, _ => .ok v

end Field

end RecordQuery
