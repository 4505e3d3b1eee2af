import RecordQuery.Condition.Basic
import RecordQuery.Filter.Basic

/-!
# Conditions from criteria

A criterion becomes a comparison of the field that it names; a list of values becomes a row of
equalities. Criteria join strictly from the left: neither connective binds tighter. Whatever a
criterion is refused for, the refusal carries that criterion.
-/

namespace RecordQuery

namespace Condition

/-- The test whether a field has no value, or that it has one. A field that always has a value needs
no test. -/
def nullCheck (f : Field) (wanted : Bool) : Condition :=
  if f.nullable then compare f (if wanted then .isNull else .isNotNull) .null else const !wanted

/-- The text of a criterion that takes one. -/
def singleText (f : Field) (c : Criterion) : Except Failure String :=
  match c.operand with
  | .text s => .ok s
  | _ => .error (.refuse (.singleValue c.operator f.name) c)

/-- Equality with one of the values. -/
def anyOf (f : Field) (first : Value) (others : List Value) : Condition :=
  others.foldl (fun found v => or found (compare f .equals v)) (compare f .equals first)

/-- Equality with one of the texts of a criterion. -/
def ofItems (f : Field) (c : Criterion) : Except Failure Condition :=
  match c.operand with
  | .list (item :: items) => do
    let first ← f.coerce item c
    let others ← items.mapM fun item => f.coerce item c
    return anyOf f first others
  | _ => .error (.refuse (.listOfValues c.operator f.name) c)

/-- Comparison with the text of a criterion. Without a text, equality is the test for null. -/
def ofText (f : Field) (c : Criterion) : Except Failure Condition :=
  if c.operand = .absent then
    match c.operator with
    | .equals => .ok (nullCheck f true)
    | .notEquals => .ok (nullCheck f false)
    | operator => .error (.refuse (.missingValue operator f.name) c)
  else do
    let text ← singleText f c
    return compare f c.operator (← f.coerce text c)

/-- The condition of a criterion on its field. -/
def ofField (f : Field) (c : Criterion) : Except Failure Condition :=
  match c.operator with
  | .isNull => .ok (nullCheck f true)
  | .isNotNull => .ok (nullCheck f false)
  | .contains | .startsWith | .endsWith =>
    if f.kind = .string then do return compare f c.operator (.text (← singleText f c))
    else .error (.refuse (.notText c.operator f.name f.kind) c)
  | .oneOf => ofItems f c
  | _ => ofText f c

/-- The condition of a criterion. -/
def ofCriterion (schema : Schema) (c : Criterion) : Except Failure Condition := do
  ofField (← schema.require c.property c) c

/-- The condition of a criterion joined to those before it. -/
def join (connective : Connective) (before last : Condition) : Condition :=
  if connective = .or then or before last else and before last

/-- The condition of a list of criteria. Without criteria everything satisfies it. -/
def ofCriteria (schema : Schema) : List Criterion → Except Failure Condition
  | [] => .ok (const true)
  | c :: cs => do
    let first ← ofCriterion schema c
    cs.foldlM (fun before c => do return join c.connective before (← ofCriterion schema c)) first

end Condition

/-- A condition on the records of a schema, all of whose operators have a comparison. -/
structure Selection where
  /-- The name of the schema. -/
  schemaName : String
  /-- The condition. -/
  condition : Condition
  /-- The condition can be decided. -/
  comparable : condition.isComparable

namespace Selection

/-- The selection of a condition. -/
def of? (schema : Schema) (condition : Condition) : Except Fault Selection :=
  if h : condition.isComparable then .ok ⟨schema.name, condition, h⟩
  else .error .unknownComparison

/-- The selection of a list of criteria. -/
def ofCriteria (schema : Schema) (cs : List Criterion) : Except Failure Selection := do
  (of? schema (← Condition.ofCriteria schema cs)).mapError .faulty

/-- The selection of the text of a filter. -/
def ofText? (schema : Schema) (text? : Option String) : Except Failure Selection :=
  ofCriteria schema (Filter.ofText? text?).criteria

/-- Whether a record is selected. -/
def selects {α : Type} [Readable α] (s : Selection) (r : α) : Except Fault Bool :=
  s.condition.holds r

/-- Everything is selected, whatever the record. -/
def isTrivial (s : Selection) : Bool := s.condition = .const true

/-- The description of a selection: the name of the schema and the condition. -/
def described (s : Selection) : Except Fault String :=
  if s.condition.isWritable then
    .ok ("CompiledFilter(" ++ s.schemaName ++ ": " ++ s.condition.described ++ ")")
  else .error .tooManyDigits

end Selection

end RecordQuery
