import RecordQuery.Criterion
import RecordQuery.Fault
import RecordQuery.Schema

/-!
# Refusals

Why a filter is refused: the cause, with its wording, and the criterion that is to blame.
-/

namespace RecordQuery

open Text

/-- The classes of refusals. -/
inductive RefusalClass where
  /-- The filter names a property that the schema does not have. -/
  | schema
  /-- The operator does not fit the kind of the field. -/
  | typeMismatch
  /-- The operand does not fit the operator or the field. -/
  | format
  deriving DecidableEq

/-- The name of a class of refusals. -/
def RefusalClass.name : RefusalClass → String
  | schema => "SchemaError"
  | typeMismatch => "TypeMismatchError"
  | format => "FormatError"

/-- The causes of refusals. -/
inductive RefusalCause where
  /-- The schema has no field of the name. -/
  | unknownProperty (property schema : String)
  /-- The field is no column of the table. -/
  | noColumn (field : String)
  /-- There is no clause for the operator. -/
  | noClause (operator : Operator)
  /-- The operator looks into texts, and the field holds none. -/
  | notText (operator : Operator) (field : String) (kind : FieldKind)
  /-- The operator takes one text. -/
  | singleValue (operator : Operator) (field : String)
  /-- The operator takes a list that is not empty. -/
  | listOfValues (operator : Operator) (field : String)
  /-- The operator takes a value. -/
  | missingValue (operator : Operator) (field : String)
  /-- The text is no literal of what is expected. -/
  | badLiteral (expected text field : String)
  /-- A cause in its own words. -/
  | stated (message : String)
  deriving DecidableEq

namespace RefusalCause

/-- The class of a cause. -/
def refusalClass : RefusalCause → RefusalClass
  | unknownProperty .. | noColumn .. | noClause .. => .schema
  | notText .. => .typeMismatch
  | _ => .format

/-- The text between double quotes, as it is. -/
def inQuotes (s : String) : String := "\x22" ++ s ++ "\x22"

/-- The wording of a cause. -/
def message : RefusalCause → String
  | unknownProperty property schema =>
    "Property " ++ inQuotes property ++ " not found on " ++ schema
  | noColumn field => "Property " ++ inQuotes field ++ " is not mapped to a column"
  | noClause operator => "Operator " ++ operator.name ++ " has no SQL form"
  | notText operator field kind =>
    "Operator " ++ operator.name ++ " can only be used with string properties, " ++
      inQuotes field ++ " is " ++ kind.name
  | singleValue operator field =>
    "Operator " ++ operator.name ++ " on " ++ inQuotes field ++ " requires a single value"
  | listOfValues operator field =>
    "Operator " ++ operator.name ++ " on " ++ inQuotes field ++
      " requires a non-empty list of values"
  | missingValue operator field =>
    "Operator " ++ operator.name ++ " on " ++ inQuotes field ++ " requires a value"
  | badLiteral expected text field =>
    "Invalid " ++ expected ++ " value " ++ String.ofList (quoted text.toList) ++
      " for property " ++ inQuotes field
  | stated message => message

end RefusalCause

/-- The refusal of a filter. -/
structure Refusal where
  /-- The cause. -/
  cause : RefusalCause
  /-- The criterion that is to blame, if there is one. -/
  criterion? : Option Criterion
  deriving DecidableEq

/-- A value that a request may not have. -/
structure Problem where
  /-- The field of the request. -/
  field : String
  /-- The name of the rule that the value breaks. -/
  rule : String
  deriving DecidableEq

/-- Why an operation has no result. -/
inductive Failure where
  /-- A filter is refused. -/
  | refused (r : Refusal)
  /-- Something goes wrong that is not the fault of a filter. -/
  | faulty (f : Fault)
  /-- A request or a document has values that it may not have. -/
  | invalid (problems : List Problem)
  deriving DecidableEq

/-- The failure with a cause and a criterion. -/
def Failure.refuse (cause : RefusalCause) (criterion? : Option Criterion) : Failure :=
  refused ⟨cause, criterion?⟩

/-- The field that a property stands for. -/
def Schema.require (s : Schema) (property : String) (criterion? : Option Criterion) :
    Except Failure Field :=
  match s.resolve? property with
  | some f => .ok f
  | none => .error (.refuse (.unknownProperty property s.name) criterion?)

end RecordQuery
