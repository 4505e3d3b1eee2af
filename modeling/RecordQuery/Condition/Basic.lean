import RecordQuery.Literal
import RecordQuery.Record
import RecordQuery.Text.Part
import RecordQuery.Value.Relation

/-!
# Conditions

A condition is a tree of comparisons of fields with literals. `Condition.holds` decides it on a
record: the right side of a connective counts only where the left side leaves the matter open, and
the first fault ends the decision. A field without a value satisfies no comparison but inequality
and the test for null.
-/

namespace RecordQuery

/-- A condition on a record. -/
inductive Condition where
  /-- A condition that always has the same outcome. -/
  | const (outcome : Bool)
  /-- A comparison of a field with a literal. The tests for null have the literal null. -/
  | compare (field : Field) (operator : Operator) (literal : Value)
  /-- Both conditions hold. -/
  | and (left right : Condition)
  /-- One of the conditions holds. -/
  | or (left right : Condition)
  deriving DecidableEq

/-- The value of a field in a record, in the shape that literals have. -/
def Field.readNormal {α : Type} [Readable α] (f : Field) (r : α) : Except Fault Value :=
  (f.read r).bind f.normalize

namespace Operator

/-- Whether a value in this order to the literal satisfies the operator. -/
def accepts : Operator → Ordering → Bool
  | greaterThan, o => o == .gt
  | greaterThanOrEqual, o => o != .lt
  | lessThan, o => o == .lt
  | lessThanOrEqual, o => o != .gt
  | _, _ => false

/-- Whether a text satisfies the operator with a text as its literal. -/
def matchesText : Operator → List Char → List Char → Bool
  | contains, s, word => Text.holds s word
  | startsWith, s, word => Text.startsWith s word
  | endsWith, s, word => Text.endsWith s word
  | _, _, _ => false

end Operator

namespace Comparison

/-- Whether the plain text of a value satisfies an operator that looks into texts. -/
def textHolds (operator : Operator) (v literal : Value) : Except Fault Bool :=
  if v.isNull then .ok false
  else
    match literal.text? with
    | some word => .ok (operator.matchesText v.plain word.toList)
    | none => .error .incomparable

/-- Whether a value satisfies an operator of order. -/
def orderHolds (operator : Operator) (v literal : Value) : Except Fault Bool :=
  if v.isNull then .ok false else (v.relate literal).satisfies operator.accepts

/-- Whether the comparison of a field with a literal holds of a record. -/
def holds {α : Type} [Readable α] (f : Field) (operator : Operator) (literal : Value) (r : α) :
    Except Fault Bool :=
  match operator with
  | .isNull => (f.read r).map Value.isNull
  | .isNotNull => (f.read r).map fun v => !v.isNull
  | .contains | .startsWith | .endsWith => do textHolds operator (← f.read r) literal
  | .equals => do ((← f.readNormal r).relate literal).equal
  | .notEquals => do return !(← ((← f.readNormal r).relate literal).equal)
  | .greaterThan | .greaterThanOrEqual | .lessThan | .lessThanOrEqual => do
    orderHolds operator (← f.readNormal r) literal
  | .oneOf => .error .unknownComparison

end Comparison

namespace Condition

/-- Whether a condition holds of a record. -/
def holds {α : Type} [Readable α] : Condition → α → Except Fault Bool
  | const outcome, _ => .ok outcome
  | compare f operator literal, r => Comparison.holds f operator literal r
  | and left right, r => do if ← left.holds r then right.holds r else return false
  | or left right, r => do if ← left.holds r then return true else right.holds r

/-- Every operator of the condition has a comparison. -/
def isComparable : Condition → Bool
  | const _ => true
  | compare _ operator _ => operator.symbol?.isSome
  | and left right | or left right => left.isComparable && right.isComparable

/-- The description of a condition. -/
def described : Condition → String
  | const outcome => if outcome then "true" else "false"
  | compare f operator literal =>
    f.name ++ " " ++ operator.symbol?.getD operator.name ++
      if operator.isNullCheck then "" else " " ++ String.ofList literal.described
  | and left right => "(" ++ left.described ++ " and " ++ right.described ++ ")"
  | or left right => "(" ++ left.described ++ " or " ++ right.described ++ ")"

/-- The literals of the condition can be described. -/
def isWritable : Condition → Bool
  | const _ => true
  | compare _ operator literal => operator.isNullCheck || literal.isWritable
  | and left right | or left right => left.isWritable && right.isWritable

end Condition

end RecordQuery
