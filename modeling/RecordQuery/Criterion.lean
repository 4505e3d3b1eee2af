import RecordQuery.Operator
import RecordQuery.Text.Quoted

/-!
# Criteria

A criterion names a property, an operator and what the property is compared with, and says how it
joins the criteria before it.
-/

namespace RecordQuery

open Text

/-- What a property is compared with. -/
inductive Operand where
  /-- One text. -/
  | text (s : String)
  /-- A list of texts. -/
  | list (items : List String)
  /-- Nothing. -/
  | absent
  deriving DecidableEq

/-- The description of an operand. -/
def Operand.described : Operand → String
  | text s => String.ofList (quoted s.toList)
  | list items =>
    "(" ++ ", ".intercalate (items.map fun s => String.ofList (quoted s.toList)) ++ ")"
  | absent => "<absent>"

/-- A criterion. -/
structure Criterion where
  /-- The name of the property, as it was written. -/
  property : String
  /-- The operator. -/
  operator : Operator
  /-- What the property is compared with. -/
  operand : Operand
  /-- How the criterion joins those before it. -/
  connective : Connective
  deriving DecidableEq

/-- The description of a criterion: its property, operator and operand. -/
def Criterion.described (c : Criterion) : String :=
  c.property ++ " " ++ c.operator.name ++ " " ++ c.operand.described

end RecordQuery
