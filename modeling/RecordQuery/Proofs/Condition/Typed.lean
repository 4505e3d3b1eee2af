import RecordQuery.Proofs.Condition.Formed
import RecordQuery.Proofs.Value.Kind

/-!
# Typed conditions

A condition from criteria that do not look into texts compares columns only with literals of their
kinds (`Condition.isTyped_ofCriteria`), in whatever way the criteria are joined. Lists of values and
tests for null keep to this as single values do.
-/

namespace RecordQuery

namespace Condition

/-- Every comparison of the condition is of one of the fields, and it is the test for null or has a
literal of the kind of the field. -/
inductive IsTyped (fields : List Field) : Condition → Prop where
  /-- A constant. -/
  | const (outcome : Bool) : IsTyped fields (const outcome)
  /-- A test for null. -/
  | nullTest {f : Field} {operator : Operator} (hf : f ∈ fields)
    (hoperator : operator.isNullCheck = true) : IsTyped fields (compare f operator .null)
  /-- A comparison with a literal. -/
  | compare {f : Field} {operator : Operator} {literal : Value} (hf : f ∈ fields)
    (hoperator : operator.isRelational = true) (hliteral : literal.HasKind (some .utc) f.kind) :
    IsTyped fields (compare f operator literal)
  /-- Both of two conditions. -/
  | and {left right : Condition} (hleft : IsTyped fields left) (hright : IsTyped fields right) :
    IsTyped fields (and left right)
  /-- One of two conditions. -/
  | or {left right : Condition} (hleft : IsTyped fields left) (hright : IsTyped fields right) :
    IsTyped fields (or left right)

variable {schema : Schema} {cs : List Criterion} {condition : Condition}

/-- A condition that stems from criteria that do not look into texts is typed if the fields of the
schema are columns. -/
theorem IsFormed.isTyped (hcolumns : ∀ f ∈ schema.fields, f.isColumn = true)
    (hmatch : ∀ c ∈ cs, c.operator.isTextMatch = false) (h : condition.IsFormed schema cs) :
    condition.IsTyped schema.fields := by
  induction h with
  | const outcome => exact .const outcome
  | nullTest hc hf hoperator hnullable =>
    exact .nullTest (List.mem_of_find?_eq_some hf) hoperator
  | textMatch hc hf hoperator hkind htext =>
    rw [hmatch _ hc] at hoperator
    cases hoperator
  | literal hc hf hoperator htext hliteral =>
    have hmem := List.mem_of_find?_eq_some hf
    exact .compare hmem hoperator (Field.literal_hasKind (hcolumns _ hmem) hliteral)
  | and _ _ hleft hright => exact .and hleft hright
  | or _ _ hleft hright => exact .or hleft hright

/-- The condition of criteria of a schema that do not look into texts is typed. -/
theorem isTyped_ofCriteria (hcolumns : ∀ f ∈ schema.fields, f.isColumn = true)
    (hmatch : ∀ c ∈ cs, c.operator.isTextMatch = false)
    (h : ofCriteria schema cs = .ok condition) : condition.IsTyped schema.fields :=
  (isFormed_ofCriteria h).isTyped hcolumns hmatch

end Condition

end RecordQuery
