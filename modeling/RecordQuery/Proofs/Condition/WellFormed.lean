import RecordQuery.Document.Basic
import RecordQuery.Proofs.Condition.Meaning
import RecordQuery.Source.Table

/-!
# Conditions from criteria can be read

A condition is read in three ways: it is described, it becomes a test of records, and it becomes
a clause of a table. Each reading goes by the operators, and fails on an operator that it does not
know (`Condition.described?`, `Condition.test?`, `Condition.clauseFailure?`). A condition from
criteria only holds comparisons that all three know (`Condition.wellFormed_ofCriteria`). So it is
a test of records; it has a description unless a fraction in it is too long to be written, and if
all fields are columns it is a clause unless it orders truth values.
-/

namespace RecordQuery

/-! ## Readings that may fail -/

/-- The value is a truth value. -/
def Value.isTruth : Value → Bool
  | bool _ => true
  | _ => false

namespace Operator

/-- Which orders of a value to the literal satisfy the operator, if it is one of order. -/
def order? : Operator → Option (Ordering → Bool)
  | greaterThan => some (· == .gt)
  | greaterThanOrEqual => some (· != .lt)
  | lessThan => some (· == .lt)
  | lessThanOrEqual => some (· != .gt)
  | _ => none

end Operator

variable {α : Type} [Readable α]

/-- The test that a comparison is, if there is one for its operator. -/
def Comparison.test? (f : Field) (operator : Operator) (literal : Value) :
    Option (α → Except Fault Bool) :=
  match operator with
  | .isNull => some fun r => (f.read r).map Value.isNull
  | .isNotNull => some fun r => (f.read r).map fun v => !v.isNull
  | .contains | .startsWith | .endsWith => some fun r => do
    textHolds operator (← f.read r) literal
  | .equals => some fun r => do ((← f.readNormal r).relate literal).equal
  | .notEquals => some fun r => do return !(← ((← f.readNormal r).relate literal).equal)
  | operator => operator.order?.map fun p r => do
    let v ← f.readNormal r
    if v.isNull then .ok false else (v.relate literal).satisfies p

namespace Condition

/-- The description of a condition, if there is a word for each of its operators and its literals
can be written. -/
def described? : Condition → Option String
  | const outcome => some (if outcome then "true" else "false")
  | compare f operator literal => do
    let symbol ← operator.symbol?
    if operator.isNullCheck || literal.isWritable then
      return f.name ++ " " ++ symbol ++
        if operator.isNullCheck then "" else " " ++ String.ofList literal.described
    else none
  | and left right => do return "(" ++ (← left.described?) ++ " and " ++ (← right.described?) ++ ")"
  | or left right => do return "(" ++ (← left.described?) ++ " or " ++ (← right.described?) ++ ")"

/-- The test of records that a condition is, if there is one for each of its operators. -/
def test? : Condition → Option (α → Except Fault Bool)
  | const outcome => some fun _ => .ok outcome
  | compare f operator literal => Comparison.test? f operator literal
  | and left right => do
    let p ← left.test?
    let q ← right.test?
    return fun r => do if ← p r then q r else return false
  | or left right => do
    let p ← left.test?
    let q ← right.test?
    return fun r => do if ← p r then return true else q r

end Condition

/-! ## Where the readings succeed -/

variable {f : Field} {operator : Operator} {literal : Value} {condition : Condition}

/-- An operator has a word unless it asks for one of several values. -/
theorem Operator.isSome_symbol?_iff : operator.symbol?.isSome = true ↔ operator ≠ .oneOf := by
  cases operator <;> simp [symbol?]

/-- A comparison by order neither looks into texts nor tests for null. -/
theorem Operator.of_isSome_order? (h : operator.order?.isSome = true) :
    operator.isTextMatch = false ∧ operator.isNullCheck = false := by
  cases operator with
  | greaterThan | greaterThanOrEqual | lessThan | lessThanOrEqual => exact ⟨rfl, rfl⟩
  | _ => cases h

/-- A comparison is a test unless it asks for one of several values. -/
theorem Comparison.test?_eq (hoperator : operator ≠ .oneOf) :
    test? f operator literal = some (holds (α := α) f operator literal) := by
  cases operator with
  | oneOf => exact absurd rfl hoperator
  | _ => rfl

namespace Condition

/-- If its operators have comparisons, the condition has a description as far as its literals can be
written. -/
theorem described?_eq (h : condition.isComparable = true) :
    condition.described? = if condition.isWritable then some condition.described else none := by
  induction condition with
  | const outcome => rfl
  | compare f operator literal =>
    obtain ⟨symbol, hsymbol⟩ := Option.isSome_iff_exists.1 h
    rw [described?, described, isWritable, hsymbol]
    cases operator.isNullCheck || literal.isWritable <;> rfl
  | and left right ihl ihr | or left right ihl ihr =>
    obtain ⟨hl, hr⟩ := Bool.and_eq_true_iff.1 h
    rw [described?, ihl hl, ihr hr, isWritable]
    cases left.isWritable <;> cases right.isWritable <;> rfl

/-- The condition is a test if its operators have comparisons. -/
theorem test?_eq (h : condition.isComparable = true) :
    condition.test? = some (condition.holds (α := α)) := by
  induction condition with
  | const outcome => rfl
  | compare f operator literal => exact Comparison.test?_eq (Operator.isSome_symbol?_iff.1 h)
  | and left right ihl ihr | or left right ihl ihr =>
    obtain ⟨hl, hr⟩ := Bool.and_eq_true_iff.1 h
    rw [test?, ihl hl, ihr hr]
    rfl

/-! ## Well-formed comparisons -/

/-- The comparisons of a condition, from left to right. -/
def comparisons : Condition → List (Field × Operator × Value)
  | const _ => []
  | compare f operator literal => [(f, operator, literal)]
  | and left right | or left right => left.comparisons ++ right.comparisons

/-- A comparison of the condition is one by order with a truth value. -/
def ordersTruth (condition : Condition) : Bool :=
  condition.comparisons.any fun (_, operator, literal) => operator.order?.isSome && literal.isTruth

end Condition

/-- The texts of an operand. -/
def Operand.texts : Operand → List String
  | text s => [s]
  | list items => items
  | absent => []

/-- A criterion compares by the texts of its operand. -/
theorem Criterion.mem_texts_of_mem_literalTexts {c : Criterion} {text : String}
    (h : text ∈ c.literalTexts) : text ∈ c.operand.texts := by
  unfold literalTexts at h
  split at h
  · next hoperand =>
    rw [hoperand]
    exact (List.mem_ite_nil_right.1 h).2
  · next hoperand =>
    rw [hoperand]
    exact (List.mem_ite_nil_right.1 h).2
  · cases h

/-- The comparison stems from the criterion, and its operator suits its field and its literal. -/
structure Criterion.Grounds (schema : Schema) (c : Criterion) (f : Field) (operator : Operator)
    (literal : Value) : Prop where
  /-- The field is the one that the property stands for. -/
  resolve? : schema.resolve? c.property = some f
  /-- One of several values is not asked for. -/
  ne_oneOf : operator ≠ .oneOf
  /-- A look into texts is one into a field of texts, with a text. -/
  textMatch : operator.isTextMatch = true →
    f.kind = .string ∧ ∃ s, c.operand = .text s ∧ literal = .text s
  /-- A test for null is one of a field that may have no value. -/
  nullTest : operator.isNullCheck = true → f.nullable = true
  /-- Any other literal is what one of the texts stands for in the field. -/
  literal : operator.isTextMatch = false → operator.isNullCheck = false →
    ∃ text ∈ c.operand.texts, f.coerce text c = .ok literal

/-- A column is compared as a criterion asks, unless it is ordered against a truth value. -/
theorem Criterion.Grounds.clauseFailure?_eq {schema : Schema} {c : Criterion}
    (h : c.Grounds schema f operator literal) :
    operator.clauseFailure? literal =
      if operator.order?.isSome && literal.isTruth then some (.faulty .unfitArgument)
      else none := by
  cases operator with
  | equals | notEquals | isNull | isNotNull => rfl
  | greaterThan | greaterThanOrEqual | lessThan | lessThanOrEqual =>
    obtain ⟨text, -, hliteral⟩ := h.literal rfl rfl
    have hnull := Field.literal_isNull (Field.coerce_eq_ok_iff.1 hliteral)
    cases literal with
    | null => cases hnull
    | _ => rfl
  | contains | startsWith | endsWith =>
    obtain ⟨-, text, -, rfl⟩ := h.textMatch rfl
    rfl
  | oneOf => exact absurd rfl h.ne_oneOf

namespace Condition

variable {schema : Schema} {cs : List Criterion} {left right : Condition}

/-- A comparison orders truth values if its operator is one of order and its literal is one. -/
theorem ordersTruth_compare : (compare f operator literal).ordersTruth =
    (operator.order?.isSome && literal.isTruth) := Bool.or_false _

theorem ordersTruth_and : (and left right).ordersTruth = (left.ordersTruth || right.ordersTruth) :=
  List.any_append

theorem ordersTruth_or : (or left right).ordersTruth = (left.ordersTruth || right.ordersTruth) :=
  List.any_append

/-- Every comparison of a condition that stems from criteria is grounded in one of them. -/
theorem IsFormed.grounds (h : condition.IsFormed schema cs) {f : Field} {operator : Operator}
    {literal : Value} (hmem : (f, operator, literal) ∈ condition.comparisons) :
    ∃ c ∈ cs, c.Grounds schema f operator literal := by
  induction h with
  | const outcome => cases hmem
  | @nullTest c _ _ hc hf hoperator hnullable =>
    obtain ⟨⟩ := List.mem_singleton.1 hmem
    obtain ⟨hmatch, hne, -⟩ := Operator.of_isNullCheck hoperator
    refine ⟨c, hc, hf, hne, fun h => ?_, fun _ => hnullable, fun _ h => ?_⟩
    · cases hmatch.symm.trans h
    · cases hoperator.symm.trans h
  | @textMatch c _ text hc hf hoperator hkind htext =>
    obtain ⟨⟩ := List.mem_singleton.1 hmem
    obtain ⟨hcheck, hne, -⟩ := Operator.of_isTextMatch hoperator
    refine ⟨c, hc, hf, hne, fun _ => ⟨hkind, text, htext, rfl⟩, fun h => ?_, fun h => ?_⟩
    · cases hcheck.symm.trans h
    · cases hoperator.symm.trans h
  | @literal c _ _ text _ hc hf hoperator htext hliteral =>
    obtain ⟨⟩ := List.mem_singleton.1 hmem
    obtain ⟨hmatch, hcheck, hne⟩ := Operator.of_isRelational hoperator
    refine ⟨c, hc, hf, hne, fun h => ?_, fun h => ?_, fun _ _ => ?_⟩
    · cases hmatch.symm.trans h
    · cases hcheck.symm.trans h
    · exact ⟨text, c.mem_texts_of_mem_literalTexts htext, Field.coerce_eq_ok_iff.2 hliteral⟩
  | and _ _ ihl ihr | or _ _ ihl ihr => exact (List.mem_append.1 hmem).elim ihl ihr

/-- A condition of columns, whose comparisons are grounded in criteria, is a clause unless it orders
truth values. -/
theorem clauseFailure?_eq (hstored : ∀ f ∈ schema.fields, f.stored = true)
    (hgrounds : ∀ f operator literal, (f, operator, literal) ∈ condition.comparisons →
      ∃ c ∈ cs, c.Grounds schema f operator literal) :
    condition.clauseFailure? =
      if condition.ordersTruth then some (.faulty .unfitArgument) else none := by
  induction condition with
  | const outcome => rfl
  | compare f operator literal =>
    obtain ⟨c, -, h⟩ := hgrounds f operator literal (List.mem_singleton_self _)
    have hf := hstored f (List.mem_of_find?_eq_some h.resolve?)
    rw [clauseFailure?, if_pos hf, h.clauseFailure?_eq, ordersTruth_compare]
  | and left right ihl ihr | or left right ihl ihr =>
    have hleft := ihl fun f operator literal hmem =>
      hgrounds f operator literal (List.mem_append_left _ hmem)
    have hright := ihr fun f operator literal hmem =>
      hgrounds f operator literal (List.mem_append_right _ hmem)
    rw [clauseFailure?, hleft, hright]
    simp only [ordersTruth_and, ordersTruth_or]
    cases left.ordersTruth with
    | false => rfl
    | true => rfl

/-- Every comparison of the condition of a list of criteria is grounded in one of them. So the
condition is a test of the records of any type and makes up a selection, and it has a description
unless a fraction is too long to be written. If all fields of the schema are columns, it selects
from every table, unless it orders truth values: in that case every table fails. -/
theorem wellFormed_ofCriteria (h : ofCriteria schema cs = .ok condition) :
    (∀ f operator literal, (f, operator, literal) ∈ condition.comparisons →
      ∃ c ∈ cs, c.Grounds schema f operator literal) ∧
    condition.described? = (if condition.isWritable then some condition.described else none) ∧
    condition.test? = some (condition.holds (α := α)) ∧
    ∃ selection, Selection.of? schema condition = .ok selection ∧
      selection.condition = condition ∧
      ((∀ f ∈ schema.fields, f.stored = true) → ∀ t : TableSource α, t.select selection =
        if condition.ordersTruth then .error (.faulty .unfitArgument)
        else .ok { t with condition := .and t.condition condition }) := by
  have hformed := isFormed_ofCriteria h
  have hcomparable := hformed.isComparable
  refine ⟨fun f operator literal => hformed.grounds, described?_eq hcomparable,
    test?_eq hcomparable, ⟨schema.name, condition, hcomparable⟩, dif_pos hcomparable, rfl,
    fun hstored t => ?_⟩
  rw [TableSource.select, clauseFailure?_eq hstored fun f operator literal => hformed.grounds]
  cases condition.ordersTruth with
  | false => rfl
  | true => rfl

/-- A list of sizes, an equality without a value, and the beginning of a name. -/
theorem wellFormed_ofCriteria_mixed :
    let cs : List Criterion :=
      [⟨"size", .oneOf, .list ["1", "2"], .none⟩, ⟨"customerId", .equals, .absent, .and⟩,
       ⟨"filename", .startsWith, .text "a", .or⟩]
    let size := Document.column "size" (some .int) false
    let condition : Condition :=
      .or
        (.and (.or (.compare size .equals (.int 1)) (.compare size .equals (.int 2)))
          (.compare (Document.column "customer_id" (some .text) true) .isNull .null))
        (.compare (Document.column "filename" (some .text) false) .startsWith (.text "a"))
    ofCriteria Document.schema cs = .ok condition ∧
      (∀ f operator literal, (f, operator, literal) ∈ condition.comparisons →
        ∃ c ∈ cs, c.Grounds Document.schema f operator literal) ∧
      condition.described? =
        some "(((size eq 1 or size eq 2) and customer_id isnull) or filename startswith 'a')" ∧
      ∃ selection, Selection.of? Document.schema condition = .ok selection ∧
        ∀ t : TableSource Document, t.select selection =
          .ok { t with condition := .and t.condition condition } := by
  intro cs size condition
  have hcondition : ofCriteria Document.schema cs = .ok condition := rfl
  have hstored : ∀ f ∈ Document.schema.fields, f.stored = true := by decide
  obtain ⟨hgrounds, hdescribed, -, selection, hselection, -, hselect⟩ :=
    wellFormed_ofCriteria (α := Document) hcondition
  exact ⟨hcondition, hgrounds, hdescribed.trans rfl, selection, hselection, hselect hstored⟩

/-- A column of truth values. -/
def openColumn : Field := ⟨"is_open", .bool, some .bool, false, .attribute, true⟩

/-- A schema with this column alone. -/
def shops : Schema where
  name := "Shop"
  fields := [openColumn]
  distinct := by
    unfold DistinctKeys
    decide

/-- A criterion that orders truth values has a condition, and no table takes it although its field
is a column. -/
theorem not_select_ofCriteria_isOpen :
    let condition : Condition := .compare openColumn .greaterThan (.bool true)
    ofCriteria shops [⟨"isOpen", .greaterThan, .text "true", .none⟩] = .ok condition ∧
      (∀ f ∈ shops.fields, f.stored = true) ∧
      ∃ selection, Selection.of? shops condition = .ok selection ∧
        ∀ t : TableSource Record, t.select selection = .error (.faulty .unfitArgument) := by
  intro condition
  exact ⟨rfl, by decide, ⟨shops.name, condition, rfl⟩, rfl, fun t => rfl⟩

end Condition

end RecordQuery
