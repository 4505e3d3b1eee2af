import RecordQuery.Proofs.Condition.Typed
import RecordQuery.Proofs.Condition.WellFormed
import RecordQuery.Proofs.Source.Encoding
import RecordQuery.Proofs.Source.Outcome

/-!
# Tables select as lists do

On a row that holds values of the kinds of its columns, a typed condition holds if and only if its
outcome is positive (`Condition.holds_eq_outcome`). The two differ on a comparison with a field
without a value, which fails in memory and has no outcome in a table; a condition has no negation
that would tell these apart but inequality, and a column that may be without a value is tested for
null there. So what a table selects by criteria that do not look into texts are the rows that a list
of the same rows selects (`TableSource.select_ofCriteria`).
-/

namespace RecordQuery

variable {α : Type} [Readable α] {row : α} {fields : List Field} {f : Field} {operator : Operator}
  {v w literal : Value}

/-- The row holds a value of the kind of the column, or no value where the column may be without. -/
def Field.IsHeld (f : Field) (row : α) : Prop :=
  ∃ v, Readable.value? row f.name = some v ∧ (v = .null ∧ f.nullable = true ∨ v.HasKind none f.kind)

/-! ## Reading a column -/

namespace Field

/-- A column is stored. -/
theorem stored_of_isColumn (hf : f.isColumn = true) : f.stored = true := by
  simp only [isColumn, Bool.and_eq_true] at hf
  exact hf.1.1

/-- What a column holds is read as it is. -/
theorem read_of_isColumn (hf : f.isColumn = true) (hv : Readable.value? row f.name = some v) :
    f.read row = .ok v := by
  simp only [isColumn, Bool.and_eq_true] at hf
  obtain ⟨⟨-, hreachable⟩, -⟩ := hf
  rw [read, if_pos hreachable, hv]

/-- What a column holds is stored in its cell. -/
theorem cell_eq (hv : Readable.value? row f.name = some v) : f.cell row = v.stored := by
  rw [cell, hv]
  rfl

/-- Without a value, a column is null, and with one it compares with literals of its kind. -/
theorem readNormal_of_isHeld (hf : f.isColumn = true) (hrow : f.IsHeld row) :
    ∃ w, f.readNormal row = .ok w ∧ f.cell row = w.stored ∧
      (w = .null ∧ f.nullable = true ∨ w.HasKind (some .utc) f.kind) := by
  obtain ⟨v, hv, ⟨rfl, hnullable⟩ | hkind⟩ := hrow
  · refine ⟨.null, ?_, cell_eq hv, .inl ⟨rfl, hnullable⟩⟩
    rw [readNormal, read_of_isColumn hf hv]
    exact normalize_null f
  · obtain ⟨w, hw, hkind, hstored⟩ := normalize_hasKind hf hkind
    refine ⟨w, ?_, by rw [cell_eq hv, hstored], .inr hkind⟩
    rw [readNormal, read_of_isColumn hf hv]
    exact hw

end Field

/-! ## One comparison -/

/-- A value in this order to the literal satisfies the comparison. -/
def Operator.isMet : Operator → Ordering → Bool
  | equals, o => o == .eq
  | notEquals, o => o != .eq
  | operator, o => operator.accepts o

/-- Two cells that hold something are compared by their order. -/
theorem Cell.outcome_eq_isMet {nullable : Bool} {c d : Cell}
    (hoperator : operator.isRelational = true) (hc : c ≠ .null) (hd : d ≠ .null) :
    c.outcome nullable operator d = some (operator.isMet (c.compare d)) := by
  have hequal : decide (c = d) = (c.compare d == .eq) := by
    rw [Bool.eq_iff_iff, decide_eq_true_eq, beq_iff_eq, compare_eq_eq]
  cases operator with
  | equals => simp only [outcome, if_neg hd, ifSome, if_neg hc, hequal, Operator.isMet]
  | notEquals =>
    have hdiffers : decide (c ≠ d) = (c.compare d != .eq) := by
      rw [decide_not, hequal]
      rfl
    have hnull : decide (c = null) = false := decide_eq_false hc
    cases nullable with
    | true =>
      simp only [outcome, if_neg hd, ifSome, if_neg hc, hdiffers, hnull, if_true, Operator.isMet,
        eitherOutcome_false_right]
    | false =>
      simp only [outcome, if_neg hd, ifSome, if_neg hc, hdiffers, Operator.isMet]
      rfl
  | greaterThan | greaterThanOrEqual | lessThan | lessThanOrEqual =>
    simp only [outcome, if_neg hd, ifSome, if_neg hc, Operator.isMet]
  | contains | startsWith | endsWith | oneOf | isNull | isNotNull => cases hoperator

/-- A cell that holds nothing satisfies only inequality. -/
theorem Cell.outcome_null {d : Cell} (hoperator : operator.isRelational = true) (hd : d ≠ .null) :
    null.outcome true operator d = some true ↔ operator = .notEquals := by
  cases operator with
  | equals | notEquals | greaterThan | greaterThanOrEqual | lessThan | lessThanOrEqual =>
    simp [outcome, hd, ifSome, eitherOutcome]
  | contains | startsWith | endsWith | oneOf | isNull | isNotNull => cases hoperator

namespace Comparison

/-- Two values in order are compared by their order. -/
theorem holds_eq_isMet {o : Ordering} (hoperator : operator.isRelational = true)
    (hread : f.readNormal row = .ok v) (hv : v.isNull = false)
    (hrelate : v.relate literal = .ordered o) :
    holds f operator literal row = .ok (operator.isMet o) := by
  cases operator with
  | equals => simp only [holds, hread, hrelate, bind, Except.bind, Relation.equal, Operator.isMet]
  | notEquals =>
    simp only [holds, hread, hrelate, bind, Except.bind, Relation.equal, Operator.isMet]
    rfl
  | greaterThan | greaterThanOrEqual | lessThan | lessThanOrEqual =>
    simp only [holds, hread, bind, Except.bind, orderHolds, hv, hrelate]
    rfl
  | contains | startsWith | endsWith | oneOf | isNull | isNotNull => cases hoperator

/-- No value satisfies only inequality. -/
theorem holds_null (hoperator : operator.isRelational = true)
    (hread : f.readNormal row = .ok .null) (hrelate : Value.null.relate literal = .unlike false) :
    holds f operator literal row = .ok (decide (operator = .notEquals)) := by
  cases operator with
  | equals | notEquals => simp only [holds, hread, hrelate, bind, Except.bind, Relation.equal]; rfl
  | greaterThan | greaterThanOrEqual | lessThan | lessThanOrEqual =>
    simp only [holds, hread, bind, Except.bind, orderHolds]
    rfl
  | contains | startsWith | endsWith | oneOf | isNull | isNotNull => cases hoperator

/-- A comparison of a column holds if and only if its outcome is positive. -/
theorem holds_eq_outcome (hf : f.isColumn = true) (hrow : f.IsHeld row)
    (hoperator : operator.isRelational = true) (hliteral : literal.HasKind (some .utc) f.kind) :
    holds f operator literal row =
      .ok (decide ((f.cell row).outcome f.nullable operator literal.stored = some true)) := by
  obtain ⟨w, hread, hcell, ⟨rfl, hnullable⟩ | hkind⟩ := Field.readNormal_of_isHeld hf hrow
  · have hnull : Value.null.stored = .null := rfl
    rw [hcell, hnullable, hnull, holds_null hoperator hread hliteral.relate_null]
    simp only [Cell.outcome_null hoperator hliteral.stored_ne]
  · rw [hcell, Cell.outcome_eq_isMet hoperator hkind.stored_ne hliteral.stored_ne,
      holds_eq_isMet hoperator hread hkind.isNull (Value.relate_eq hkind hliteral)]
    simp

end Comparison

/-! ## Conditions -/

/-- No column holds truth values. -/
theorem Value.HasKind.isTruth {offset? : Option Time.Offset} {kind : FieldKind}
    (h : v.HasKind offset? kind) : v.isTruth = false := by
  cases h <;> rfl

namespace Condition

variable {condition : Condition}

/-- The test for null holds of a column if and only if its outcome is positive. -/
theorem holds_nullTest (hf : f.isColumn = true) (hrow : f.IsHeld row)
    (hoperator : operator.isNullCheck = true) :
    (compare f operator .null).holds row =
      .ok (decide ((compare f operator .null).outcome row = some true)) := by
  obtain ⟨v, hv, hkind⟩ := hrow
  have hnull : v.isNull = decide (v.stored = .null) := by
    rcases hkind with ⟨rfl, -⟩ | hkind
    · rfl
    · rw [hkind.isNull, decide_eq_false hkind.stored_ne]
  rw [holds, outcome, Field.cell_eq hv]
  cases operator with
  | isNull =>
    simp only [Comparison.holds, Field.read_of_isColumn hf hv, Except.map, hnull, Cell.outcome]
    simp
  | isNotNull =>
    simp only [Comparison.holds, Field.read_of_isColumn hf hv, Except.map, hnull, Cell.outcome]
    simp
  | _ => cases hoperator

/-- A typed condition holds of a row if and only if its outcome is positive. -/
theorem holds_eq_outcome (hcolumns : ∀ f ∈ fields, f.isColumn = true)
    (hrow : ∀ f ∈ fields, f.IsHeld row) (h : condition.IsTyped fields) :
    condition.holds row = .ok (decide (condition.outcome row = some true)) := by
  induction h with
  | const b => cases b <;> rfl
  | nullTest hf hoperator => exact holds_nullTest (hcolumns _ hf) (hrow _ hf) hoperator
  | compare hf hoperator hliteral =>
    exact Comparison.holds_eq_outcome (hcolumns _ hf) (hrow _ hf) hoperator hliteral
  | @and left right _ _ ihl ihr =>
    simp only [holds, ihl, ihr, bind, Except.bind, outcome, bothOutcomes_eq_true]
    by_cases hl : left.outcome row = some true <;> simp [hl, pure, Except.pure]
  | @or left right _ _ ihl ihr =>
    simp only [holds, ihl, ihr, bind, Except.bind, outcome, eitherOutcome_eq_true]
    by_cases hl : left.outcome row = some true <;> simp [hl, pure, Except.pure]

/-- A condition that stems from criteria on columns is a clause. -/
theorem IsFormed.clauseFailure?_eq_none {schema : Schema} {cs : List Criterion}
    (hcolumns : ∀ f ∈ schema.fields, f.isColumn = true) (h : condition.IsFormed schema cs) :
    condition.clauseFailure? = none := by
  have htruth : condition.ordersTruth = false := by
    refine List.any_eq_false.2 ?_
    rintro ⟨f, operator, v⟩ hmem htruth
    obtain ⟨horder, htruth⟩ := Bool.and_eq_true_iff.1 htruth
    obtain ⟨hmatch, hcheck⟩ := Operator.of_isSome_order? horder
    obtain ⟨c, -, hgrounds⟩ := h.grounds hmem
    obtain ⟨text, -, hliteral⟩ := hgrounds.literal hmatch hcheck
    have hf := hcolumns f (List.mem_of_find?_eq_some hgrounds.resolve?)
    have hkind := Field.literal_hasKind hf (Field.coerce_eq_ok_iff.1 hliteral)
    exact Bool.false_ne_true (hkind.isTruth.symm.trans htruth)
  have hstored (f : Field) (hf : f ∈ schema.fields) := Field.stored_of_isColumn (hcolumns f hf)
  rw [clauseFailure?_eq hstored fun f operator literal => h.grounds, htruth]
  rfl

end Condition

/-! ## Tables -/

namespace TableSource

variable {schema : Schema} {rows : List α} {cs : List Criterion} {selection : Selection}

/-- By criteria that do not look into texts, a table selects the rows that a list selects. -/
theorem select_ofCriteria (hcolumns : ∀ f ∈ schema.fields, f.isColumn = true)
    (hrows : ∀ row ∈ rows, ∀ f ∈ schema.fields, f.IsHeld row)
    (hmatch : ∀ c ∈ cs, c.operator.isTextMatch = false)
    (hselection : Selection.ofCriteria schema cs = .ok selection)
    (hliterals : ∀ v ∈ selection.condition.literals, v.fitsWord = true) :
    ∃ t, (ofRows schema rows).select selection = .ok t ∧
      ∃ found, rows.filterM selection.selects = .ok found ∧ t.all = .ok found ∧
        t.count = .ok found.length := by
  have hcondition := Selection.condition_of_ofCriteria hselection
  have htyped := Condition.isTyped_ofCriteria hcolumns hmatch hcondition
  have hselect : (ofRows schema rows).select selection =
      .ok ⟨schema, rows, .and (.const true) selection.condition, []⟩ := by
    rw [select, (Condition.isFormed_ofCriteria hcondition).clauseFailure?_eq_none hcolumns]
    rfl
  have houtcome (row : α) : (Condition.and (.const true) selection.condition).outcome row =
      selection.condition.outcome row := bothOutcomes_true_left _
  refine ⟨_, hselect, rows.filter fun row => selection.condition.outcome row = some true,
    ?_, ?_, ?_⟩
  · exact filterM_ok fun row hrow => Condition.holds_eq_outcome hcolumns (hrows row hrow) htyped
  · rw [all_eq rfl hliterals]
    simp only [houtcome]
  · rw [count_eq hliterals]
    simp only [houtcome]

end TableSource

end RecordQuery
