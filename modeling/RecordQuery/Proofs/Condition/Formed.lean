import RecordQuery.Condition.Compile
import RecordQuery.Proofs.Literal

/-!
# What criteria are compiled to

Every comparison of a condition from criteria stems from one of them
(`Condition.isFormed_ofCriteria`): it compares the field that the criterion names, by an operator
that has a comparison, with a text in a field of texts or with a literal that is read from a text of
the criterion. Only fields that may have no value are tested for null.
-/

namespace RecordQuery

/-- The operator compares two values. -/
def Operator.isRelational : Operator → Bool
  | equals | notEquals | greaterThan | greaterThanOrEqual | lessThan | lessThanOrEqual => true
  | _ => false

/-- The texts of a criterion that are read as literals of its field, in their order. -/
def Criterion.literalTexts (c : Criterion) : List String :=
  match c.operand with
  | .text s => if c.operator.isRelational then [s] else []
  | .list items => if c.operator = .oneOf then items else []
  | .absent => []

/-- A criterion that compares by one value and not by a list of them has no texts but its own. -/
theorem Criterion.literalTexts_eq_nil {c : Criterion} (hrelational : c.operator.isRelational = false)
    (hlist : c.operator ≠ .oneOf) : c.literalTexts = [] := by
  unfold literalTexts
  split <;> simp [hrelational, hlist]

/-- Every comparison of the condition stems from one of the criteria. -/
inductive Condition.IsFormed (schema : Schema) (cs : List Criterion) : Condition → Prop where
  /-- A constant. -/
  | const (outcome : Bool) : IsFormed schema cs (const outcome)
  /-- A test for null of a field that may have no value. -/
  | nullTest {c : Criterion} {f : Field} {operator : Operator} (hc : c ∈ cs)
    (hf : schema.resolve? c.property = some f) (hoperator : operator.isNullCheck = true)
    (hnullable : f.nullable = true) : IsFormed schema cs (compare f operator .null)
  /-- A look into the text of a field with the text of the criterion. -/
  | textMatch {c : Criterion} {f : Field} {text : String} (hc : c ∈ cs)
    (hf : schema.resolve? c.property = some f) (hoperator : c.operator.isTextMatch = true)
    (hkind : f.kind = .string) (htext : c.operand = .text text) :
    IsFormed schema cs (compare f c.operator (.text text))
  /-- A comparison with a literal that is read from a text of the criterion. -/
  | literal {c : Criterion} {f : Field} {operator : Operator} {text : String} {v : Value}
    (hc : c ∈ cs) (hf : schema.resolve? c.property = some f)
    (hoperator : operator.isRelational = true) (htext : text ∈ c.literalTexts)
    (hliteral : f.literal text = .ok v) : IsFormed schema cs (compare f operator v)
  /-- Both of two conditions. -/
  | and {left right : Condition} (hleft : IsFormed schema cs left)
    (hright : IsFormed schema cs right) : IsFormed schema cs (and left right)
  /-- One of two conditions. -/
  | or {left right : Condition} (hleft : IsFormed schema cs left)
    (hright : IsFormed schema cs right) : IsFormed schema cs (or left right)

variable {schema : Schema} {f : Field} {c : Criterion} {cs : List Criterion} {condition : Condition}
  {text : String} {v : Value}

namespace Condition

theorem require_eq_ok_iff {property : String} {criterion? : Option Criterion} :
    schema.require property criterion? = .ok f ↔ schema.resolve? property = some f := by
  rw [Schema.require]
  split
  · next g hg => rw [hg, Except.ok.injEq, Option.some.injEq]
  · next hg => simp [hg]

theorem singleText_eq_ok_iff : singleText f c = .ok text ↔ c.operand = .text text := by
  rw [singleText]
  split
  · next t ht => simp [ht]
  · next hne => exact iff_of_false (by simp) (hne text)

/-- A condition that stems from criteria has a comparison for every operator. -/
theorem IsFormed.isComparable (h : condition.IsFormed schema cs) :
    condition.isComparable = true := by
  induction h with
  | const outcome => rfl
  | @nullTest c f operator hc hf hoperator hnullable =>
    cases operator with
    | isNull | isNotNull => rfl
    | _ => cases hoperator
  | @textMatch c f text hc hf hoperator hkind htext =>
    rw [Condition.isComparable]
    cases h : c.operator with
    | contains | startsWith | endsWith => rfl
    | _ =>
      rw [h] at hoperator
      cases hoperator
  | @literal c f operator text v hc hf hoperator htext hliteral =>
    cases operator with
    | equals | notEquals | greaterThan | greaterThanOrEqual | lessThan | lessThanOrEqual => rfl
    | _ => cases hoperator
  | and _ _ hleft hright | or _ _ hleft hright =>
    rw [Condition.isComparable, hleft, hright]
    rfl

/-! ## The condition of a criterion -/

section Criterion

variable (hc : c ∈ cs) (hf : schema.resolve? c.property = some f)

include hc hf

/-- A test for null stems from its criterion. -/
theorem isFormed_nullCheck (wanted : Bool) : (nullCheck f wanted).IsFormed schema cs := by
  unfold nullCheck
  split
  · next hnullable =>
    cases wanted with
    | true => exact .nullTest hc hf rfl hnullable
    | false => exact .nullTest hc hf rfl hnullable
  · exact .const _

/-- Equality with one of several literals stems from the criterion that they are read from. -/
theorem isFormed_anyOf {first : Value} {others : List Value}
    (h : ∀ v ∈ first :: others, ∃ text ∈ c.literalTexts, f.literal text = .ok v) :
    (anyOf f first others).IsFormed schema cs := by
  have hequal (v : Value) (hv : ∃ text ∈ c.literalTexts, f.literal text = .ok v) :
      (compare f .equals v).IsFormed schema cs := by
    obtain ⟨text, htext, hliteral⟩ := hv
    exact .literal hc hf rfl htext hliteral
  obtain ⟨hfirst, hothers⟩ := List.forall_mem_cons.1 h
  unfold anyOf
  generalize hfound : compare f .equals first = found
  have hformed : found.IsFormed schema cs := hfound ▸ hequal first hfirst
  clear hfound h hfirst
  induction others generalizing found with
  | nil => exact hformed
  | cons v others ih =>
    obtain ⟨hv, hothers⟩ := List.forall_mem_cons.1 hothers
    exact ih hothers _ (.or hformed (hequal v hv))

/-- Equality with one of the texts of a criterion stems from it. -/
theorem isFormed_ofItems (hoperator : c.operator = .oneOf) (h : ofItems f c = .ok condition) :
    condition.IsFormed schema cs := by
  rw [ofItems] at h
  split at h
  · next item items hoperand =>
    have htexts : c.literalTexts = item :: items := by
      rw [Criterion.literalTexts, hoperand]
      exact if_pos hoperator
    obtain ⟨first, hfirst, h⟩ := exists_of_bind_ok h
    obtain ⟨others, hothers, h⟩ := exists_of_bind_ok h
    cases h
    refine isFormed_anyOf hc hf (List.forall_mem_cons.2 ⟨?_, fun v hv => ?_⟩)
    · exact ⟨item, by simp [htexts], Field.coerce_eq_ok_iff.1 hfirst⟩
    · obtain ⟨text, htext, hliteral⟩ := (mem_of_mapM_ok hothers).2 v hv
      exact ⟨text, by simp [htexts, htext], Field.coerce_eq_ok_iff.1 hliteral⟩
  · cases h

/-- A comparison with the text of a criterion stems from it. -/
theorem isFormed_ofText (hoperator : c.operator.isRelational = true)
    (h : ofText f c = .ok condition) : condition.IsFormed schema cs := by
  rw [ofText] at h
  split at h
  · split at h
    · cases h
      exact isFormed_nullCheck hc hf true
    · cases h
      exact isFormed_nullCheck hc hf false
    · cases h
  · obtain ⟨text, htext, h⟩ := exists_of_bind_ok h
    obtain ⟨v, hv, h⟩ := exists_of_bind_ok h
    cases h
    rw [singleText_eq_ok_iff] at htext
    refine .literal hc hf hoperator ?_ (Field.coerce_eq_ok_iff.1 hv)
    rw [Criterion.literalTexts, htext]
    simp [hoperator]

/-- The condition of a criterion on its field stems from it. -/
theorem isFormed_ofField (h : ofField f c = .ok condition) : condition.IsFormed schema cs := by
  rw [ofField] at h
  cases hoperator : c.operator with
  | isNull =>
    rw [hoperator] at h
    cases h
    exact isFormed_nullCheck hc hf true
  | isNotNull =>
    rw [hoperator] at h
    cases h
    exact isFormed_nullCheck hc hf false
  | contains | startsWith | endsWith =>
    rw [hoperator] at h
    simp only at h
    split at h
    · next hkind =>
      obtain ⟨text, htext, h⟩ := exists_of_bind_ok h
      cases h
      rw [← hoperator]
      exact .textMatch hc hf (by rw [hoperator]; rfl) hkind (singleText_eq_ok_iff.1 htext)
    · cases h
  | oneOf =>
    rw [hoperator] at h
    exact isFormed_ofItems hc hf hoperator h
  | equals | notEquals | greaterThan | greaterThanOrEqual | lessThan | lessThanOrEqual =>
    rw [hoperator] at h
    exact isFormed_ofText hc hf (by rw [hoperator]; rfl) h

end Criterion

/-! ## The condition of a list of criteria -/

/-- The condition of a criterion stems from it. -/
theorem isFormed_ofCriterion (hc : c ∈ cs) (h : ofCriterion schema c = .ok condition) :
    condition.IsFormed schema cs := by
  obtain ⟨f, hf, h⟩ := exists_of_bind_ok h
  exact isFormed_ofField hc (require_eq_ok_iff.1 hf) h

/-- The condition of a list of criteria stems from them. -/
theorem isFormed_ofCriteria (h : ofCriteria schema cs = .ok condition) :
    condition.IsFormed schema cs := by
  cases cs with
  | nil =>
    cases h
    exact .const true
  | cons c rest =>
    obtain ⟨first, hfirst, h⟩ := exists_of_bind_ok h
    refine foldlM_ok (p := IsFormed schema (c :: rest)) (fun d hd before joined hbefore hjoined => ?_)
      (isFormed_ofCriterion (by simp) hfirst) h
    obtain ⟨last, hlast, hjoined⟩ := exists_of_bind_ok hjoined
    have hmem : d ∈ c :: rest := List.mem_cons_of_mem c hd
    have hlast := isFormed_ofCriterion hmem hlast
    cases hjoined
    unfold join
    split
    · exact .or hbefore hlast
    · exact .and hbefore hlast

end Condition

/-! ## Selections -/

namespace Selection

/-- The selection of criteria has their condition. -/
theorem condition_of_ofCriteria {s : Selection} (h : ofCriteria schema cs = .ok s) :
    Condition.ofCriteria schema cs = .ok s.condition := by
  obtain ⟨condition, hcondition, h⟩ := exists_of_bind_ok h
  rw [of?] at h
  split at h
  · cases h
    exact hcondition
  · cases h

/-- Criteria with a condition have a selection, and they fail to have one as their condition
fails. -/
theorem ofCriteria_eq_error_iff {e : Failure} :
    ofCriteria schema cs = .error e ↔ Condition.ofCriteria schema cs = .error e := by
  rw [ofCriteria, bind_eq_error_iff]
  constructor
  · rintro (h | ⟨condition, hcondition, h⟩)
    · exact h
    · rw [of?, dif_pos (Condition.isFormed_ofCriteria hcondition).isComparable] at h
      cases h
  · exact .inl

end Selection

end RecordQuery
