import RecordQuery.Document.Basic
import RecordQuery.Proofs.Condition.Chain

/-!
# Why criteria are refused

`Criterion.FailsWith` lists the ways in which a criterion has no condition, each with its failure:
its property is unknown, its operator does not fit the field, its operand does not fit the operator,
or one of its texts is no literal. The first of them that applies is the failure
(`Condition.ofCriterion_eq_error_iff`), so an unknown property goes before an unfit operator, and
that before a bad literal. Criteria in a row fail as the first of them does that fails alone
(`Selection.fails_as_first_alone`).
-/

namespace RecordQuery

variable {schema : Schema} {f : Field} {c : Criterion} {cs : List Criterion} {e : Failure}
  {text : String}

/-- How the criterion fails on its field. -/
inductive Criterion.FailsOn (f : Field) (c : Criterion) : Failure → Prop where
  /-- The operator looks into texts, and the field holds none. -/
  | notText (hoperator : c.operator.isTextMatch = true) (hkind : f.kind ≠ .string) :
    FailsOn f c (.refuse (.notText c.operator f.name f.kind) c)
  /-- The operator looks into texts, and the operand is no single one. -/
  | noWord (hoperator : c.operator.isTextMatch = true) (hkind : f.kind = .string)
    (hoperand : ∀ s, c.operand ≠ .text s) : FailsOn f c (.refuse (.singleValue c.operator f.name) c)
  /-- The operator takes a list, and the operand is none or empty. -/
  | noItems (hoperator : c.operator = .oneOf)
    (hoperand : ∀ items, c.operand = .list items → items = []) :
    FailsOn f c (.refuse (.listOfValues c.operator f.name) c)
  /-- The operator asks for the order to a value, and there is no operand. -/
  | noValue (hoperator : c.operator.isOrder = true) (hoperand : c.operand = .absent) :
    FailsOn f c (.refuse (.missingValue c.operator f.name) c)
  /-- The operator compares with one value, and the operand is a list. -/
  | manyValues {items : List String} (hoperator : c.operator.isRelational = true)
    (hoperand : c.operand = .list items) : FailsOn f c (.refuse (.singleValue c.operator f.name) c)
  /-- The first text that is no literal of the field fails. -/
  | literal {e : Failure} (hfirst : FailsFirst (fun text => f.coerce text c) c.literalTexts e) :
    FailsOn f c e

/-- How the criterion fails: by its property, or on the field that this names. -/
def Criterion.FailsWith (schema : Schema) (c : Criterion) (e : Failure) : Prop :=
  (schema.resolve? c.property = none ∧
    e = .refuse (.unknownProperty c.property schema.name) c) ∨
  ∃ f, schema.resolve? c.property = some f ∧ c.FailsOn f e

/-! ## The ways to fail, by operator -/

namespace Criterion

/-- A criterion without texts to read does not fail by one of them. -/
theorem not_failsFirst_literalTexts (hrelational : c.operator.isRelational = false)
    (hlist : c.operator ≠ .oneOf) :
    ¬ FailsFirst (fun text => f.coerce text c) c.literalTexts e := by
  rw [literalTexts_eq_nil hrelational hlist]
  exact not_failsFirst_nil

theorem failsOn_oneOf_iff (hoperator : c.operator = .oneOf) : c.FailsOn f e ↔
    ((∀ items, c.operand = .list items → items = []) ∧
      e = .refuse (.listOfValues c.operator f.name) c) ∨
    FailsFirst (fun text => f.coerce text c) c.literalTexts e := by
  constructor
  · intro h
    cases h with
    | noItems _ hoperand => exact .inl ⟨hoperand, rfl⟩
    | literal hfirst => exact .inr hfirst
    | notText ho | noWord ho | noValue ho | manyValues ho =>
      rw [hoperator] at ho
      cases ho
  · rintro (⟨hoperand, rfl⟩ | hfirst)
    · exact .noItems hoperator hoperand
    · exact .literal hfirst

theorem failsOn_isTextMatch_iff (hoperator : c.operator.isTextMatch = true) : c.FailsOn f e ↔
    (f.kind ≠ .string ∧ e = .refuse (.notText c.operator f.name f.kind) c) ∨
    (f.kind = .string ∧ (∀ s, c.operand ≠ .text s) ∧
      e = .refuse (.singleValue c.operator f.name) c) := by
  obtain ⟨-, hlist, hrelational, horder⟩ := Operator.of_isTextMatch hoperator
  constructor
  · intro h
    cases h with
    | notText _ hkind => exact .inl ⟨hkind, rfl⟩
    | noWord _ hkind hoperand => exact .inr ⟨hkind, hoperand, rfl⟩
    | noItems ho => exact absurd ho hlist
    | noValue ho => cases horder.symm.trans ho
    | manyValues ho => cases hrelational.symm.trans ho
    | literal hfirst => exact absurd hfirst (not_failsFirst_literalTexts hrelational hlist)
  · rintro (⟨hkind, rfl⟩ | ⟨hkind, hoperand, rfl⟩)
    · exact .notText hoperator hkind
    · exact .noWord hoperator hkind hoperand

theorem failsOn_isRelational_iff (hoperator : c.operator.isRelational = true) : c.FailsOn f e ↔
    (c.operator.isOrder = true ∧ c.operand = .absent ∧
      e = .refuse (.missingValue c.operator f.name) c) ∨
    (∃ items, c.operand = .list items ∧ e = .refuse (.singleValue c.operator f.name) c) ∨
    FailsFirst (fun text => f.coerce text c) c.literalTexts e := by
  obtain ⟨hmatch, -, hlist⟩ := Operator.of_isRelational hoperator
  constructor
  · intro h
    cases h with
    | noValue horder hoperand => exact .inl ⟨horder, hoperand, rfl⟩
    | manyValues _ hoperand => exact .inr (.inl ⟨_, hoperand, rfl⟩)
    | literal hfirst => exact .inr (.inr hfirst)
    | noItems ho => exact absurd ho hlist
    | notText ho | noWord ho => cases hmatch.symm.trans ho
  · rintro (⟨horder, hoperand, rfl⟩ | ⟨items, hoperand, rfl⟩ | hfirst)
    · exact .noValue horder hoperand
    · exact .manyValues hoperator hoperand
    · exact .literal hfirst

theorem not_failsOn_isNullCheck (hoperator : c.operator.isNullCheck = true) : ¬ c.FailsOn f e := by
  obtain ⟨hmatch, hlist, hrelational, horder⟩ := Operator.of_isNullCheck hoperator
  intro h
  cases h with
  | notText ho | noWord ho => cases hmatch.symm.trans ho
  | noItems ho => exact hlist ho
  | noValue ho => cases horder.symm.trans ho
  | manyValues ho => cases hrelational.symm.trans ho
  | literal hfirst => exact not_failsFirst_literalTexts hrelational hlist hfirst

end Criterion

/-! ## One criterion -/

/-- A text that is no literal is refused with the criterion, or faulty. -/
theorem Field.coerce_eq_error_iff {c? : Option Criterion} : f.coerce text c? = .error e ↔
    (∃ expected, f.literal text = .error (.malformed expected) ∧
      e = .refuse (.badLiteral expected text f.name) c?) ∨
    ∃ g, f.literal text = .error (.faulty g) ∧ e = .faulty g := by
  rw [coerce]
  split
  · next h => simp [h]
  · next h => simp [h, eq_comm]
  · next h => simp [h, eq_comm]

namespace Condition

/-- A list of texts fails by its operand, or as the first of them does that fails. -/
theorem ofItems_eq_error_iff (hoperator : c.operator = .oneOf) :
    ofItems f c = .error e ↔ c.FailsOn f e := by
  rw [Criterion.failsOn_oneOf_iff hoperator, ofItems]
  split
  · next item items hoperand =>
    have htexts : c.literalTexts = item :: items := by
      rw [Criterion.literalTexts, hoperand]
      exact if_pos hoperator
    have hnone : ¬ ∀ rest, c.operand = .list rest → rest = [] := fun h => by
      cases h _ hoperand
    rw [htexts, failsFirst_cons, ← mapM_eq_error_iff, bind_eq_error_iff]
    simp only [hnone, false_and, false_or]
    refine or_congr_right ?_
    constructor
    · rintro ⟨first, hfirst, h⟩
      rcases bind_eq_error_iff.1 h with h | ⟨others, -, h⟩
      · exact ⟨⟨first, hfirst⟩, h⟩
      · cases h
    · rintro ⟨⟨first, hfirst⟩, h⟩
      exact ⟨first, hfirst, bind_eq_error_iff.2 (.inl h)⟩
  · next hnone =>
    have hempty : ∀ items, c.operand = .list items → items = [] := by
      intro items hoperand
      cases items with
      | nil => rfl
      | cons item items => exact absurd hoperand (hnone item items)
    have htexts : c.literalTexts = [] := by
      rw [Criterion.literalTexts]
      split
      · rw [hoperator]
        rfl
      · next items hoperand => rw [hempty items hoperand, ite_self]
      · rfl
    rw [htexts, Except.error.injEq, eq_comm]
    simp only [not_failsFirst_nil, or_false]
    exact ⟨fun h => ⟨hempty, h⟩, fun h => h.2⟩

/-- A comparison with one value fails by its operand or as its text does. -/
theorem ofText_eq_error_iff (hoperator : c.operator.isRelational = true) :
    ofText f c = .error e ↔ c.FailsOn f e := by
  rw [Criterion.failsOn_isRelational_iff hoperator, ofText, singleText, Criterion.literalTexts]
  cases hoperand : c.operand with
  | text s =>
    have hcoerce : (do
        let text ← (.ok s : Except Failure String)
        return compare f c.operator (← f.coerce text c)) = .error e ↔
        f.coerce s c = .error e := by
      show (f.coerce s c >>= fun v => .ok (compare f c.operator v)) = .error e ↔ _
      simp [bind_eq_error_iff]
    simp only [reduceCtorEq, if_false, hoperator, if_true, failsFirst_cons, not_failsFirst_nil]
    rw [hcoerce]
    simp
  | absent =>
    simp only [if_true, reduceCtorEq, not_failsFirst_nil]
    cases ho : c.operator with
    | greaterThan | greaterThanOrEqual | lessThan | lessThanOrEqual =>
      simp [Operator.isOrder, eq_comm]
    | equals | notEquals => simp [Operator.isOrder]
    | _ =>
      rw [ho] at hoperator
      cases hoperator
  | list items =>
    have hlist : c.operator ≠ .oneOf := (Operator.of_isRelational hoperator).2.2
    simp only [reduceCtorEq, if_false, hlist, not_failsFirst_nil]
    show Except.error (Failure.refuse (.singleValue c.operator f.name) c) = .error e ↔ _
    rw [Except.error.injEq, eq_comm]
    simp only [false_and, and_false, false_or, or_false]
    constructor
    · intro h
      exact ⟨items, rfl, h⟩
    · rintro ⟨_, -, h⟩
      exact h

/-- A criterion on a field fails in one of the ways listed. -/
theorem ofField_eq_error_iff : ofField f c = .error e ↔ c.FailsOn f e := by
  have hwords (hoperator : c.operator.isTextMatch = true) : (if f.kind = .string then do
        return compare f c.operator (.text (← singleText f c))
      else .error (.refuse (.notText c.operator f.name f.kind) c)) = .error e ↔ c.FailsOn f e := by
    rw [Criterion.failsOn_isTextMatch_iff hoperator, singleText]
    by_cases hkind : f.kind = .string
    · rw [if_pos hkind]
      cases hoperand : c.operand with
      | text s => simp [hkind, pure, Except.pure, bind, Except.bind]
      | list items | absent => simp [hkind, bind, Except.bind, eq_comm]
    · rw [if_neg hkind]
      simp [hkind, eq_comm]
  unfold ofField
  cases hoperator : c.operator with
  | isNull | isNotNull =>
    refine iff_of_false (by simp) (Criterion.not_failsOn_isNullCheck ?_)
    rw [hoperator]
    rfl
  | contains | startsWith | endsWith =>
    rw [hoperator] at hwords
    exact hwords rfl
  | oneOf => exact ofItems_eq_error_iff hoperator
  | equals | notEquals | greaterThan | greaterThanOrEqual | lessThan | lessThanOrEqual =>
    exact ofText_eq_error_iff (by rw [hoperator]; rfl)

/-- A criterion fails in one of the ways listed. -/
theorem ofCriterion_eq_error_iff : ofCriterion schema c = .error e ↔ c.FailsWith schema e := by
  rw [ofCriterion, bind_eq_error_iff, Criterion.FailsWith]
  simp only [require_eq_ok_iff, ofField_eq_error_iff]
  refine or_congr_left ?_
  rw [Schema.require]
  split
  · next f hf => simp [hf]
  · next hnone => simp [hnone, eq_comm]

/-! ## A list of criteria -/

/-- A list of criteria fails as the first criterion does that has no condition. -/
theorem ofCriteria_eq_error_iff {cs : List Criterion} :
    ofCriteria schema cs = .error e ↔ FailsFirst (ofCriterion schema) cs e := by
  cases cs with
  | nil => exact iff_of_false (by simp [ofCriteria]) not_failsFirst_nil
  | cons c cs =>
    rw [ofCriteria, bind_eq_error_iff, failsFirst_cons]
    simp only [foldlM_eq_error_iff fun before (c : Criterion) last => join c.connective before last]
    exact or_congr_right exists_and_right

end Condition

/-- What refuses a text as a literal is of the class of formats and names the criterion. -/
theorem Field.refused_of_coerce {c? : Option Criterion} {r : Refusal}
    (h : f.coerce text c? = .error (.refused r)) :
    r.criterion? = c? ∧ r.cause.refusalClass = .format := by
  rcases coerce_eq_error_iff.1 h with ⟨expected, -, hr⟩ | ⟨g, -, hr⟩
  · cases hr
    exact ⟨rfl, rfl⟩
  · cases hr

/-- A refusal names the criterion that is refused. Its class is that of schemas if the property is
unknown, and that of type mismatches if the field is known and does not fit the operator. -/
theorem Criterion.FailsWith.refused {r : Refusal} (h : c.FailsWith schema (.refused r)) :
    r.criterion? = some c ∧
      (r.cause.refusalClass = .schema ↔ schema.resolve? c.property = none) ∧
      (r.cause.refusalClass = .typeMismatch ↔ ∃ f, schema.resolve? c.property = some f ∧
        c.operator.isTextMatch = true ∧ f.kind ≠ .string) := by
  rcases h with ⟨hnone, hr⟩ | ⟨f, hf, hfails⟩
  · cases hr
    simp [hnone, RefusalCause.refusalClass]
  · have hformat (hr : r.criterion? = some c ∧ r.cause.refusalClass = .format)
        (hfits : c.operator.isTextMatch = true → f.kind = .string) :
        r.criterion? = some c ∧
          (r.cause.refusalClass = .schema ↔ schema.resolve? c.property = none) ∧
          (r.cause.refusalClass = .typeMismatch ↔ ∃ f, schema.resolve? c.property = some f ∧
            c.operator.isTextMatch = true ∧ f.kind ≠ .string) := by
      simpa [hr, hf] using hfits
    cases hfails with
    | notText hoperator hkind => simp [hf, hoperator, hkind, RefusalCause.refusalClass]
    | noWord hoperator hkind hoperand => exact hformat ⟨rfl, rfl⟩ fun _ => hkind
    | noItems hoperator hoperand =>
      refine hformat ⟨rfl, rfl⟩ fun hmatch => ?_
      rw [hoperator] at hmatch
      cases hmatch
    | noValue hoperator hoperand =>
      refine hformat ⟨rfl, rfl⟩ fun hmatch => ?_
      cases (Operator.of_isTextMatch hmatch).2.2.2.symm.trans hoperator
    | manyValues hoperator hoperand =>
      refine hformat ⟨rfl, rfl⟩ fun hmatch => ?_
      cases (Operator.of_isTextMatch hmatch).2.2.1.symm.trans hoperator
    | literal hfirst =>
      obtain ⟨before, text, after, htexts, -, htext⟩ := hfirst
      refine hformat (Field.refused_of_coerce htext) fun hmatch => ?_
      obtain ⟨-, hlist, hrelational, -⟩ := Operator.of_isTextMatch hmatch
      rw [literalTexts_eq_nil hrelational hlist] at htexts
      simp at htexts

namespace Selection

/-- A criterion alone fails as its condition does. -/
theorem ofCriteria_singleton_eq_error_iff :
    ofCriteria schema [c] = .error e ↔ Condition.ofCriterion schema c = .error e := by
  rw [ofCriteria_eq_error_iff, Condition.ofCriteria_singleton]

/-- Criteria in a row fail if and only if one of them fails alone. They fail as the first of them
does that fails, whatever joins them and whatever follows it; a list of values fails as the first of
its values does that is no literal. A refusal names the criterion that fails alone; an unknown
property is refused before an operator that does not fit, and that before a value. -/
theorem fails_as_first_alone (schema : Schema) (cs : List Criterion) :
    ((∃ e, ofCriteria schema cs = .error e) ↔ ∃ c ∈ cs, ∃ e, ofCriteria schema [c] = .error e) ∧
    (∀ e, ofCriteria schema cs = .error e ↔ FailsFirst (fun c => ofCriteria schema [c]) cs e) ∧
    ∀ c e,
      (ofCriteria schema [c] = .error e ↔ c.FailsWith schema e) ∧
      (∀ f items, schema.resolve? c.property = some f → c.operator = .oneOf →
        c.operand = .list items → items ≠ [] →
        (ofCriteria schema [c] = .error e ↔ FailsFirst (fun item => f.coerce item c) items e)) ∧
      ∀ r, e = .refused r → ofCriteria schema [c] = .error e → r.criterion? = some c ∧
        (r.cause.refusalClass = .schema ↔ schema.resolve? c.property = none) ∧
        (r.cause.refusalClass = .typeMismatch ↔ ∃ f, schema.resolve? c.property = some f ∧
          c.operator.isTextMatch = true ∧ f.kind ≠ .string) := by
  have halone (c : Criterion) (e : Failure) :
      ofCriteria schema [c] = .error e ↔ c.FailsWith schema e :=
    ofCriteria_singleton_eq_error_iff.trans Condition.ofCriterion_eq_error_iff
  have hrow (e : Failure) : ofCriteria schema cs = .error e ↔
      FailsFirst (fun c => ofCriteria schema [c]) cs e := by
    rw [ofCriteria_eq_error_iff, Condition.ofCriteria_eq_error_iff]
    exact failsFirst_congr fun c e => ofCriteria_singleton_eq_error_iff.symm
  refine ⟨?_, hrow, fun c e => ⟨halone c e, fun f items hf hoperator hoperand hne => ?_, ?_⟩⟩
  · simp only [hrow]
    exact exists_failsFirst_iff
  · have htexts : c.literalTexts = items := by
      rw [Criterion.literalTexts, hoperand]
      exact if_pos hoperator
    have hitems : ¬ ∀ rest, c.operand = .list rest → rest = [] := fun h => hne (h _ hoperand)
    rw [halone, Criterion.FailsWith, hf]
    simp [Criterion.failsOn_oneOf_iff hoperator, hitems, htexts]
  · rintro r rfl h
    exact ((halone c _).1 h).refused

/-- Of the three sizes the second is no number. That refuses the filter, although a criterion before
it may hold alone and one behind it names no property. -/
theorem fails_as_first_alone_size :
    let sizes : Criterion := ⟨"size", .oneOf, .list ["1", "x", "y"], .or⟩
    let cs : List Criterion :=
      [⟨"filename", .contains, .text "a", .none⟩, sizes, ⟨"weight", .contains, .text "2", .and⟩]
    let size := Document.column "size" (some .int) false
    Document.schema.resolve? sizes.property = some size ∧ sizes.operator = .oneOf ∧
      sizes.operand = .list ["1", "x", "y"] ∧ ["1", "x", "y"] ≠ [] ∧
      ofCriteria Document.schema cs =
        .error (.refused ⟨.badLiteral "number" "x" "size", some sizes⟩) := by
  intro sizes cs size
  have hsize : Document.schema.resolve? sizes.property = some size := by decide +kernel
  have hne : ["1", "x", "y"] ≠ [] := by decide
  obtain ⟨-, hrow, halone⟩ := fails_as_first_alone Document.schema cs
  have hitem : FailsFirst (fun item => size.coerce item sizes) ["1", "x", "y"]
      (.refused ⟨.badLiteral "number" "x" "size", some sizes⟩) :=
    ⟨["1"], "x", ["y"], rfl, List.forall_mem_singleton.2 ⟨.int 1, rfl⟩, rfl⟩
  have hsizes := ((halone sizes _).2.1 size _ hsize rfl rfl hne).2 hitem
  have hname : ∃ s, ofCriteria Document.schema [⟨"filename", .contains, .text "a", .none⟩] = .ok s :=
    ⟨_, rfl⟩
  exact ⟨hsize, rfl, rfl, hne,
    (hrow _).2 ⟨[_], sizes, [_], rfl, List.forall_mem_singleton.2 hname, hsizes⟩⟩

end Selection

end RecordQuery
