import RecordQuery.Proofs.Condition.Reach
import RecordQuery.Proofs.Source.Agreement
import RecordQuery.Proofs.Value.Order

/-!
# Asking a record about a property

A record is asked how the value of a property stands to the literal of a text (`Schema.answer`). For
a field of a type with an order, what the record holds and what the text stands for are brought to
values of one kind, so the answer is that of a comparison of two values in order
(`Schema.answer_eq_isMet`); where the record holds no value, only inequality is affirmed
(`Schema.answer_null`).
-/

namespace RecordQuery

open Time

variable {α : Type} [Readable α] {schema : Schema} {property text : String} {f : Field}
  {operator : Operator} {kind : OrderKind} {v w : Value} {r : α}

/-- Whether the value of a property of a record compares to the literal of a text by the
operator. -/
def Schema.answer (schema : Schema) (property : String) (operator : Operator) (text : String)
    (r : α) : Except Failure Bool := do
  let selection ← Selection.ofCriteria schema [⟨property, operator, .text text, .none⟩]
  (selection.selects r).mapError .faulty

/-! ## Values of the type of a field -/

/-- A value of the kind, a date-time with an offset or without one. -/
def OrderKind.Takes (v : Value) : OrderKind → Prop
  | dateTime _ => ∃ aware, v.orderKind? = some (.dateTime aware)
  | kind => v.orderKind? = some kind

/-- A value of the type of the field, which has an order: a text or a textual member, an identifier,
a number, a date or a date-time with an instant in the calendar. NaN is none. -/
structure Field.IsOwn (f : Field) (v : Value) : Prop where
  takes : ∃ kind, f.orderKind? = some kind ∧ kind.Takes v
  isInCalendar : v.IsInCalendar
  isNaN : v.isNaN = false

namespace Field

/-- Only fields of date-times have values of that kind. -/
theorem kind_of_orderKind? {aware : Bool} (h : f.orderKind? = some (.dateTime aware)) :
    f.kind = .dateTime ∧ f.type? ≠ some .date ∧ aware = true := by
  rw [orderKind?] at h
  split at h
  · cases h
  · split at h <;> cases h
  · cases h
  · next hkind =>
    split at h
    · cases h
    · next htype =>
      cases h
      exact ⟨hkind, htype, rfl⟩
  · cases h
  · split at h <;> cases h

/-- The shortest decimal of a number is one. -/
theorem isNaN_toDecimal {x : Number.Binary64} (h : (Value.float x).isNaN = false) :
    (Value.decimal x.toDecimal).isNaN = false := by
  cases x with
  | nan => cases h
  | infinity | finite => rfl

/-- A date-time in the calendar is moved to offset zero. -/
theorem exists_universal {t : DateTime} (h : InCalendar t.instant) :
    ∃ w, Literal.universal t = .ok w ∧ w.IsProper (.dateTime true) := by
  obtain ⟨u, hu⟩ := Option.isSome_iff_exists.1 (DateTime.isSome_toUtc?_iff.2 h)
  refine ⟨.dateTime u, by rw [Literal.universal, hu], ?_, rfl⟩
  rw [Value.orderKind?, (DateTime.instant_toUtc? hu).1]
  rfl

/-- A value of the type of a field is brought to a value of the kind of the field. -/
theorem IsOwn.exists_normalize (h : f.IsOwn v) (hkind : f.orderKind? = some kind) :
    ∃ w, f.normalize v = .ok w ∧ w.IsProper kind := by
  obtain ⟨kind', hkind', htakes⟩ := h.takes
  cases hkind.symm.trans hkind'
  cases kind with
  | dateTime aware =>
    obtain ⟨hfield, htype, rfl⟩ := kind_of_orderKind? hkind
    obtain ⟨aware, hv⟩ := htakes
    obtain ⟨t, rfl, -⟩ := Value.orderKind?_eq_dateTime_iff.1 hv
    obtain ⟨w, hw, hproper⟩ := exists_universal h.isInCalendar
    refine ⟨w, ?_, hproper⟩
    simp only [normalize, hfield, if_neg htype, hw]
  | number | text | guid | date =>
    have hv : v.IsProper _ := ⟨htakes, h.isNaN⟩
    unfold normalize
    split
    · cases htakes
    · split
      · exact ⟨_, rfl, htakes, isNaN_toDecimal h.isNaN⟩
      · exact ⟨_, rfl, hv⟩
    · exact ⟨_, rfl, hv⟩

/-- The value of the type of a field that a record holds is read as one of the kind of the field. -/
theorem IsOwn.exists_readNormal (hread : f.read r = .ok v) (h : f.IsOwn v)
    (hkind : f.orderKind? = some kind) : ∃ w, f.readNormal r = .ok w ∧ w.IsProper kind := by
  rw [readNormal, hread]
  exact h.exists_normalize hkind

/-- A date-time that was moved to offset zero is not moved again. -/
theorem universal_of_universal {t u : DateTime} (h : Literal.universal t = .ok (.dateTime u)) :
    Literal.universal u = .ok (.dateTime u) := by
  obtain ⟨date, time, offset?⟩ := u
  cases universal_hasKind h with
  | dateTime _ hoffset =>
    obtain rfl : offset? = some .utc := hoffset
    rw [Literal.universal, DateTime.toUtc?_of_ahead_eq_zero rfl]

/-- A literal has the shape that values of records are brought to. -/
theorem normalize_literal (h : f.literal text = .ok v) : f.normalize v = .ok v := by
  unfold normalize
  split
  · next u hkind =>
    split
    · rfl
    · next htype =>
      rw [literal, hkind] at h
      obtain ⟨t, -, h⟩ := exists_of_bind_ok h
      rw [if_neg htype] at h
      cases ht : Literal.universal t with
      | error e =>
        rw [ht] at h
        cases h
      | ok w =>
        rw [ht] at h
        cases h
        exact universal_of_universal ht
  · next x hkind =>
    split
    · next htype =>
      rw [literal, hkind, Option.isNone_iff_eq_none.1 htype] at h
      obtain ⟨_, h⟩ := exists_of_number? h
      rcases Option.or_eq_some_iff.1 (eq_of_orMalformed h) with h | ⟨-, h⟩
      · obtain ⟨n, -, h⟩ := Option.map_eq_some_iff.1 h
        cases h
      · obtain ⟨d, -, h⟩ := Option.map_eq_some_iff.1 h
        cases h
    · rfl
  · rfl

/-- A literal that a record holds is read as it is. -/
theorem readNormal_literal (hread : f.read r = .ok v) (h : f.literal text = .ok v) :
    f.readNormal r = .ok v := by
  rw [readNormal, hread]
  exact normalize_literal h

end Field

/-! ## Answers -/

/-- Operators of two elements in a linear order ask for their order. -/
theorem Operator.isMet_cmp {β : Type} [LinearOrder β] (a b : β) :
    lessThan.isMet (cmp a b) = decide (a < b) ∧ equals.isMet (cmp a b) = decide (a = b) ∧
      greaterThan.isMet (cmp a b) = decide (b < a) ∧
      greaterThanOrEqual.isMet (cmp a b) = decide (b ≤ a) := by
  have hlt : (cmp a b == .lt) = decide (a < b) := by
    rw [Bool.eq_iff_iff, beq_iff_eq, decide_eq_true_eq, cmp_eq_lt_iff]
  have heq : (cmp a b == .eq) = decide (a = b) := by
    rw [Bool.eq_iff_iff, beq_iff_eq, decide_eq_true_eq, cmp_eq_eq_iff]
  have hgt : (cmp a b == .gt) = decide (b < a) := by
    rw [Bool.eq_iff_iff, beq_iff_eq, decide_eq_true_eq, cmp_eq_gt_iff]
  have hge : (cmp a b != .lt) = decide (b ≤ a) := by
    rw [bne, hlt, ← decide_not, decide_eq_decide, not_lt]
  exact ⟨hlt, heq, hgt, hge⟩

/-- A comparison with a text is compiled to one with its literal. -/
theorem Condition.ofField_text {connective : Connective} (hliteral : f.literal text = .ok w)
    (hoperator : operator.isRelational = true) :
    ofField f ⟨property, operator, .text text, connective⟩ = .ok (.compare f operator w) := by
  have hcoerce : f.coerce text (some ⟨property, operator, .text text, connective⟩) = .ok w :=
    Field.coerce_eq_ok_iff.2 hliteral
  have htext : ofText f ⟨property, operator, .text text, connective⟩ =
      .ok (.compare f operator w) := by
    have hpresent : Operand.text text ≠ .absent := Operand.noConfusion
    rw [ofText, if_neg hpresent, singleText]
    show (f.coerce text _ >>= fun v => .ok (Condition.compare f operator v)) = _
    rw [hcoerce]
    rfl
  cases operator with
  | equals | notEquals | greaterThan | greaterThanOrEqual | lessThan | lessThanOrEqual =>
    exact htext
  | _ => cases hoperator

/-- What a record is asked is compiled to one comparison. -/
theorem Schema.answer_eq_holds (hresolve : schema.resolve? property = some f)
    (hliteral : f.literal text = .ok w) (hoperator : operator.isRelational = true) :
    schema.answer property operator text r =
      (Comparison.holds f operator w r).mapError .faulty := by
  have hcomparable : (Condition.compare f operator w).isComparable = true := by
    cases operator with
    | equals | notEquals | greaterThan | greaterThanOrEqual | lessThan | lessThanOrEqual => rfl
    | _ => cases hoperator
  have hselection : Selection.ofCriteria schema [⟨property, operator, .text text, .none⟩] =
      .ok ⟨schema.name, .compare f operator w, hcomparable⟩ := by
    have hcondition : Condition.ofCriteria schema [⟨property, operator, .text text, .none⟩] =
        .ok (.compare f operator w) := by
      rw [Condition.ofCriteria, Condition.ofCriterion, Condition.require_eq_ok_iff.2 hresolve]
      show (Condition.ofField f _ >>= _) = _
      rw [Condition.ofField_text hliteral hoperator]
      rfl
    rw [Selection.ofCriteria, hcondition]
    show (Selection.of? schema _).mapError _ = _
    rw [Selection.of?, dif_pos hcomparable]
    rfl
  rw [answer, hselection]
  rfl

section Relational

variable (hresolve : schema.resolve? property = some f) (hliteral : f.literal text = .ok w)
  (hoperator : operator.isRelational = true)

include hresolve hliteral hoperator

/-- The answer about a value in order to the literal. -/
theorem Schema.answer_eq_isMet {o : Ordering} (hread : f.readNormal r = .ok v)
    (hv : v.isNull = false) (hrelate : v.relate w = .ordered o) :
    schema.answer property operator text r = .ok (operator.isMet o) := by
  rw [answer_eq_holds hresolve hliteral hoperator,
    Comparison.holds_eq_isMet hoperator hread hv hrelate]
  rfl

/-- The answer about a value of the kind of the field is that of the keys of the value and the
literal. -/
theorem Schema.answer_eq_cmp {β : Type} [LinearOrder β] {key : Value → β}
    (hkey : Value.IsKey kind key) (hkind : f.orderKind? = some kind) (hw : w.isNaN = false)
    (hread : f.readNormal r = .ok v) (hv : v.IsProper kind) :
    schema.answer property operator text r = .ok (operator.isMet (cmp (key v) (key w))) :=
  answer_eq_isMet hresolve hliteral hoperator hread hv.isNull
    (hkey v w hv ⟨Field.orderKind?_literal hkind hliteral, hw⟩)

/-- Without a value, only inequality is affirmed. -/
theorem Schema.answer_null (hread : f.read r = .ok .null) :
    schema.answer property operator text r = .ok (decide (operator = .notEquals)) := by
  have hnormal : f.readNormal r = .ok .null := by
    rw [Field.readNormal, hread]
    exact Field.normalize_null f
  have hrelate : Value.null.relate w = .unlike false := by
    have hvalue := Field.literal_isNull hliteral
    cases w with
    | null => cases hvalue
    | _ => rfl
  rw [answer_eq_holds hresolve hliteral hoperator, Comparison.holds_null hoperator hnormal hrelate]
  rfl

end Relational

end RecordQuery
