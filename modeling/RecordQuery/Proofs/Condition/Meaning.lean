import RecordQuery.Proofs.Condition.Typed

/-!
# What a criterion says

`Criterion.Meaning` says rule by rule when a criterion holds of a field of a record, without its
condition, and the condition of a criterion holds if and only if one of the rules applies
(`Condition.holds_ofCriterion_iff`), provided that no comparison of it fails on the record. Of a
field without a value no criterion with a literal holds but inequality
(`Criterion.meaning_null_iff`).
-/

namespace RecordQuery

/-- The operator asks for the order of two values. -/
def Operator.isOrder : Operator → Bool
  | greaterThan | greaterThanOrEqual | lessThan | lessThanOrEqual => true
  | _ => false

/-- A test for null is none of the others. -/
theorem Operator.of_isNullCheck {operator : Operator} (h : operator.isNullCheck = true) :
    operator.isTextMatch = false ∧ operator ≠ .oneOf ∧ operator.isRelational = false ∧
      operator.isOrder = false := by
  cases operator with
  | isNull | isNotNull => exact ⟨rfl, nofun, rfl, rfl⟩
  | _ => cases h

/-- A look into texts is none of the others. -/
theorem Operator.of_isTextMatch {operator : Operator} (h : operator.isTextMatch = true) :
    operator.isNullCheck = false ∧ operator ≠ .oneOf ∧ operator.isRelational = false ∧
      operator.isOrder = false := by
  cases operator with
  | contains | startsWith | endsWith => exact ⟨rfl, nofun, rfl, rfl⟩
  | _ => cases h

/-- A comparison of two values is none of the others. -/
theorem Operator.of_isRelational {operator : Operator} (h : operator.isRelational = true) :
    operator.isTextMatch = false ∧ operator.isNullCheck = false ∧ operator ≠ .oneOf := by
  cases operator with
  | equals | notEquals | greaterThan | greaterThanOrEqual | lessThan | lessThanOrEqual =>
    exact ⟨rfl, rfl, nofun⟩
  | _ => cases h

/-! ## The rules -/

section Rules

variable {α : Type} [Readable α]

/-- When a criterion with an operator and an operand holds of a field of a record. A field that is
never null is not read for a test for null. -/
inductive Criterion.Meaning (f : Field) (r : α) : Operator → Operand → Prop where
  | isNull {operand : Operand} (hnullable : f.nullable = true) (hread : f.read r = .ok .null) :
    Meaning f r .isNull operand
  | equalsAbsent (hnullable : f.nullable = true) (hread : f.read r = .ok .null) :
    Meaning f r .equals .absent
  | isNotNull {operand : Operand}
    (hvalue : f.nullable = true → ∃ v, f.read r = .ok v ∧ v.isNull = false) :
    Meaning f r .isNotNull operand
  | notEqualsAbsent (hvalue : f.nullable = true → ∃ v, f.read r = .ok v ∧ v.isNull = false) :
    Meaning f r .notEquals .absent
  | equals {s : String} {v w : Value} (hread : f.readNormal r = .ok v)
    (hliteral : f.literal s = .ok w) (hequal : (v.relate w).equal = .ok true) :
    Meaning f r .equals (.text s)
  | notEquals {s : String} {v w : Value} (hread : f.readNormal r = .ok v)
    (hliteral : f.literal s = .ok w) (hequal : (v.relate w).equal = .ok false) :
    Meaning f r .notEquals (.text s)
  | order {operator : Operator} {s : String} {v w : Value} (hoperator : operator.isOrder = true)
    (hread : f.readNormal r = .ok v) (hv : v.isNull = false) (hliteral : f.literal s = .ok w)
    (horder : (v.relate w).satisfies operator.accepts = .ok true) :
    Meaning f r operator (.text s)
  | textMatch {operator : Operator} {s : String} {v : Value}
    (hoperator : operator.isTextMatch = true) (hread : f.read r = .ok v) (hv : v.isNull = false)
    (hmatch : operator.matchesText v.plain s.toList = true) : Meaning f r operator (.text s)
  | oneOf {items : List String} {s : String} {v w : Value} (hread : f.readNormal r = .ok v)
    (hitem : s ∈ items) (hliteral : f.literal s = .ok w)
    (hequal : (v.relate w).equal = .ok true) : Meaning f r .oneOf (.list items)

/-- The criterion holds of the record. -/
def Criterion.HoldsOf (schema : Schema) (r : α) (c : Criterion) : Prop :=
  ∃ f, schema.resolve? c.property = some f ∧ Meaning f r c.operator c.operand

/-- No comparison of the condition fails on the record. -/
def Condition.IsSafe (r : α) : Condition → Prop
  | const _ => True
  | compare f operator literal => ∃ b, Comparison.holds f operator literal r = .ok b
  | and left right | or left right => left.IsSafe r ∧ right.IsSafe r

end Rules

variable {α : Type} [Readable α] {schema : Schema} {f : Field} {r : α} {operator : Operator}
  {operand : Operand} {c : Criterion} {s : String} {v w : Value}

/-! ## One comparison -/

namespace Comparison

theorem holds_equals_iff : holds f .equals w r = .ok true ↔
    ∃ v, f.readNormal r = .ok v ∧ (v.relate w).equal = .ok true :=
  bind_eq_ok_iff

theorem holds_notEquals_iff : holds f .notEquals w r = .ok true ↔
    ∃ v, f.readNormal r = .ok v ∧ (v.relate w).equal = .ok false := by
  rw [holds, bind_eq_ok_iff]
  refine exists_congr fun v => and_congr_right fun _ => ?_
  rw [bind_eq_ok_iff]
  constructor
  · rintro ⟨b, hb, hnot⟩
    cases b with
    | false => exact hb
    | true => cases hnot
  · exact fun h => ⟨false, h, rfl⟩

theorem holds_order_iff (hoperator : operator.isOrder = true) :
    holds f operator w r = .ok true ↔
      ∃ v, f.readNormal r = .ok v ∧ v.isNull = false ∧
        (v.relate w).satisfies operator.accepts = .ok true := by
  have hholds : holds f operator w r = f.readNormal r >>= fun v => orderHolds operator v w := by
    cases operator with
    | greaterThan | greaterThanOrEqual | lessThan | lessThanOrEqual => rfl
    | _ => cases hoperator
  rw [hholds, bind_eq_ok_iff]
  refine exists_congr fun v => and_congr_right fun _ => ?_
  rw [orderHolds]
  cases v.isNull <;> simp

theorem holds_textMatch_iff (hoperator : operator.isTextMatch = true) :
    holds f operator (.text s) r = .ok true ↔
      ∃ v, f.read r = .ok v ∧ v.isNull = false ∧
        operator.matchesText v.plain s.toList = true := by
  have hholds : holds f operator (.text s) r =
      f.read r >>= fun v => textHolds operator v (.text s) := by
    cases operator with
    | contains | startsWith | endsWith => rfl
    | _ => cases hoperator
  rw [hholds, bind_eq_ok_iff]
  refine exists_congr fun v => and_congr_right fun _ => ?_
  rw [textHolds]
  cases v.isNull <;> simp [Value.text?]

end Comparison

/-! ## Conditions without a fault -/

namespace Condition

variable {condition left right : Condition}

theorem holds_and_iff : (and left right).holds r = .ok true ↔
    left.holds r = .ok true ∧ right.holds r = .ok true := by
  rw [holds, bind_eq_ok_iff]
  constructor
  · rintro ⟨b, hleft, hright⟩
    cases b with
    | true => exact ⟨hleft, hright⟩
    | false => cases hright
  · rintro ⟨hleft, hright⟩
    exact ⟨true, hleft, hright⟩

/-- A condition without a failing comparison has an outcome. -/
theorem IsSafe.holds (h : condition.IsSafe r) : ∃ b, condition.holds r = .ok b := by
  induction condition with
  | const b => exact ⟨b, rfl⟩
  | compare f operator literal => exact h
  | and left right ihl ihr =>
    obtain ⟨b, hb⟩ := ihl h.1
    cases b with
    | true =>
      obtain ⟨b, hright⟩ := ihr h.2
      exact ⟨b, bind_eq_ok_iff.2 ⟨true, hb, hright⟩⟩
    | false => exact ⟨false, bind_eq_ok_iff.2 ⟨false, hb, rfl⟩⟩
  | or left right ihl ihr =>
    obtain ⟨b, hb⟩ := ihl h.1
    cases b with
    | true => exact ⟨true, bind_eq_ok_iff.2 ⟨true, hb, rfl⟩⟩
    | false =>
      obtain ⟨b, hright⟩ := ihr h.2
      exact ⟨b, bind_eq_ok_iff.2 ⟨false, hb, hright⟩⟩

/-- Where the left side has an outcome, one of the sides has to hold. -/
theorem holds_or_iff (hleft : left.IsSafe r) : (or left right).holds r = .ok true ↔
    left.holds r = .ok true ∨ right.holds r = .ok true := by
  obtain ⟨b, hb⟩ := hleft.holds
  rw [Condition.holds, bind_eq_ok_iff]
  cases b with
  | true => exact iff_of_true ⟨true, hb, rfl⟩ (.inl hb)
  | false =>
    constructor
    · rintro ⟨b, hb', hright⟩
      rw [hb] at hb'
      cases hb'
      exact .inr hright
    · rintro (h | h)
      · rw [hb] at h
        cases h
      · exact ⟨false, hb, h⟩

/-- Equality with one more value and another: what is found so far holds, or one of the equalities
that are left. -/
theorem holds_foldl_or_iff {found : Condition} {others : List Value}
    (hsafe : (others.foldl (fun found w => or found (compare f .equals w)) found).IsSafe r) :
    found.IsSafe r ∧
      ((others.foldl (fun found w => or found (compare f .equals w)) found).holds r = .ok true ↔
        found.holds r = .ok true ∨ ∃ w ∈ others, (compare f .equals w).holds r = .ok true) := by
  induction others generalizing found with
  | nil => exact ⟨hsafe, by simp⟩
  | cons w others ih =>
    obtain ⟨hor, hiff⟩ := ih hsafe
    refine ⟨hor.1, ?_⟩
    rw [List.foldl_cons, hiff, holds_or_iff hor.1]
    simp [or_assoc]

/-- Equality with one of several values holds if the field has one of them. -/
theorem holds_anyOf_iff {first : Value} {others : List Value}
    (hsafe : (anyOf f first others).IsSafe r) :
    (anyOf f first others).holds r = .ok true ↔
      ∃ w ∈ first :: others, (compare f .equals w).holds r = .ok true := by
  rw [anyOf, (holds_foldl_or_iff hsafe).2]
  simp

end Condition

/-! ## The condition of a criterion -/

namespace Condition

variable {condition : Condition}

theorem holds_nullCheck_true_iff : (nullCheck f true).holds r = .ok true ↔
    f.nullable = true ∧ f.read r = .ok .null := by
  unfold nullCheck
  cases f.nullable with
  | false => simp [holds]
  | true =>
    show (f.read r).map Value.isNull = .ok true ↔ _
    cases f.read r with
    | error e => simp [Except.map]
    | ok v => cases v <;> simp [Except.map, Value.isNull]

theorem holds_nullCheck_false_iff : (nullCheck f false).holds r = .ok true ↔
    (f.nullable = true → ∃ v, f.read r = .ok v ∧ v.isNull = false) := by
  unfold nullCheck
  cases f.nullable with
  | false => simp [holds]
  | true =>
    show (f.read r).map (fun v => !v.isNull) = .ok true ↔ _
    cases f.read r with
    | error e => simp [Except.map]
    | ok v => simp [Except.map]

/-- A list of texts holds if one of them says the value of the field. -/
theorem holds_ofItems_iff (h : ofItems f c = .ok condition) (hsafe : condition.IsSafe r) :
    condition.holds r = .ok true ↔ Criterion.Meaning f r .oneOf c.operand := by
  rw [ofItems] at h
  split at h
  · next item items hoperand =>
    obtain ⟨first, hfirst, h⟩ := exists_of_bind_ok h
    obtain ⟨others, hothers, h⟩ := exists_of_bind_ok h
    cases h
    obtain ⟨hto, hfrom⟩ := mem_of_mapM_ok hothers
    rw [holds_anyOf_iff hsafe, hoperand]
    constructor
    · rintro ⟨w, hw, hholds⟩
      obtain ⟨v, hread, hequal⟩ := Comparison.holds_equals_iff.1 hholds
      rcases List.mem_cons.1 hw with rfl | hw
      · exact .oneOf hread (by simp) (Field.coerce_eq_ok_iff.1 hfirst) hequal
      · obtain ⟨s, hs, hcoerce⟩ := hfrom w hw
        exact .oneOf hread (by simp [hs]) (Field.coerce_eq_ok_iff.1 hcoerce) hequal
    · intro hmeaning
      cases hmeaning with
      | @oneOf items s v w hread hitem hliteral hequal =>
        have hholds : (compare f .equals w).holds r = .ok true :=
          Comparison.holds_equals_iff.2 ⟨v, hread, hequal⟩
        rcases List.mem_cons.1 hitem with rfl | hitem
        · have hw := hfirst.symm.trans (Field.coerce_eq_ok_iff.2 hliteral)
          cases hw
          exact ⟨first, by simp, hholds⟩
        · obtain ⟨w', hw', hcoerce⟩ := hto s hitem
          have hw := hcoerce.symm.trans (Field.coerce_eq_ok_iff.2 hliteral)
          cases hw
          exact ⟨w, by simp [hw'], hholds⟩
  · cases h

/-- A comparison with the literal of a text holds as its operator says. -/
theorem holds_compare_iff (hoperator : operator.isRelational = true)
    (hliteral : f.literal s = .ok w) :
    (compare f operator w).holds r = .ok true ↔ Criterion.Meaning f r operator (.text s) := by
  rw [holds]
  cases operator with
  | equals =>
    rw [Comparison.holds_equals_iff]
    constructor
    · rintro ⟨v, hread, hequal⟩
      exact .equals hread hliteral hequal
    · intro hmeaning
      cases hmeaning with
      | @equals s v w' hread hliteral' hequal =>
        cases hliteral.symm.trans hliteral'
        exact ⟨v, hread, hequal⟩
      | order h => cases h
      | textMatch h => cases h
  | notEquals =>
    rw [Comparison.holds_notEquals_iff]
    constructor
    · rintro ⟨v, hread, hequal⟩
      exact .notEquals hread hliteral hequal
    · intro hmeaning
      cases hmeaning with
      | @notEquals s v w' hread hliteral' hequal =>
        cases hliteral.symm.trans hliteral'
        exact ⟨v, hread, hequal⟩
      | order h => cases h
      | textMatch h => cases h
  | greaterThan | greaterThanOrEqual | lessThan | lessThanOrEqual =>
    rw [Comparison.holds_order_iff rfl]
    constructor
    · rintro ⟨v, hread, hv, horder⟩
      exact .order rfl hread hv hliteral horder
    · intro hmeaning
      cases hmeaning with
      | @order _ s v w' _ hread hv hliteral' horder =>
        cases hliteral.symm.trans hliteral'
        exact ⟨v, hread, hv, horder⟩
      | textMatch h => cases h
  | _ => cases hoperator

/-- A comparison with the text of a criterion holds as its operator says; without a text it is the
test for null. -/
theorem holds_ofText_iff (hoperator : c.operator.isRelational = true)
    (h : ofText f c = .ok condition) :
    condition.holds r = .ok true ↔ Criterion.Meaning f r c.operator c.operand := by
  rw [ofText] at h
  split at h
  · next habsent =>
    rw [habsent]
    split at h
    · next hequals =>
      cases h
      rw [holds_nullCheck_true_iff, hequals]
      constructor
      · rintro ⟨hn, hread⟩
        exact .equalsAbsent hn hread
      · intro hmeaning
        cases hmeaning with
        | equalsAbsent hn hread => exact ⟨hn, hread⟩
    · next hdiffers =>
      cases h
      rw [holds_nullCheck_false_iff, hdiffers]
      refine ⟨.notEqualsAbsent, fun hmeaning => ?_⟩
      cases hmeaning with
      | notEqualsAbsent hvalue => exact hvalue
    · cases h
  · obtain ⟨text, htext, h⟩ := exists_of_bind_ok h
    obtain ⟨w, hw, h⟩ := exists_of_bind_ok h
    cases h
    rw [singleText_eq_ok_iff.1 htext]
    exact holds_compare_iff hoperator (Field.coerce_eq_ok_iff.1 hw)

/-- The condition of a criterion holds of a field of a record if and only if the criterion says so
of it. -/
theorem holds_ofField_iff (h : ofField f c = .ok condition) (hsafe : condition.IsSafe r) :
    condition.holds r = .ok true ↔ Criterion.Meaning f r c.operator c.operand := by
  rw [ofField] at h
  cases hoperator : c.operator with
  | isNull =>
    rw [hoperator] at h
    cases h
    rw [holds_nullCheck_true_iff]
    generalize c.operand = operand
    constructor
    · rintro ⟨hn, hread⟩
      exact .isNull hn hread
    · intro hmeaning
      cases hmeaning with
      | isNull hn hread => exact ⟨hn, hread⟩
      | order h | textMatch h => cases h
  | isNotNull =>
    rw [hoperator] at h
    cases h
    rw [holds_nullCheck_false_iff]
    generalize c.operand = operand
    refine ⟨.isNotNull, fun hmeaning => ?_⟩
    cases hmeaning with
    | isNotNull hvalue => exact hvalue
    | order h | textMatch h => cases h
  | contains | startsWith | endsWith =>
    rw [hoperator] at h
    simp only at h
    split at h
    · obtain ⟨s, hs, h⟩ := exists_of_bind_ok h
      cases h
      rw [holds, Comparison.holds_textMatch_iff rfl, singleText_eq_ok_iff.1 hs]
      constructor
      · rintro ⟨v, hread, hv, hmatch⟩
        exact .textMatch rfl hread hv hmatch
      · intro hmeaning
        cases hmeaning with
        | @textMatch _ s v _ hread hv hmatch => exact ⟨v, hread, hv, hmatch⟩
        | order h => cases h
    · cases h
  | oneOf =>
    rw [hoperator] at h
    exact holds_ofItems_iff h hsafe
  | equals | notEquals | greaterThan | greaterThanOrEqual | lessThan | lessThanOrEqual =>
    rw [hoperator] at h
    rw [← hoperator]
    exact holds_ofText_iff (by rw [hoperator]; rfl) h

/-- The condition of a criterion holds of a record if and only if the criterion does. -/
theorem holds_ofCriterion_iff (h : ofCriterion schema c = .ok condition)
    (hsafe : condition.IsSafe r) : condition.holds r = .ok true ↔ c.HoldsOf schema r := by
  obtain ⟨f, hf, h⟩ := exists_of_bind_ok h
  rw [require_eq_ok_iff] at hf
  rw [holds_ofField_iff h hsafe, Criterion.HoldsOf, hf]
  simp

end Condition

/-! ## Fields without a value -/

theorem Literal.number?_isNull {type? : Option FieldType} {s : List Char}
    (h : number? type? s = .ok w) : w.isNull = false := by
  obtain ⟨_, h⟩ := Field.exists_of_number? h
  unfold numberOf at h
  dsimp only at h
  split at h
  · rcases Option.or_eq_some_iff.1 (Field.eq_of_orMalformed h) with h | ⟨-, h⟩
    · obtain ⟨n, -, rfl⟩ := Option.map_eq_some_iff.1 h
      rfl
    · obtain ⟨d, -, rfl⟩ := Option.map_eq_some_iff.1 h
      rfl
  · obtain ⟨n, -, rfl⟩ := Option.map_eq_some_iff.1 (Field.eq_of_orMalformed h)
    rfl
  · obtain ⟨x, -, rfl⟩ := Option.map_eq_some_iff.1 (Field.eq_of_orMalformed h)
    rfl
  · obtain ⟨d, -, rfl⟩ := Option.map_eq_some_iff.1 (Field.eq_of_orMalformed h)
    rfl
  · split at h
    · cases h
      rfl
    · cases h
    · cases h
  · obtain ⟨m, -, rfl⟩ := Option.map_eq_some_iff.1 (Field.eq_of_orMalformed h)
    rfl
  · cases h
    rfl
  · cases h
    rfl
  · obtain ⟨g, -, rfl⟩ := Option.map_eq_some_iff.1 (Field.eq_of_orMalformed h)
    rfl
  · cases h
  · cases h
  · cases h

/-- No text stands for no value. -/
theorem Field.literal_isNull (h : f.literal s = .ok w) : w.isNull = false := by
  rw [literal] at h
  split at h
  · cases h
    rfl
  · unfold Literal.choice at h
    split at h
    · cases h
      rfl
    · obtain ⟨m, -, rfl⟩ := Option.map_eq_some_iff.1 (eq_of_orMalformed h)
      rfl
    · cases h
  · obtain ⟨g, -, rfl⟩ := Option.map_eq_some_iff.1 (eq_of_orMalformed h)
    rfl
  · obtain ⟨t, -, h⟩ := exists_of_bind_ok h
    split at h
    · cases h
      rfl
    · cases hu : Literal.universal t with
      | error e =>
        rw [hu] at h
        cases h
      | ok u =>
        rw [hu] at h
        cases h
        exact (universal_hasKind hu).isNull
  · rw [Literal.bool] at h
    split at h
    · cases h
      rfl
    · split at h
      · cases h
        rfl
      · cases h
  · exact Literal.number?_isNull h

theorem Value.equal_relate_null (hw : w.isNull = false) :
    (Value.null.relate w).equal = .ok false := by
  cases w with
  | null => cases hw
  | _ => rfl

/-- Of a field without a value, no criterion with a literal holds but inequality. -/
theorem Criterion.meaning_null_iff {condition : Condition}
    (h : Condition.ofField f c = .ok condition) (hread : f.read r = .ok .null)
    (hoperand : c.operand ≠ .absent) (hcheck : c.operator.isNullCheck = false) :
    Meaning f r c.operator c.operand ↔ c.operator = .notEquals := by
  have hnormal : f.readNormal r = .ok .null := by
    rw [Field.readNormal, hread]
    exact Field.normalize_null f
  -- the rules that ask for a value do not apply, nor do those that ask for an equal one
  have hnull {v : Value} (hv : f.readNormal r = .ok v) : v = .null := by
    cases hnormal.symm.trans hv
    rfl
  constructor
  · intro hmeaning
    generalize c.operator = operator at hmeaning hcheck ⊢
    generalize c.operand = operand at hmeaning hoperand
    cases hmeaning with
    | isNull | isNotNull => cases hcheck
    | equalsAbsent | notEqualsAbsent => exact absurd rfl hoperand
    | notEquals => rfl
    | equals hv hliteral hequal | oneOf hv _ hliteral hequal =>
      rw [hnull hv, Value.equal_relate_null (Field.literal_isNull hliteral)] at hequal
      cases hequal
    | order _ hv hvalue =>
      rw [hnull hv] at hvalue
      cases hvalue
    | textMatch _ hv hvalue =>
      cases hread.symm.trans hv
      cases hvalue
  · intro hoperator
    rw [Condition.ofField, hoperator] at h
    rw [Condition.ofText, if_neg hoperand] at h
    obtain ⟨s, hs, h⟩ := exists_of_bind_ok h
    obtain ⟨w, hw, -⟩ := exists_of_bind_ok h
    have hliteral : f.literal s = .ok w := Field.coerce_eq_ok_iff.1 hw
    rw [hoperator, Condition.singleText_eq_ok_iff.1 hs]
    exact .notEquals hnormal hliteral (Value.equal_relate_null (Field.literal_isNull hliteral))

end RecordQuery
