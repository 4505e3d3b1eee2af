import RecordQuery.Proofs.Condition.Meaning
import RecordQuery.Proofs.Value.OrderKind

/-!
# Conditions with an outcome

The decision of a condition reaches the right side of a connective only where the left side leaves
the matter open (`Condition.Reaches`), and it has an outcome exactly if every comparison that it
reaches has one (`Condition.exists_holds_iff`). Whatever a filter is compiled to, on a record with a
value for every field a comparison has no outcome only where it asks for the order of values that
have none, or sets a NaN against a decimal (`Selection.exists_selects_iff`).
-/

namespace RecordQuery

open Time

section Reach

variable {α : Type} [Readable α]

/-- The decision of the condition on the record reaches the comparison. -/
inductive Condition.Reaches (r : α) (f : Field) (operator : Operator) (literal : Value) :
    Condition → Prop where
  /-- The condition is the comparison. -/
  | compare : Reaches r f operator literal (compare f operator literal)
  /-- The left side of a connective is decided first. -/
  | andLeft {left right : Condition} (h : Reaches r f operator literal left) :
    Reaches r f operator literal (and left right)
  /-- The right side is decided if the left side holds. -/
  | andRight {left right : Condition} (hleft : left.holds r = .ok true)
    (h : Reaches r f operator literal right) : Reaches r f operator literal (and left right)
  /-- The left side of a connective is decided first. -/
  | orLeft {left right : Condition} (h : Reaches r f operator literal left) :
    Reaches r f operator literal (or left right)
  /-- The right side is decided if the left side does not hold. -/
  | orRight {left right : Condition} (hleft : left.holds r = .ok false)
    (h : Reaches r f operator literal right) : Reaches r f operator literal (or left right)

variable {r : α} {f : Field} {operator : Operator} {literal v : Value} {left right : Condition}

namespace Condition

theorem exists_holds_and_iff : (∃ b, (and left right).holds r = .ok b) ↔
    (∃ b, left.holds r = .ok b) ∧ (left.holds r = .ok true → ∃ b, right.holds r = .ok b) := by
  rw [Condition.holds]
  cases left.holds r with
  | error e => simp [bind, Except.bind]
  | ok b => cases b <;> simp [bind, Except.bind, pure, Except.pure]

theorem exists_holds_or_iff : (∃ b, (or left right).holds r = .ok b) ↔
    (∃ b, left.holds r = .ok b) ∧ (left.holds r = .ok false → ∃ b, right.holds r = .ok b) := by
  rw [Condition.holds]
  cases left.holds r with
  | error e => simp [bind, Except.bind]
  | ok b => cases b <;> simp [bind, Except.bind, pure, Except.pure]

/-- A condition has an outcome if and only if every comparison that is reached has one. -/
theorem exists_holds_iff {condition : Condition} : (∃ b, condition.holds r = .ok b) ↔
    ∀ f operator literal, condition.Reaches r f operator literal →
      ∃ b, Comparison.holds f operator literal r = .ok b := by
  induction condition with
  | const outcome =>
    refine iff_of_true ⟨outcome, rfl⟩ ?_
    intro f operator literal h
    cases h
  | compare g operator' literal' =>
    constructor
    · intro h f operator literal hreach
      cases hreach
      exact h
    · intro h
      exact h g operator' literal' .compare
  | and left right ihl ihr =>
    rw [exists_holds_and_iff, ihl, ihr]
    constructor
    · rintro ⟨hleft, hright⟩ f operator literal hreach
      cases hreach with
      | andLeft h => exact hleft f operator literal h
      | andRight hholds h => exact hright hholds f operator literal h
    · intro h
      exact ⟨fun f operator literal hreach => h f operator literal (.andLeft hreach),
        fun hholds f operator literal hreach => h f operator literal (.andRight hholds hreach)⟩
  | or left right ihl ihr =>
    rw [exists_holds_or_iff, ihl, ihr]
    constructor
    · rintro ⟨hleft, hright⟩ f operator literal hreach
      cases hreach with
      | orLeft h => exact hleft f operator literal h
      | orRight hholds h => exact hright hholds f operator literal h
    · intro h
      exact ⟨fun f operator literal hreach => h f operator literal (.orLeft hreach),
        fun hholds f operator literal hreach => h f operator literal (.orRight hholds hreach)⟩

end Condition

/-! ## One comparison -/

/-- The value and the literal can be compared by the operator. No value is in no order, and the
question is answered in the negative. -/
def Operator.Compares (operator : Operator) (v literal : Value) : Prop :=
  (operator.isOrder = true → v.isNull = false → v.Orderable literal) ∧
    (operator = .equals ∨ operator = .notEquals → v.Equatable literal)

/-- The instants of the value are in the calendar. -/
def Value.IsInCalendar : Value → Prop
  | .dateTime t => InCalendar t.instant
  | _ => True

instance (v : Value) : Decidable v.IsInCalendar := by
  unfold Value.IsInCalendar
  split <;> infer_instance

/-- A value whose instants are in the calendar can be brought to the shape of literals. -/
theorem Field.exists_normalize (h : v.IsInCalendar) : ∃ w, f.normalize v = .ok w := by
  unfold normalize
  split
  · next t =>
    split
    · exact ⟨_, rfl⟩
    · obtain ⟨u, hu⟩ := Option.isSome_iff_exists.1 (DateTime.isSome_toUtc?_iff.2 h)
      rw [Literal.universal, hu]
      exact ⟨_, rfl⟩
  · exact ⟨_, rfl⟩
  · exact ⟨_, rfl⟩

/-- An operator that compares no values with an order or for equality asks for nothing. -/
theorem Operator.compares_of_isRelational_eq_false (h : operator.isRelational = false) :
    operator.Compares v literal := by
  cases operator with
  | equals | notEquals | greaterThan | greaterThanOrEqual | lessThan | lessThanOrEqual => cases h
  | _ => simp [Compares, isOrder]

namespace Comparison

/-- The negation of a result is there if the result is. -/
theorem exists_not_iff {x : Except Fault Bool} :
    (∃ b, (x >>= fun b => .ok !b) = .ok b) ↔ ∃ b, x = .ok b := by
  cases x with
  | error g => simp [bind, Except.bind]
  | ok b => simp [bind, Except.bind]

/-- Relational operators compare a value that was read as their names say. -/
theorem exists_holds_iff (hoperator : operator.isRelational = true) (hv : f.readNormal r = .ok v) :
    (∃ b, holds f operator literal r = .ok b) ↔ operator.Compares v literal := by
  cases operator with
  | equals =>
    have hholds : holds f .equals literal r = (v.relate literal).equal := by
      rw [holds, hv]
      rfl
    rw [hholds, Value.exists_equal_iff]
    simp [Operator.Compares, Operator.isOrder]
  | notEquals =>
    have hholds : holds f .notEquals literal r =
        (v.relate literal).equal >>= fun b => .ok !b := by
      rw [holds, hv]
      rfl
    rw [hholds, exists_not_iff, Value.exists_equal_iff]
    simp [Operator.Compares, Operator.isOrder]
  | greaterThan | greaterThanOrEqual | lessThan | lessThanOrEqual =>
    rw [holds, hv]
    show (∃ b, orderHolds _ v literal = .ok b) ↔ _
    rw [orderHolds]
    cases hnull : v.isNull with
    | true => simp [Operator.Compares, hnull]
    | false =>
      rw [if_neg (by simp), Value.exists_satisfies_iff]
      simp [Operator.Compares, Operator.isOrder, hnull]
  | _ => cases hoperator

/-- A text can be looked for in every value. -/
theorem exists_textHolds {text : String} : ∃ b, textHolds operator v (.text text) = .ok b := by
  rw [textHolds]
  split
  · exact ⟨false, rfl⟩
  · exact ⟨_, rfl⟩

end Comparison

/-! ## What criteria are compiled to -/

section Formed

variable {schema : Schema} {cs : List Criterion} {condition : Condition}

/-- A comparison that the decision of a condition reaches stems from the criteria of the
condition. -/
theorem Condition.IsFormed.of_reaches (hformed : condition.IsFormed schema cs)
    (h : condition.Reaches r f operator literal) :
    (compare f operator literal).IsFormed schema cs := by
  induction h with
  | compare => exact hformed
  | andLeft _ ih =>
    cases hformed with
    | and hleft hright => exact ih hleft
  | andRight _ _ ih =>
    cases hformed with
    | and hleft hright => exact ih hright
  | orLeft _ ih =>
    cases hformed with
    | or hleft hright => exact ih hleft
  | orRight _ _ ih =>
    cases hformed with
    | or hleft hright => exact ih hright

/-- A comparison that stems from criteria is of a field of the schema. -/
theorem Condition.IsFormed.mem_fields
    (h : (compare f operator literal).IsFormed schema cs) : f ∈ schema.fields := by
  cases h with
  | nullTest _ hf | textMatch _ hf | literal _ hf => exact List.mem_of_find?_eq_some hf

/-- A relational operator compares with a literal that was read for the field. -/
theorem Condition.IsFormed.exists_literal (h : (compare f operator literal).IsFormed schema cs)
    (hoperator : operator.isRelational = true) : ∃ text, f.literal text = .ok literal := by
  cases h with
  | nullTest _ _ hnull =>
    cases operator with
    | isNull | isNotNull => cases hoperator
    | _ => cases hnull
  | @textMatch c _ text _ _ hmatch =>
    cases htext : c.operator with
    | contains | startsWith | endsWith =>
      rw [htext] at hoperator
      cases hoperator
    | _ =>
      rw [htext] at hmatch
      cases hmatch
  | literal _ _ _ _ hliteral => exact ⟨_, hliteral⟩

/-- A comparison that stems from criteria has an outcome on a value if its operator compares the
value with the literal. -/
theorem Condition.IsFormed.exists_holds_iff
    (h : (compare f operator literal).IsFormed schema cs) (hv : f.readNormal r = .ok v) :
    (∃ b, Comparison.holds f operator literal r = .ok b) ↔ operator.Compares v literal := by
  obtain ⟨w, hw, -⟩ := exists_of_bind_ok hv
  cases h with
  | nullTest _ _ hoperator =>
    cases operator with
    | isNull | isNotNull =>
      refine iff_of_true ?_ (Operator.compares_of_isRelational_eq_false rfl)
      rw [Comparison.holds, hw]
      exact ⟨_, rfl⟩
    | _ => cases hoperator
  | @textMatch c _ text _ _ hoperator =>
    cases htext : c.operator with
    | contains | startsWith | endsWith =>
      refine iff_of_true ?_ (Operator.compares_of_isRelational_eq_false rfl)
      rw [Comparison.holds, hw]
      exact Comparison.exists_textHolds
    | _ =>
      rw [htext] at hoperator
      cases hoperator
  | literal _ _ hoperator => exact Comparison.exists_holds_iff hoperator hv

end Formed

end Reach

namespace Selection

variable {α : Type} [Readable α] {schema : Schema} {text? : Option String} {s : Selection} {r : α}

/-- On a record with a value for every field of the schema, whose instants are in the calendar, a
filter that compiles has an outcome if and only if every comparison that is reached is of a value
and a literal that its operator can compare. -/
theorem exists_selects_iff (h : ofText? schema text? = .ok s)
    (hr : ∀ f ∈ schema.fields, ∃ v, f.read r = .ok v ∧ v.IsInCalendar) :
    (∃ b, s.selects r = .ok b) ↔
      ∀ f operator literal, s.condition.Reaches r f operator literal →
        ∀ v, f.readNormal r = .ok v → operator.Compares v literal := by
  have hformed := Condition.isFormed_ofCriteria (condition_of_ofCriteria h)
  rw [selects, Condition.exists_holds_iff]
  refine forall_congr' fun f => forall_congr' fun operator => forall_congr' fun literal =>
    forall_congr' fun hreach => ?_
  have hcompare := hformed.of_reaches hreach
  obtain ⟨v, hread, hcalendar⟩ := hr f hcompare.mem_fields
  obtain ⟨w, hnormal⟩ := Field.exists_normalize (f := f) hcalendar
  have hw : f.readNormal r = .ok w := bind_eq_ok_iff.2 ⟨v, hread, hnormal⟩
  rw [hcompare.exists_holds_iff hw, hw]
  simp

/-- A choice type of which the members stand for nothing but themselves. -/
def levels : Choice := ⟨"Level", false, [("LOW", .whole 1), ("MID", .whole 2)]⟩

/-- A field that holds a level. -/
def levelField : Field :=
  ⟨"level", .choice, some (.choice levels), false, .attribute, false⟩

/-- A field that holds a price. -/
def priceField : Field := ⟨"price", .numeric, some .decimal, true, .attribute, false⟩

/-- A schema with a level and a price. -/
def pricedLevels : Schema where
  name := "Task"
  fields := [levelField, priceField]
  distinct := by
    unfold DistinctKeys
    decide

/-- A record of that schema. -/
def midLevel : Record :=
  ⟨[("level", .member ⟨"Level", "MID", .whole 2, false⟩),
    ("price", .decimal (.finite false 150 (-2)))]⟩

/-- Where the level is not the one that is asked for, the price is not set against NaN. -/
theorem exists_selects_midLevel :
    let selection : Selection := ⟨"Task",
      .and (.compare levelField .equals (.member ⟨"Level", "LOW", .whole 1, false⟩))
        (.compare priceField .greaterThan (.decimal (.nan false false 0))), rfl⟩
    ofText? pricedLevels "level eq 'low' and price gt 'NaN'" = .ok selection ∧
      (∀ f ∈ pricedLevels.fields, ∃ v, f.read midLevel = .ok v ∧ v.IsInCalendar) ∧
      ((∃ b, selection.selects midLevel = .ok b) ↔
        ∀ f operator literal, selection.condition.Reaches midLevel f operator literal →
          ∀ v, f.readNormal midLevel = .ok v → operator.Compares v literal) := by
  intro selection
  have hselection : ofText? pricedLevels "level eq 'low' and price gt 'NaN'" = .ok selection := rfl
  have hread : ∀ f ∈ pricedLevels.fields, ∃ v, f.read midLevel = .ok v ∧ v.IsInCalendar := by
    intro f hf
    simp only [pricedLevels, List.mem_cons, List.not_mem_nil, or_false] at hf
    rcases hf with rfl | rfl
    · exact ⟨_, rfl, trivial⟩
    · exact ⟨_, rfl, trivial⟩
  exact ⟨hselection, hread, exists_selects_iff hselection hread⟩

/-- The order of levels is not refused, and on a record with a level it has no outcome. -/
theorem not_exists_selects_midLevel :
    ∃ s, ofText? pricedLevels "level gt 'low'" = .ok s ∧
      (∃ m ∈ levels.members, levelField.read midLevel = .ok (.member m)) ∧
      (∃ d, priceField.read midLevel = .ok (.decimal d)) ∧ ¬ ∃ b, s.selects midLevel = .ok b := by
  let s : Selection := ⟨"Task",
    .compare levelField .greaterThan (.member ⟨"Level", "LOW", .whole 1, false⟩), rfl⟩
  have hs : ofText? pricedLevels "level gt 'low'" = .ok s := rfl
  have hfault : s.selects midLevel = .error .incomparable := rfl
  refine ⟨s, hs, ⟨⟨"Level", "MID", .whole 2, false⟩, by decide, rfl⟩, ⟨_, rfl⟩, ?_⟩
  rintro ⟨b, hb⟩
  cases hfault.symm.trans hb

end Selection

end RecordQuery
