import RecordQuery.Fault
import RecordQuery.Value.Basic

/-!
# Comparing values

`Value.relate` says how two values stand to each other. Numbers of all kinds compare by what they
stand for, exactly; texts and textual members by their code points; date-times by their instants,
if both or neither of them have an offset. Values of different kinds are unequal and have no order.
A floating-point NaN is unequal to everything and in no order with anything; a decimal NaN may only
be tested for equality, and a signaling one not even that.
-/

namespace RecordQuery

open Number

/-- How two values stand to each other. -/
inductive Relation where
  /-- The values are in order. -/
  | ordered (o : Ordering)
  /-- The values differ, and every question of their order is answered in the negative. -/
  | unordered
  /-- The values can only be tested for equality. -/
  | unlike (equal : Bool)
  /-- The values differ, and the question of their order is invalid. -/
  | quiet
  /-- Every comparison of the values is invalid. -/
  | signaling
  deriving DecidableEq

namespace Value

/-- The number that a value stands for, if it is a number. -/
def extended? : Value → Option Extended
  | bool b => some (.finite ⟨if b then 1 else 0, 0⟩)
  | int n => some (.finite ⟨n, 0⟩)
  | float x => x.value?
  | decimal d => d.value?
  | fraction q => some (.finite ⟨q, 0⟩)
  | _ => none

/-- The kinds of numbers, as far as a comparison tells them apart. -/
inductive NumberKind where
  /-- An integer, a truth value, a fraction, or a floating-point number. -/
  | plain
  /-- A decimal number. -/
  | decimal
  /-- A decimal that signals. -/
  | signaling
  deriving DecidableEq

/-- The kind of a number. -/
def numberKind? : Value → Option NumberKind
  | bool _ | int _ | float _ | fraction _ => some .plain
  | decimal (.nan _ true _) => some .signaling
  | decimal _ => some .decimal
  | _ => none

/-- How two numbers stand to each other. -/
def relateNumbers (v w : Value) (kind other : NumberKind) : Relation :=
  match v.extended?, w.extended? with
  | some x, some y => .ordered (x.compare y)
  | _, _ =>
    if kind = .signaling ∨ other = .signaling then .signaling
    else if kind = .decimal ∨ other = .decimal then .quiet
    else .unordered

/-- How two values that are no numbers stand to each other. -/
def relateOthers : Value → Value → Relation
  | guid g, guid h => .ordered (compare g.value h.value)
  | date d, date e => .ordered (compare d.ordinal e.ordinal)
  | dateTime t, dateTime u =>
    if t.offset?.isSome = u.offset?.isSome then .ordered (compare t.instant u.instant)
    else .unlike false
  | v, w =>
    match v.text?, w.text? with
    | some s, some t => .ordered (compare s t)
    | _, _ => .unlike (v = w)

/-- How two values stand to each other. -/
def relate (v w : Value) : Relation :=
  match v.numberKind?, w.numberKind? with
  | some kind, some other => relateNumbers v w kind other
  | _, _ => relateOthers v w

end Value

namespace Relation

/-- The values are equal. -/
def equal : Relation → Except Fault Bool
  | ordered o => .ok (o == .eq)
  | unordered => .ok false
  | unlike b => .ok b
  | quiet => .ok false
  | signaling => .error .invalidOperation

/-- The order of the values has the property. -/
def satisfies (p : Ordering → Bool) : Relation → Except Fault Bool
  | ordered o => .ok (p o)
  | unordered => .ok false
  | unlike _ => .error .incomparable
  | quiet => .error .invalidOperation
  | signaling => .error .invalidOperation

end Relation

end RecordQuery
