import RecordQuery.Condition.Basic
import RecordQuery.Text.Like

/-!
# Stored values

A table stores integers and texts. Identifiers are stored as 32 hexadecimal digits, members by their
name, and date-times by what the wall clock shows, with six digits behind the point and without an
offset. Comparisons with a cell that holds nothing have no outcome: `Condition.outcome` decides a
condition with three values.
-/

namespace RecordQuery

open Text Time

/-- A stored value. -/
inductive Cell where
  /-- Nothing is stored. -/
  | null
  /-- An integer. -/
  | int (n : Int)
  /-- A text. -/
  | text (s : List Char)
  deriving DecidableEq

/-- The wall clock with six digits behind the point. -/
def Time.DateTime.stored (t : DateTime) : List Char :=
  t.date.text ++ ' ' :: paddedText 2 t.time.hour ++ ':' :: paddedText 2 t.time.minute ++
    ':' :: paddedText 2 t.time.second ++ '.' :: paddedText 6 t.time.micro

/-- A value as it is stored. -/
def Value.stored : Value → Cell
  | null => .null
  | bool b => .int (if b then 1 else 0)
  | int n => .int n
  | guid g => .text g.hex
  | dateTime t => .text t.stored
  | member m => .text m.name.toList
  | v => .text v.plain

namespace Cell

/-- The order of two stored values: nothing comes first, then integers, then texts. -/
def compare : Cell → Cell → Ordering
  | null, null => .eq
  | null, _ => .lt
  | _, null => .gt
  | int m, int n => Ord.compare m n
  | int _, text _ => .lt
  | text _, int _ => .gt
  | text s, text t => Ord.compare (String.ofList s) (String.ofList t)

/-- The outcome of a test of a cell, if it holds something. -/
def ifSome (c : Cell) (outcome : Bool) : Option Bool := if c = null then none else some outcome

end Cell

/-- Both outcomes are positive. One negative outcome decides alone. -/
def bothOutcomes : Option Bool → Option Bool → Option Bool
  | some false, _ => some false
  | _, some false => some false
  | some true, some true => some true
  | _, _ => none

/-- One of the outcomes is positive. One positive outcome decides alone. -/
def eitherOutcome : Option Bool → Option Bool → Option Bool
  | some true, _ => some true
  | _, some true => some true
  | some false, some false => some false
  | _, _ => none

/-- The pattern of an operator that looks into texts. -/
def Operator.pattern (operator : Operator) (word : List Char) : List Char :=
  match operator with
  | contains => '%' :: Like.literal word ++ ['%']
  | startsWith => Like.literal word ++ ['%']
  | endsWith => '%' :: Like.literal word
  | _ => Like.literal word

namespace Cell

/-- The text of a cell matches the pattern of an operator. The text of an integer is its digits. -/
def matchesText (operator : Operator) : Cell → Cell → Bool
  | text s, text word => Like.isMatch (operator.pattern word) s
  | int n, text word => Like.isMatch (operator.pattern word) (integerText n)
  | _, _ => false

/-- The outcome of a comparison of a stored value with a stored literal. A field that may be without
a value differs from every literal where it is. -/
def outcome (nullable : Bool) (operator : Operator) (c literal : Cell) : Option Bool :=
  match operator with
  | .isNull => some (c = null)
  | .isNotNull => some (c ≠ null)
  | .equals => if literal = null then some (c = null) else c.ifSome (c = literal)
  | .notEquals =>
    let differs := if literal = null then some (decide (c ≠ null)) else c.ifSome (c ≠ literal)
    if nullable then eitherOutcome differs (some (c = null)) else differs
  | .contains | .startsWith | .endsWith => c.ifSome (c.matchesText operator literal)
  | operator =>
    if literal = null then none else c.ifSome (operator.accepts (c.compare literal))

end Cell

/-- The stored value of a field of a row. -/
def Field.cell {α : Type} [Readable α] (f : Field) (row : α) : Cell :=
  ((Readable.value? row f.name).map Value.stored).getD .null

/-- The outcome of a condition on a stored row. -/
def Condition.outcome {α : Type} [Readable α] (row : α) : Condition → Option Bool
  | const outcome => some outcome
  | compare f operator literal => (f.cell row).outcome f.nullable operator literal.stored
  | and left right => bothOutcomes (left.outcome row) (right.outcome row)
  | or left right => eitherOutcome (left.outcome row) (right.outcome row)

end RecordQuery
