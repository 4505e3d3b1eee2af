import RecordQuery.Condition.Compile
import RecordQuery.Sorting.Basic
import RecordQuery.Source.Cell
import RecordQuery.Text.Part

/-!
# Tables

A table source selects stored rows. A condition becomes a clause as soon as rows are selected by it,
which fails where a field is no column or a column does not take the literal. Constants are folded
away before a condition is run, and the integers that remain, like the bounds of a slice, have to
fit into 64 bits. A further sort only orders rows that the sorts before it leave equal.

A table does not say in which order it gives rows that no key tells apart, be it that it is not
sorted or that they tie by all of its keys: `TableSource.Gives` holds of every order that it may
give. That `TableSource.all` has such rows as they were stored is a choice made here.
-/

namespace RecordQuery

open Number

/-- Why a column is not compared by the operator with the literal. One of several values is never
asked for, texts are looked into for texts only, and truth values and nothing have no order. -/
def Operator.clauseFailure? (operator : Operator) (literal : Value) : Option Failure :=
  match operator with
  | oneOf => some (.refuse (.noClause operator) none)
  | contains | startsWith | endsWith =>
    if literal.text?.isSome then none else some (.faulty .incomparable)
  | greaterThan | greaterThanOrEqual | lessThan | lessThanOrEqual =>
    match literal with
    | .null | .bool _ => some (.faulty .unfitArgument)
    | _ => none
  | equals | notEquals | isNull | isNotNull => none

namespace Condition

/-- Both conditions, without constants. -/
def both : Condition → Condition → Condition
  | const false, _ => const false
  | _, const false => const false
  | const true, right => right
  | left, const true => left
  | left, right => and left right

/-- One of the conditions, without constants. -/
def either : Condition → Condition → Condition
  | const true, _ => const true
  | _, const true => const true
  | const false, right => right
  | left, const false => left
  | left, right => or left right

/-- The condition without constants, unless it is one. -/
def folded : Condition → Condition
  | const outcome => const outcome
  | compare f operator literal => compare f operator literal
  | and left right => both left.folded right.folded
  | or left right => either left.folded right.folded

/-- Why the condition is no clause, by the first comparison from the left that is none. -/
def clauseFailure? : Condition → Option Failure
  | const _ => none
  | compare f operator literal =>
    if f.stored then operator.clauseFailure? literal else some (.refuse (.noColumn f.name) none)
  | and left right | or left right => left.clauseFailure?.or right.clauseFailure?

/-- The literals of a condition. -/
def literals : Condition → List Value
  | const _ => []
  | compare _ _ literal => [literal]
  | and left right | or left right => left.literals ++ right.literals

end Condition

/-- The integer fits into 64 bits. -/
def fitsWord (n : Int) : Bool := decide (-(twoPow 63 : Int) ≤ n) && decide (n < twoPow 63)

/-- The value is no integer, or one that fits into 64 bits. -/
def Value.fitsWord : Value → Bool
  | int n => RecordQuery.fitsWord n
  | _ => true

/-- A selection of the rows of a table. -/
structure TableSource (α : Type) where
  /-- The schema of the rows. -/
  schema : Schema
  /-- The rows of the table, in the order in which they were stored. -/
  rows : List α
  /-- What the selected rows satisfy. -/
  condition : Condition
  /-- What the selected rows are sorted by, the leading key first. -/
  keys : List SortKey

namespace TableSource

variable {α : Type} [Readable α]

/-- All rows of a table. -/
def ofRows (schema : Schema) (rows : List α) : TableSource α := ⟨schema, rows, .const true, []⟩

/-- The rows that a further selection selects. -/
def select (t : TableSource α) (s : Selection) : Except Failure (TableSource α) :=
  match s.condition.clauseFailure? with
  | none => .ok { t with condition := .and t.condition s.condition }
  | some e => .error e

/-- The rows with a further sort key. -/
def sortedBy (t : TableSource α) (k : SortKey) : Except Failure (TableSource α) :=
  if k.field.stored then .ok { t with keys := t.keys ++ [k] }
  else .error (.refuse (.noColumn k.field.name) none)

/-- The order of two rows by a list of keys. -/
def compareBy (keys : List SortKey) (r s : α) : Ordering :=
  match keys with
  | [] => .eq
  | k :: keys =>
    let o := (k.field.cell r).compare (k.field.cell s)
    (if k.descending then o.swap else o).then (compareBy keys r s)

/-- The condition that is run: no literal may exceed 64 bits. -/
def runnable (t : TableSource α) : Except Fault Condition :=
  let c := t.condition.folded
  if c.literals.all Value.fitsWord then .ok c else .error .outOfRange

/-- The selected rows. A row of which the condition has no outcome is not selected. -/
def selected (t : TableSource α) : Except Fault (List α) := do
  let c ← t.runnable
  return t.rows.filter fun row => c.outcome row = some true

/-- The table may give its selected rows in this order. Rows that tie by all keys stand in any
order, and so do all rows where there is no key. -/
def Gives (t : TableSource α) (found : List α) : Prop :=
  ∃ rows, t.selected = .ok rows ∧ found.Perm rows ∧
    found.Pairwise fun r s => compareBy t.keys r s ≠ .gt

/-- The selected rows in order. Of the orders that the table may give, this is the one that has rows
that tie by all keys as they were stored. -/
def all (t : TableSource α) : Except Fault (List α) := do
  let rows ← t.selected
  return rows.mergeSort fun r s => compareBy t.keys r s != .gt

/-- The number of selected rows. -/
def count (t : TableSource α) : Except Fault Nat := do return (← t.selected).length

/-- A slice of the selected rows. A negative limit is none, and a negative offset counts as zero. -/
def fetch (t : TableSource α) (offset limit : Int) : Except Fault (List α) := do
  let rows ← t.all
  if fitsWord offset && fitsWord limit then
    let rows := rows.drop offset.toNat
    return if limit < 0 then rows else rows.take limit.toNat
  else throw .outOfRange

end TableSource

/-! ## Connections

A database in a file is opened so that all threads may use the connection.
-/

/-- The scheme of addresses of databases in a file. -/
def fileScheme : String := "sqlite"

/-- The options with which a database at an address is opened. -/
def connectionOptions (address : String) : List (String × Bool) :=
  if Text.startsWith address.toList fileScheme.toList then [("check_same_thread", false)] else []

end RecordQuery
