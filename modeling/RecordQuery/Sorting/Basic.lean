import RecordQuery.Condition.Basic
import RecordQuery.Sorting.Stable

/-!
# Sorting records

Records are sorted by one field. No value comes before every value, and records with equal values
keep their order, whether the sort ascends or descends. A sort on a field that the schema does not
have is no sort.
-/

namespace RecordQuery

open Text

/-- A sort as it is asked for: the name of a field and the word for the direction. -/
structure SortRequest where
  /-- The name of the field. -/
  field : String
  /-- The word for the direction. -/
  direction : String
  deriving DecidableEq

/-- The capital of a letter among a to z; the long s has the capital S. -/
def directionLetter (c : Char) : Char := if c.toNat = 0x17F then 'S' else c.toUpper

/-- The direction is descending. -/
def SortRequest.isDescending (s : SortRequest) : Bool :=
  s.direction.toList.map directionLetter = "DESC".toList

/-- What records are sorted by. -/
structure SortKey where
  /-- The field. -/
  field : Field
  /-- The greatest value comes first. -/
  descending : Bool
  deriving DecidableEq

namespace SortKey

/-- The sort key of a request, if it names a field of the schema. -/
def ofRequest? (schema : Schema) (request? : Option SortRequest) : Option SortKey := do
  let request ← request?
  if allBlank request.field.toList then none
  else
    let f ← schema.resolve? request.field
    some ⟨f, request.isDescending⟩

/-- A value comes before another. -/
def precedes (v w : Value) : Except Fault Bool :=
  if v.isNull then .ok !w.isNull
  else if w.isNull then .ok false
  else do
    if ← (v.relate w).equal then return false
    else (v.relate w).satisfies (· == .lt)

/-- The records with the values that they are sorted by. -/
def keyed {α : Type} [Readable α] (k : SortKey) (rows : List α) :
    Except Fault (List (Value × α)) :=
  rows.mapM fun r => do return (← k.field.readNormal r, r)

/-- The records in the order of the key. -/
def apply {α : Type} [Readable α] (k : SortKey) (rows : List α) : Except Fault (List α) := do
  let rows ← k.keyed rows
  let rows := if k.descending then rows.reverse else rows
  let sorted ← Sorting.sortStably (fun a b => precedes a.1 b.1) rows
  let sorted := sorted.map (·.2)
  return if k.descending then sorted.reverse else sorted

end SortKey

end RecordQuery
