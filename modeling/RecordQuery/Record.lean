import RecordQuery.Fault
import RecordQuery.Schema
import RecordQuery.Value.Basic

/-!
# Records

A record is anything whose fields have values by name. `Field.read` reads a field of a schema from
it.
-/

namespace RecordQuery

/-- A type of records. -/
class Readable (α : Type) where
  /-- The value of a name, if the record has it. -/
  value? : α → String → Option Value

/-- A record as a list of names with values. -/
structure Record where
  /-- The names with their values. -/
  entries : List (String × Value)

instance : Readable Record where
  value? r name := r.entries.lookup name

/-- A record with a label reads as the record. -/
instance {ι α : Type} [Readable α] : Readable (ι × α) where
  value? r name := Readable.value? r.2 name

namespace Field

/-- The name can be the name of an attribute. -/
def isReachable (f : Field) : Bool := f.accessor = .entry || '.' ∉ f.name.toList

/-- The value of the field in a record. -/
def read {α : Type} [Readable α] (f : Field) (r : α) : Except Fault Value :=
  match if f.isReachable then Readable.value? r f.name else none with
  | some v => .ok v
  | none => .error (if f.accessor = .entry then .missingEntry else .missingAttribute)

end Field

end RecordQuery
