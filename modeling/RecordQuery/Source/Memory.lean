import RecordQuery.Condition.Compile
import RecordQuery.Sorting.Basic

/-!
# Lists in memory

A memory source selects records of a list that others may extend, or of a list of its own. It holds
no records of the shared list: whatever is read from it is read from the list as it is then. A
further sort takes the place of the one before it.
-/

namespace RecordQuery

/-- Where the records of a source are. -/
inductive Origin (α : Type) where
  /-- In the list that is shared. -/
  | shared
  /-- In a list of its own. -/
  | own (records : List α)

/-- A selection of the records of a list. -/
structure MemorySource (α : Type) where
  /-- The schema of the records. -/
  schema : Schema
  /-- Where the records are. -/
  origin : Origin α
  /-- What the selected records satisfy, in the order in which it is decided. -/
  selections : List Selection
  /-- What the selected records are sorted by. -/
  key? : Option SortKey

namespace MemorySource

variable {α : Type} [Readable α]

/-- All records of a list. -/
def ofOrigin (schema : Schema) (origin : Origin α) : MemorySource α := ⟨schema, origin, [], none⟩

/-- The records that a further selection selects. -/
def select (m : MemorySource α) (s : Selection) : MemorySource α :=
  { m with selections := m.selections ++ [s] }

/-- The records in the order of a key. -/
def sortedBy (m : MemorySource α) (k : SortKey) : MemorySource α := { m with key? := some k }

/-- The records that the source selects from, given the shared list. -/
def records (m : MemorySource α) (shared : List α) : List α :=
  match m.origin with
  | .shared => shared
  | .own records => records

/-- All selections select the record; the first that does not ends the test. -/
def selectedBy : List Selection → α → Except Fault Bool
  | [], _ => .ok true
  | s :: ss, r => do if ← s.selects r then selectedBy ss r else return false

/-- The selected records, in the order of the list. -/
def selected (m : MemorySource α) (shared : List α) : Except Fault (List α) :=
  (m.records shared).filterM (selectedBy m.selections)

/-- The selected records in order. -/
def all (m : MemorySource α) (shared : List α) : Except Fault (List α) := do
  let rows ← m.selected shared
  match m.key? with
  | none => return rows
  | some k => k.apply rows

/-- The number of selected records. -/
def count (m : MemorySource α) (shared : List α) : Except Fault Nat := do
  return (← m.selected shared).length

/-- A slice of the selected records. A negative offset or limit counts as zero. -/
def fetch (m : MemorySource α) (shared : List α) (offset limit : Int) : Except Fault (List α) := do
  return ((← m.all shared).drop offset.toNat).take limit.toNat

end MemorySource

end RecordQuery
