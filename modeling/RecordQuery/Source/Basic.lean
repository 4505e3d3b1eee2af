import RecordQuery.Page
import RecordQuery.Source.Memory
import RecordQuery.Source.Table

/-!
# Sources

A source is a selection of records, sorted or not, of which nothing has been read yet. Selecting and
sorting give new sources and leave the old one as it is; `all`, `count`, `fetch` and `page` read.
Reading takes the shared list of records as it is at that moment.
-/

namespace RecordQuery

/-- A source of records. -/
inductive Source (α : Type) where
  /-- A list in memory. -/
  | memory (m : MemorySource α)
  /-- A table. -/
  | table (t : TableSource α)

namespace Source

variable {α : Type} [Readable α]

/-- The schema of the records. -/
def schema : Source α → Schema
  | memory m => m.schema
  | table t => t.schema

/-- The records that a further selection selects. -/
def select (s : Source α) (selection : Selection) : Except Failure (Source α) :=
  match s with
  | memory m => .ok (memory (m.select selection))
  | table t => (t.select selection).map table

/-- The records sorted by a key. -/
def sortedBy (s : Source α) (k : SortKey) : Except Failure (Source α) :=
  match s with
  | memory m => .ok (memory (m.sortedBy k))
  | table t => (t.sortedBy k).map table

/-- The source has an order: a list keeps its own, and a table has none unless it is sorted. Rows of
a table that tie by all of its keys are left in no order even then. -/
def isOrdered : Source α → Bool
  | memory _ => true
  | table t => !t.keys.isEmpty

/-! ## Filters and sorts -/

/-- The source that the text of a filter selects, or `none` where the filter has no criteria and the
source stays the same. -/
def filtered? (s : Source α) (text? : Option String) : Except Failure (Option (Source α)) :=
  let criteria := (Filter.ofText? text?).criteria
  if criteria.isEmpty then .ok none
  else do return some (← s.select (← Selection.ofCriteria s.schema criteria))

/-- The source that a sort request sorts, or `none` where it asks for no sort and the source stays
the same. -/
def sorted? (s : Source α) (request? : Option SortRequest) : Except Failure (Option (Source α)) :=
  match SortKey.ofRequest? s.schema request? with
  | none => .ok none
  | some k => do return some (← s.sortedBy k)

/-- The source that a filter and a sort request lead to. -/
def refined (s : Source α) (text? : Option String) (request? : Option SortRequest) :
    Except Failure (Source α) := do
  let s := (← s.filtered? text?).getD s
  return (← s.sorted? request?).getD s

/-! ## Reading -/

/-- The records of a source. -/
def all (s : Source α) (shared : List α) : Except Fault (List α) :=
  match s with
  | memory m => m.all shared
  | table t => t.all

/-- The number of records of a source. -/
def count (s : Source α) (shared : List α) : Except Fault Nat :=
  match s with
  | memory m => m.count shared
  | table t => t.count

/-- A slice of the records of a source. -/
def fetch (s : Source α) (shared : List α) (offset limit : Int) : Except Fault (List α) :=
  match s with
  | memory m => m.fetch shared offset limit
  | table t => t.fetch offset limit

/-- A page of the records of a source. A page without a size is empty. -/
def page (s : Source α) (shared : List α) (page size : Int) : Except Fault (Page α) := do
  let total ← s.count shared
  let items ← if 0 < size then s.fetch shared (pageOffset page size) size else .ok []
  return ⟨items, total, ← hasNextPage page size total⟩

end Source

end RecordQuery
