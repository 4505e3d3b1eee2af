import RecordQuery.Source.Basic

/-!
# Sessions

A session holds the shared list of records and the sources that were derived so far, each under a
name. A step derives a source or reads one; a step that fails leaves the session as it is, and so
does a step on a name that no source has.
-/

namespace RecordQuery

/-- A shared list of records and named sources. -/
structure Session (α : Type) where
  /-- The list that is shared. -/
  shared : List α
  /-- The sources by name, the latest first. -/
  sources : List (String × Source α)

/-- What a step does. -/
inductive Action (α : Type) where
  /-- Selects by the text of a filter. -/
  | filter (text? : Option String)
  /-- Sorts as requested. -/
  | sort (request? : Option SortRequest)
  /-- Selects by a selection. -/
  | select (selection : Selection)
  /-- Sorts by a sort key. -/
  | order (key : SortKey)
  /-- Counts the records. -/
  | count
  /-- Reads all records. -/
  | all
  /-- Reads a slice of the records. -/
  | fetch (offset limit : Int)
  /-- Reads a page. -/
  | page (page size : Int)
  /-- Filters, sorts and reads all records. -/
  | search (text? : Option String) (request? : Option SortRequest)
  /-- Filters, sorts and reads a page. -/
  | searchPage (text? : Option String) (request? : Option SortRequest) (page size : Int)
  /-- Extends the shared list. -/
  | append (record : α)

/-- What a step answers. -/
inductive Answer (α : Type) where
  /-- No source has the name. -/
  | skipped
  /-- A source was derived; `same` says that it is the one that was there. -/
  | derived (same : Bool)
  /-- A number of records. -/
  | count (n : Nat)
  /-- All records of a source. -/
  | rows (rows : List α)
  /-- A slice of the records; `ordered` says that the source has an order. -/
  | slice (ordered : Bool) (rows : List α)
  /-- A page; `ordered` says that the source has an order. -/
  | page (ordered : Bool) (p : Page α)
  /-- The length of the shared list. -/
  | size (n : Nat)
  /-- The step failed. -/
  | failed (e : Failure)

namespace Session

variable {α : Type} [Readable α]

/-- The name of the first source. -/
def baseName : String := "base"

/-- The session with one source. -/
def start (shared : List α) (base : Source α) : Session α := ⟨shared, [(baseName, base)]⟩

/-- The source of a name. -/
def source? (s : Session α) (name : String) : Option (Source α) := s.sources.lookup name

/-- The session with a further source, if it is given a name. -/
def bind (s : Session α) (name? : Option String) (source : Source α) : Session α :=
  match name? with
  | some name => { s with sources := (name, source) :: s.sources }
  | none => s

/-- The session and the answer after a derivation from a source. -/
def derive (s : Session α) (source : Source α) (name? : Option String)
    (result : Except Failure (Option (Source α))) : Session α × Answer α :=
  match result with
  | .ok none => (s.bind name? source, .derived true)
  | .ok (some derived) => (s.bind name? derived, .derived false)
  | .error e => (s, .failed e)

/-- The answer to a read. -/
def answer {β : Type} (f : β → Answer α) : Except Failure β → Answer α
  | .ok b => f b
  | .error e => .failed e

/-- A read of a source that a filter and a sort request lead to. -/
def searched {β : Type} (s : Source α) (text? : Option String) (request? : Option SortRequest)
    (read : Source α → Except Fault β) : Except Failure (Bool × β) := do
  let refined ← s.refined text? request?
  return (refined.isOrdered, ← (read refined).mapError .faulty)

/-- The session and the answer after an action on a source. -/
def perform (s : Session α) (source : Source α) (name? : Option String) :
    Action α → Session α × Answer α
  | .filter text? => s.derive source name? (source.filtered? text?)
  | .sort request? => s.derive source name? (source.sorted? request?)
  | .select selection => s.derive source name? ((source.select selection).map some)
  | .order key => s.derive source name? ((source.sortedBy key).map some)
  | .count => (s, answer .count ((source.count s.shared).mapError .faulty))
  | .all => (s, answer .rows ((source.all s.shared).mapError .faulty))
  | .fetch offset limit =>
    (s, answer (.slice source.isOrdered) ((source.fetch s.shared offset limit).mapError .faulty))
  | .page page size =>
    (s, answer (.page source.isOrdered) ((source.page s.shared page size).mapError .faulty))
  | .search text? request? =>
    (s, answer (fun r => .rows r.2) (searched source text? request? (·.all s.shared)))
  | .searchPage text? request? page size =>
    (s, answer (fun r => .page r.1 r.2)
      (searched source text? request? (·.page s.shared page size)))
  | .append record =>
    ({ s with shared := s.shared ++ [record] }, .size (s.shared.length + 1))

/-- The session and the answer after a step on the source of a name. An action that could not be
read fails. -/
def step (s : Session α) (on : String) (name? : Option String)
    (action : Except Failure (Action α)) : Session α × Answer α :=
  match s.source? on with
  | none => (s, .skipped)
  | some source =>
    match action with
    | .ok action => s.perform source name? action
    | .error e => (s, .failed e)

end Session

end RecordQuery
