import RecordQuery.Document.Basic
import RecordQuery.Proofs.Session.Ledger

/-!
# What a session reads

In a session over a list in memory, whatever is read from a source is determined by its path and by
the records at that moment (`Ledger.readsAlong_session`). A step that does not extend the shared
list changes nothing but the names that it gives, so it changes no answer of later steps on other
sources, whatever happens in between (`Session.reply_after_next`).
-/

namespace RecordQuery

variable {α : Type}

theorem Session.answer_map {β γ : Type} {f : γ → Answer α} {g : β → γ} {e : Except Failure β} :
    answer f (e.map g) = answer (fun b => f (g b)) e := by
  cases e with
  | error e => rfl
  | ok b => rfl

variable [Readable α]

/-! ## Reads -/

namespace Path

/-- A slice of what is read along a path. -/
def slice (path : Path) (records : List α) (offset limit : Int) : Except Fault (List α) :=
  (path.read records).map fun rows => (rows.drop offset.toNat).take limit.toNat

/-- The number of the records that the selections of a path leave. -/
def count (path : Path) (records : List α) : Except Fault Nat :=
  (path.selected records).map List.length

/-- A page of what is read along a path. -/
def page (path : Path) (records : List α) (page size : Int) : Except Fault (Page α) := do
  let total ← path.count records
  let items ← if 0 < size then path.slice records (pageOffset page size) size else .ok []
  return ⟨items, total, ← hasNextPage page size total⟩

end Path

/-- Every step that reads a source answers what is read along a path from some records, and leaves
the session as it is. -/
structure Session.ReadsAlong (schema : Schema) (path : Path) (records : List α) (s : Session α)
    (on : String) : Prop where
  /-- Reading all records. -/
  all (name? : Option String) : s.step on name? (.ok .all) =
    (s, answer .rows ((path.read records).mapError .faulty))
  /-- Counting the records. -/
  count (name? : Option String) : s.step on name? (.ok .count) =
    (s, answer .count ((path.count records).mapError .faulty))
  /-- Reading a slice. -/
  fetch (name? : Option String) (offset limit : Int) :
    s.step on name? (.ok (.fetch offset limit)) =
      (s, answer (.slice true) ((path.slice records offset limit).mapError .faulty))
  /-- Reading a page. -/
  page (name? : Option String) (page size : Int) : s.step on name? (.ok (.page page size)) =
    (s, answer (.page true) ((path.page records page size).mapError .faulty))
  /-- Filtering, sorting and reading all records. -/
  search (name? text? : Option String) (request? : Option SortRequest) :
    s.step on name? (.ok (.search text? request?)) = (s, answer .rows (do
      let path ← path.refined schema text? request?
      (path.read records).mapError .faulty))
  /-- Filtering, sorting and reading a page. -/
  searchPage (name? text? : Option String) (request? : Option SortRequest) (page size : Int) :
    s.step on name? (.ok (.searchPage text? request? page size)) = (s, answer (.page true) (do
      let path ← path.refined schema text? request?
      (path.page records page size).mapError .faulty))

namespace Ledger

variable {schema : Schema} {origin : Origin α} {l : Ledger α} {path : Path} {shared : List α}

theorem all_sourceOf : (sourceOf schema origin path).all shared =
    path.read ((MemorySource.ofOrigin schema origin).records shared) :=
  MemorySource.all_along

theorem count_sourceOf : (sourceOf schema origin path).count shared =
    path.count ((MemorySource.ofOrigin schema origin).records shared) := by
  rw [Path.count, ← MemorySource.selected_along]
  rfl

theorem fetch_sourceOf {offset limit : Int} :
    (sourceOf schema origin path).fetch shared offset limit =
      path.slice ((MemorySource.ofOrigin schema origin).records shared) offset limit := by
  rw [Path.slice, ← MemorySource.all_along]
  rfl

theorem page_sourceOf {page size : Int} :
    (sourceOf schema origin path).page shared page size =
      path.page ((MemorySource.ofOrigin schema origin).records shared) page size := by
  rw [Source.page, count_sourceOf, fetch_sourceOf, Path.page]

theorem readsAlong_session {on : String} (h : l.path? on = some path) :
    (l.session schema origin).ReadsAlong schema path
      ((MemorySource.ofOrigin schema origin).records l.shared) on := by
  have hstep {name? : Option String} {action : Action α} :
      (l.session schema origin).step on name? (.ok action) =
        (l.session schema origin).perform (sourceOf schema origin path) name? action := by
    rw [Session.step, source?_session, h]
    rfl
  constructor
  case all =>
    intro name?
    rw [hstep, ← all_sourceOf]
    rfl
  case count =>
    intro name?
    rw [hstep, ← count_sourceOf]
    rfl
  case fetch =>
    intro name? offset limit
    rw [hstep, ← fetch_sourceOf]
    rfl
  case page =>
    intro name? page size
    rw [hstep, ← page_sourceOf]
    rfl
  case search =>
    intro name? text? request?
    rw [hstep, Session.perform, searched_sourceOf fun path => all_sourceOf, Session.answer_map]
    rfl
  case searchPage =>
    intro name? text? request? page size
    rw [hstep, Session.perform, searched_sourceOf fun path => page_sourceOf, Session.answer_map]
    rfl

end Ledger

/-! ## What is read along a path -/

namespace Path

variable {path : Path} {records rows : List α}

theorem arranged_of_read (h : path.read records = .ok rows) :
    path.arranged (records.filter (path.Accepts ·)) = .ok rows := by
  obtain ⟨selected, hselected, hrows⟩ := exists_of_bind_ok h
  rw [← eq_of_selected hselected]
  exact hrows

theorem read_eq (h : ∀ r ∈ records, ∀ s ∈ path.selections, ∃ b, s.selects r = .ok b) :
    path.read records = path.arranged (records.filter (path.Accepts ·)) := by
  rw [read, selected_eq h]
  rfl

theorem count_eq (h : ∀ r ∈ records, ∀ s ∈ path.selections, ∃ b, s.selects r = .ok b) :
    path.count records = .ok (records.countP (path.Accepts ·)) := by
  rw [count, selected_eq h, List.countP_eq_length_filter]
  rfl

end Path

/-! ## Sessions over a list in memory -/

namespace Session

/-- After any steps of a session over a list in memory, each source is read along its own path, from
the records at that moment: the shared list with all that was appended, or the list of its own. The
records read are those that satisfy every selection of the path, in the order of its last sort key,
and as many are counted unless a selection fails. A step that does not append changes no answer,
then or later, on a source that is not derived from what it gave a name. -/
theorem reads_along_paths (schema : Schema) (origin : Origin α) (shared : List α)
    (steps : List (Step α)) :
    let s := (start shared (.memory (.ofOrigin schema origin))).after steps
    let l := steps.foldl (Ledger.note schema) (.start shared)
    let records := match origin with
      | .shared => l.shared
      | .own records => records
    s.shared = l.shared ∧
    (∀ on path, l.path? on = some path → s.ReadsAlong schema path records on ∧
      (∀ rows, path.read records = .ok rows →
        path.arranged (records.filter (path.Accepts ·)) = .ok rows) ∧
      ((∀ r ∈ records, ∀ selection ∈ path.selections, ∃ b, selection.selects r = .ok b) →
        path.read records = path.arranged (records.filter (path.Accepts ·)) ∧
        path.count records = .ok (records.countP (path.Accepts ·)))) ∧
    (∀ on, l.path? on = none → ∀ name? action, s.step on name? action = (s, .skipped)) ∧
    ∀ hidden step later last, Step.Confined hidden step →
      (∀ step ∈ later, step.on ∈ hidden → step.Confined hidden) → last.on ∉ hidden →
      ((s.next step).after later).reply last = (s.after later).reply last := by
  intro s l records
  have hs : s = l.session schema origin := by
    simp only [s, ← Ledger.session_start]
    exact Ledger.after_session
  have hrecords : (MemorySource.ofOrigin schema origin).records l.shared = records := by
    cases origin with
    | shared => rfl
    | own records => rfl
  refine ⟨by rw [hs]; rfl, fun on path hpath => ⟨?_, ?_, ?_⟩, fun on hpath name? action => ?_, ?_⟩
  · rw [hs, ← hrecords]
    exact Ledger.readsAlong_session hpath
  · exact fun rows hrows => Path.arranged_of_read hrows
  · exact fun hdecided => ⟨Path.read_eq hdecided, Path.count_eq hdecided⟩
  · rw [hs, Session.step, Ledger.source?_session, hpath]
    rfl
  · intro hidden step later last hstep hlater hlast
    exact reply_after_next hstep hlater hlast

/-- A record that is appended after two derivations is read along their path. -/
theorem reads_along_paths_append :
    let size : Field := ⟨"size", .numeric, some .int, false, .entry, false⟩
    let record (n : Int) : Record := ⟨[("size", .int n)]⟩
    let large : Selection := ⟨"Record", .compare size .greaterThan (.int 1), rfl⟩
    let steps : List (Step Record) := [⟨baseName, some "large", .ok (.select large)⟩,
      ⟨"large", some "sorted", .ok (.order ⟨size, true⟩)⟩,
      ⟨baseName, none, .ok (.append (record 3))⟩]
    let s := (start [record 1, record 2] (.memory (.ofOrigin Document.schema .shared))).after steps
    let path : Path := [.select large, .sort ⟨size, true⟩]
    let records := [record 1, record 2, record 3]
    (∀ r ∈ records, ∀ selection ∈ path.selections, ∃ b, selection.selects r = .ok b) ∧
      s.ReadsAlong Document.schema path records "sorted" ∧
      path.read records = path.arranged (records.filter (path.Accepts ·)) ∧
      path.count records = .ok (records.countP (path.Accepts ·)) := by
  intro size record large steps s path records
  have hdecided : ∀ r ∈ records, ∀ selection ∈ path.selections, ∃ b, selection.selects r = .ok b := by
    intro r hr selection hselection
    obtain rfl := List.mem_singleton.1 hselection
    rcases List.mem_cons.1 hr with rfl | hr
    · exact ⟨false, rfl⟩
    rcases List.mem_cons.1 hr with rfl | hr
    · exact ⟨true, rfl⟩
    obtain rfl := List.mem_singleton.1 hr
    exact ⟨true, rfl⟩
  obtain ⟨hreads, -, hcount⟩ := (reads_along_paths Document.schema .shared [record 1, record 2]
    steps).2.1 "sorted" path rfl
  exact ⟨hdecided, hreads, hcount hdecided⟩

end Session

end RecordQuery
