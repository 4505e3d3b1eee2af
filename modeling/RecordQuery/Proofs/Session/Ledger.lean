import RecordQuery.Proofs.Session.Run
import RecordQuery.Proofs.Source.Path

/-!
# What a session keeps

A ledger keeps, for a session over a list in memory, the shared list and the path of every source
that has a name. It is written by the steps that derive a source and by those that extend the list
(`Ledger.note`), and it is all that a session over a list in memory holds: the session of the ledger
after a step is the session after the step of the one before (`Ledger.next_session`), and so after
any steps (`Ledger.after_session`).
-/

namespace RecordQuery

/-! ## The refinements of an action -/

namespace Path

/-- What the text of a filter adds to a path. -/
def ofFilter (schema : Schema) (text? : Option String) : Except Failure Path :=
  let criteria := (Filter.ofText? text?).criteria
  if criteria.isEmpty then .ok []
  else do return [.select (← Selection.ofCriteria schema criteria)]

/-- What a sort request adds to a path. -/
def ofSort (schema : Schema) (request? : Option SortRequest) : Path :=
  match SortKey.ofRequest? schema request? with
  | none => []
  | some k => [.sort k]

/-- The path behind a filter and a sort request. -/
def refined (schema : Schema) (path : Path) (text? : Option String)
    (request? : Option SortRequest) : Except Failure Path :=
  (ofFilter schema text?).map fun more => path ++ more ++ ofSort schema request?

end Path

/-- What an action adds to the path of the source that it derives, if it derives one. -/
def Action.refinements? {α : Type} (schema : Schema) : Action α → Option (Except Failure Path)
  | .filter text? => some (Path.ofFilter schema text?)
  | .sort request? => some (.ok (Path.ofSort schema request?))
  | .select selection => some (.ok [.select selection])
  | .order key => some (.ok [.sort key])
  | _ => none

variable {α : Type}

/-! ## Ledgers -/

/-- The shared list and the paths of the named sources, the latest first. -/
structure Ledger (α : Type) where
  /-- The list that is shared. -/
  shared : List α
  /-- The paths by name. -/
  paths : List (String × Path)

namespace Ledger

/-- The ledger of a session with one source. -/
def start (shared : List α) : Ledger α := ⟨shared, [(Session.baseName, [])]⟩

/-- The path of a name. -/
def path? (l : Ledger α) (name : String) : Option Path := l.paths.lookup name

/-- The ledger with a further path, if it is given a name. -/
def bind (l : Ledger α) (name? : Option String) (path : Path) : Ledger α :=
  match name? with
  | some name => { l with paths := (name, path) :: l.paths }
  | none => l

/-- The ledger after an action on the source of a path. -/
def noted (schema : Schema) (l : Ledger α) (path : Path) (name? : Option String)
    (action : Action α) : Ledger α :=
  match action with
  | .append record => { l with shared := l.shared ++ [record] }
  | action =>
    match action.refinements? schema with
    | some (.ok more) => l.bind name? (path ++ more)
    | _ => l

/-- The ledger after a step. A step that fails, or works on a name that no source has, leaves it as
it is. -/
def note (schema : Schema) (l : Ledger α) (step : Step α) : Ledger α :=
  match l.path? step.on, step.action with
  | some path, .ok action => l.noted schema path step.name? action
  | _, _ => l

/-- The source that a path leads to from a list in memory. -/
def sourceOf (schema : Schema) (origin : Origin α) (path : Path) : Source α :=
  .memory ((MemorySource.ofOrigin schema origin).along path)

/-- The session of a ledger. -/
def session (schema : Schema) (origin : Origin α) (l : Ledger α) : Session α :=
  ⟨l.shared, l.paths.map fun p => (p.1, sourceOf schema origin p.2)⟩

variable {schema : Schema} {origin : Origin α} {l : Ledger α} {path : Path}

theorem session_start {shared : List α} : (start shared).session schema origin =
    Session.start shared (.memory (.ofOrigin schema origin)) := rfl

theorem source?_session {name : String} :
    (l.session schema origin).source? name = (l.path? name).map (sourceOf schema origin) := by
  rw [Session.source?, path?, session]
  induction l.paths with
  | nil => rfl
  | cons entry paths ih =>
    rw [List.map_cons, List.lookup_cons, List.lookup_cons]
    cases name == entry.1 with
    | true => rfl
    | false => exact ih

theorem bind_session {name? : Option String} :
    (l.session schema origin).bind name? (sourceOf schema origin path) =
      (l.bind name? path).session schema origin := by
  cases name? with
  | none => rfl
  | some name => rfl

/-! ## Derivations -/

/-- The source that is reached by going on along a path, or `none` where there is nothing to go. -/
def movedTo? (schema : Schema) (origin : Origin α) (path : Path) : Path → Option (Source α)
  | [] => none
  | more => some (sourceOf schema origin (path ++ more))

theorem getD_movedTo? {more : Path} :
    (movedTo? schema origin path more).getD (sourceOf schema origin path) =
      sourceOf schema origin (path ++ more) := by
  cases more with
  | nil => rw [List.append_nil]; rfl
  | cons refinement more => rfl

theorem schema_sourceOf : (sourceOf schema origin path).schema = schema := by
  rw [sourceOf, MemorySource.along_eq]
  rfl

theorem select_sourceOf {selection : Selection} :
    (sourceOf schema origin path).select selection =
      .ok (sourceOf schema origin (path ++ [.select selection])) := by
  rw [sourceOf, sourceOf, MemorySource.along_append]
  rfl

theorem sortedBy_sourceOf {key : SortKey} :
    (sourceOf schema origin path).sortedBy key =
      .ok (sourceOf schema origin (path ++ [.sort key])) := by
  rw [sourceOf, sourceOf, MemorySource.along_append]
  rfl

theorem filtered?_sourceOf {text? : Option String} :
    (sourceOf schema origin path).filtered? text? =
      (Path.ofFilter schema text?).map (movedTo? schema origin path) := by
  rw [Source.filtered?, Path.ofFilter, schema_sourceOf]
  split
  · rfl
  · cases Selection.ofCriteria schema (Filter.ofText? text?).criteria with
    | error e => rfl
    | ok selection =>
      exact bind_eq_ok_iff.2 ⟨_, rfl, bind_eq_ok_iff.2 ⟨_, select_sourceOf, rfl⟩⟩

theorem sorted?_sourceOf {request? : Option SortRequest} :
    (sourceOf schema origin path).sorted? request? =
      .ok (movedTo? schema origin path (Path.ofSort schema request?)) := by
  rw [Source.sorted?, Path.ofSort, schema_sourceOf]
  cases SortKey.ofRequest? schema request? with
  | none => rfl
  | some key => exact bind_eq_ok_iff.2 ⟨_, sortedBy_sourceOf, rfl⟩

theorem refined_sourceOf {text? : Option String} {request? : Option SortRequest} :
    (sourceOf schema origin path).refined text? request? =
      (path.refined schema text? request?).map (sourceOf schema origin) := by
  rw [Source.refined, filtered?_sourceOf, Path.refined]
  cases Path.ofFilter schema text? with
  | error e => rfl
  | ok more =>
    refine bind_eq_ok_iff.2 ⟨_, rfl, ?_⟩
    rw [getD_movedTo?]
    exact bind_eq_ok_iff.2 ⟨_, sorted?_sourceOf, congrArg Except.ok getD_movedTo?⟩

/-- A source that a filter and a sort request lead to is read along the path that they lead to. -/
theorem searched_sourceOf {β : Type} {text? : Option String} {request? : Option SortRequest}
    {read : Source α → Except Fault β} {readPath : Path → Except Fault β}
    (h : ∀ path, read (sourceOf schema origin path) = readPath path) :
    Session.searched (sourceOf schema origin path) text? request? read =
      (path.refined schema text? request? >>= fun path =>
        (readPath path).mapError .faulty).map (true, ·) := by
  rw [Session.searched, refined_sourceOf]
  cases path.refined schema text? request? with
  | error e => rfl
  | ok path =>
    change (do return (_, ← (read (sourceOf schema origin path)).mapError Failure.faulty)) =
      Except.map (true, ·) ((readPath path).mapError Failure.faulty)
    rw [h]
    cases readPath path with
    | error e => rfl
    | ok b => rfl

theorem derive_session {name? : Option String} (more : Except Failure Path) :
    ((l.session schema origin).derive (sourceOf schema origin path) name?
      (more.map (movedTo? schema origin path))).1 =
        match more with
        | .ok more => (l.bind name? (path ++ more)).session schema origin
        | .error _ => l.session schema origin := by
  cases more with
  | error e => rfl
  | ok more =>
    cases more with
    | nil =>
      change _ = (l.bind name? (path ++ [])).session schema origin
      rw [List.append_nil]
      exact bind_session
    | cons refinement more => exact bind_session

/-! ## Steps -/

variable [Readable α]

/-- An action changes the session as it changes the ledger. -/
theorem perform_session {name? : Option String} {action : Action α} :
    ((l.session schema origin).perform (sourceOf schema origin path) name? action).1 =
      (l.noted schema path name? action).session schema origin := by
  cases action with
  | filter text? =>
    rw [Session.perform, filtered?_sourceOf, derive_session]
    simp only [noted, Action.refinements?]
    cases Path.ofFilter schema text? with
    | error e => rfl
    | ok more => rfl
  | sort request? =>
    rw [Session.perform, sorted?_sourceOf]
    exact derive_session (.ok (Path.ofSort schema request?))
  | select selection =>
    rw [Session.perform, select_sourceOf]
    exact derive_session (.ok [.select selection])
  | order key =>
    rw [Session.perform, sortedBy_sourceOf]
    exact derive_session (.ok [.sort key])
  | append record => rfl
  | count | all | fetch | page | search | searchPage => rfl

/-- A step changes the session as it changes the ledger. -/
theorem next_session {step : Step α} :
    (l.session schema origin).next step = (l.note schema step).session schema origin := by
  rw [Session.next, Session.step, source?_session, note]
  cases l.path? step.on with
  | none => rfl
  | some path =>
    cases step.action with
    | error e => rfl
    | ok action => exact perform_session

/-- Steps change the session as they change the ledger. -/
theorem after_session {steps : List (Step α)} :
    (l.session schema origin).after steps =
      (steps.foldl (note schema) l).session schema origin := by
  induction steps generalizing l with
  | nil => rfl
  | cons step steps ih =>
    rw [Session.after, List.foldl_cons, next_session]
    exact ih

end Ledger

end RecordQuery
