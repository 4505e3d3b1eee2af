import RecordQuery.Session

/-!
# Runs of a session

A step does one of three things (`Session.perform_cases`): it extends the shared list, it leaves the
session as it is, or it gives a name to a source. So a step that does not extend the shared list
changes the session at the name that it gives and nowhere else, and no later answer on a source that
is not derived from that one, whatever happens in between (`Session.reply_after_next`).
-/

namespace RecordQuery

/-- A step of a session. -/
structure Step (α : Type) where
  /-- The name of the source that the step works on. -/
  on : String
  /-- The name for the source that the step derives. -/
  name? : Option String
  /-- What the step does, if it could be read. -/
  action : Except Failure (Action α)

variable {α : Type}

/-- The step does not extend the shared list, and gives none but some names. -/
structure Step.Confined (hidden : List String) (step : Step α) : Prop where
  /-- The names that are given. -/
  name? : ∀ name, step.name? = some name → name ∈ hidden
  /-- The list is not extended. -/
  action : ∀ record, step.action ≠ .ok (.append record)

namespace Session

/-- Two sessions have the same shared list and, but for some names, the same sources. -/
structure AgreeOff (hidden : List String) (s t : Session α) : Prop where
  /-- The shared lists. -/
  shared : s.shared = t.shared
  /-- The sources. -/
  source? : ∀ name, name ∉ hidden → s.source? name = t.source? name

variable {hidden : List String} {s t u : Session α} {source : Source α} {name? : Option String}

/-! ## Sessions that agree -/

theorem AgreeOff.refl : s.AgreeOff hidden s := ⟨rfl, fun _ _ => rfl⟩

theorem AgreeOff.symm (h : s.AgreeOff hidden t) : t.AgreeOff hidden s :=
  ⟨h.shared.symm, fun name hname => (h.source? name hname).symm⟩

theorem AgreeOff.trans (h : s.AgreeOff hidden t) (h' : t.AgreeOff hidden u) :
    s.AgreeOff hidden u :=
  ⟨h.shared.trans h'.shared, fun name hname => (h.source? name hname).trans (h'.source? name hname)⟩

theorem source?_bind_of_ne {name : String} (h : name? ≠ some name) :
    (s.bind name? source).source? name = s.source? name := by
  cases name? with
  | none => rfl
  | some other =>
    have hne : name ≠ other := fun heq => h (congrArg some heq.symm)
    rw [source?, bind, List.lookup_cons, beq_eq_false_iff_ne.2 hne]
    rfl

theorem agreeOff_bind (h : ∀ name, name? = some name → name ∈ hidden) :
    (s.bind name? source).AgreeOff hidden s := by
  constructor
  · cases name? with
    | none => rfl
    | some name => rfl
  · exact fun name hname => source?_bind_of_ne fun heq => hname (h name heq)

theorem AgreeOff.bind (h : s.AgreeOff hidden t) :
    (s.bind name? source).AgreeOff hidden (t.bind name? source) := by
  cases name? with
  | none => exact h
  | some other =>
    refine ⟨h.shared, fun name hname => ?_⟩
    by_cases heq : name = other
    · subst heq
      exact List.lookup_cons_self.trans List.lookup_cons_self.symm
    · have hne : some other ≠ some name := fun h => heq (Option.some.inj h).symm
      rw [source?_bind_of_ne hne, source?_bind_of_ne hne]
      exact h.source? name hname

/-! ## Steps -/

variable [Readable α]

/-- The session after a step. -/
def next (s : Session α) (step : Step α) : Session α := (s.step step.on step.name? step.action).1

/-- What a step answers. -/
def reply (s : Session α) (step : Step α) : Answer α :=
  (s.step step.on step.name? step.action).2

/-- The session after some steps. -/
def after (s : Session α) (steps : List (Step α)) : Session α := steps.foldl next s

/-- An action extends the shared list, leaves the session as it is, or derives a source to which a
name may be given, the same one in every session. -/
theorem perform_cases (source : Source α) (name? : Option String) (action : Action α) :
    (∃ record, action = .append record) ∨ (∀ s, (perform s source name? action).1 = s) ∨
      ∃ derived, ∀ s, (perform s source name? action).1 = s.bind name? derived := by
  have hderive (result : Except Failure (Option (Source α))) :
      (∀ s, (derive s source name? result).1 = s) ∨
        ∃ derived, ∀ s, (derive s source name? result).1 = s.bind name? derived := by
    match result with
    | .error e => exact .inl fun s => rfl
    | .ok none => exact .inr ⟨source, fun s => rfl⟩
    | .ok (some derived) => exact .inr ⟨derived, fun s => rfl⟩
  cases action with
  | filter | sort | select | order => exact .inr (hderive _)
  | count | all | fetch | page | search | searchPage => exact .inr (.inl fun s => rfl)
  | append record => exact .inl ⟨record, rfl⟩

/-- The answer to an action depends on the shared list alone. -/
theorem perform_answer {action : Action α} (h : s.shared = t.shared) :
    (perform s source name? action).2 = (perform t source name? action).2 := by
  have hderive (result : Except Failure (Option (Source α))) :
      (derive s source name? result).2 = (derive t source name? result).2 := by
    match result with
    | .error e => rfl
    | .ok none => rfl
    | .ok (some derived) => rfl
  cases action with
  | filter | sort | select | order => exact hderive _
  | count | all | fetch | page | search | searchPage | append =>
    simp only [perform, h]

variable {step : Step α}

/-- A confined step changes the session at the names that it may give. -/
theorem agreeOff_next (h : step.Confined hidden) : (s.next step).AgreeOff hidden s := by
  rw [next, Session.step]
  cases s.source? step.on with
  | none => exact .refl
  | some source =>
    cases haction : step.action with
    | error e => exact .refl
    | ok action =>
      change (perform s source step.name? action).1.AgreeOff hidden s
      rcases perform_cases source step.name? action with ⟨record, rfl⟩ | hsame | ⟨derived, hbind⟩
      · exact absurd haction (h.action record)
      · rw [hsame]
        exact .refl
      · rw [hbind]
        exact agreeOff_bind h.name?

/-- A step on a source in which two sessions agree keeps the agreement. -/
theorem AgreeOff.next (h : s.AgreeOff hidden t) (hon : step.on ∉ hidden) :
    (s.next step).AgreeOff hidden (t.next step) := by
  rw [Session.next, Session.next, Session.step, Session.step, h.source? step.on hon]
  cases t.source? step.on with
  | none => exact h
  | some source =>
    cases step.action with
    | error e => exact h
    | ok action =>
      change (perform s source step.name? action).1.AgreeOff hidden
        (perform t source step.name? action).1
      rcases perform_cases source step.name? action with ⟨record, rfl⟩ | hsame | ⟨derived, hbind⟩
      · exact ⟨congrArg (· ++ [record]) h.shared, h.source?⟩
      · rw [hsame, hsame]
        exact h
      · rw [hbind, hbind]
        exact h.bind

/-- A step on a source in which two sessions agree is answered the same. -/
theorem AgreeOff.reply (h : s.AgreeOff hidden t) (hon : step.on ∉ hidden) :
    s.reply step = t.reply step := by
  rw [Session.reply, Session.reply, Session.step, Session.step, h.source? step.on hon]
  cases t.source? step.on with
  | none => rfl
  | some source =>
    cases step.action with
    | error e => rfl
    | ok action => exact perform_answer h.shared

/-! ## Runs -/

/-- Steps keep the agreement of two sessions if those on the other sources are confined to them. -/
theorem AgreeOff.after (h : s.AgreeOff hidden t) {steps : List (Step α)}
    (hsteps : ∀ step ∈ steps, step.on ∈ hidden → step.Confined hidden) :
    (s.after steps).AgreeOff hidden (t.after steps) := by
  induction steps generalizing s t with
  | nil => exact h
  | cons step steps ih =>
    obtain ⟨hstep, hsteps⟩ := List.forall_mem_cons.1 hsteps
    refine ih ?_ hsteps
    by_cases hon : step.on ∈ hidden
    · exact ((agreeOff_next (hstep hon)).trans h).trans (agreeOff_next (hstep hon)).symm
    · exact h.next hon

/-- Without a step that does not extend the shared list, every later step on a source that is not
derived from what the step gave a name would have been answered the same. -/
theorem reply_after_next {later : List (Step α)} {last : Step α} (h : step.Confined hidden)
    (hlater : ∀ step ∈ later, step.on ∈ hidden → step.Confined hidden) (hlast : last.on ∉ hidden) :
    ((s.next step).after later).reply last = (s.after later).reply last :=
  ((agreeOff_next h).after hlater).reply hlast

end Session

end RecordQuery
