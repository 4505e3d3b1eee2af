import Mathlib.Control.Monad.Basic
import RecordQuery.Proofs.Fault
import RecordQuery.Session

/-!
# Derivation paths

A source in memory is derived from a list of records by a path of selections and sorts. What is read
from it (`MemorySource.all_along`) are the records that satisfy all selections of the path, in the
order of the last sort; `Path.selected_eq` says which these are where no selection fails on a
record.
-/

namespace RecordQuery

/-- What a source adds to the one it is derived from. -/
inductive Refinement where
  /-- A further selection. -/
  | select (selection : Selection)
  /-- Another sort key. -/
  | sort (key : SortKey)

/-- The refinements that lead to a source, the first one first. -/
abbrev Path := List Refinement

namespace Refinement

/-- The selection of a refinement. -/
def selection? : Refinement → Option Selection
  | select selection => some selection
  | sort _ => none

/-- The sort key of a refinement. -/
def key? : Refinement → Option SortKey
  | select _ => none
  | sort key => some key

end Refinement

namespace Path

/-- The selections of a path. -/
def selections (path : Path) : List Selection := path.filterMap Refinement.selection?

/-- The last sort key of a path. -/
def key? (path : Path) : Option SortKey := (path.filterMap Refinement.key?).getLast?

end Path

variable {α : Type}

/-! ## Sources along a path -/

namespace MemorySource

/-- The source that a path leads to. -/
def along (m : MemorySource α) : Path → MemorySource α
  | [] => m
  | .select s :: path => (m.select s).along path
  | .sort k :: path => (m.sortedBy k).along path

variable {m : MemorySource α} {path more : Path} {shared : List α}

theorem along_append : m.along (path ++ more) = (m.along path).along more := by
  induction path generalizing m with
  | nil => rfl
  | cons refinement path ih =>
    cases refinement with
    | select s => exact ih
    | sort k => exact ih

/-- A path adds its selections, and its last sort key takes the place of the one before. -/
theorem along_eq : m.along path =
    ⟨m.schema, m.origin, m.selections ++ path.selections, path.key?.or m.key?⟩ := by
  induction path generalizing m with
  | nil => rw [along, Path.selections, List.filterMap_nil, List.append_nil]; rfl
  | cons refinement path ih =>
    cases refinement with
    | select s =>
      have hselections : m.selections ++ [s] ++ Path.selections path =
          m.selections ++ Path.selections (.select s :: path) := List.append_assoc ..
      rw [along, ih, ← hselections]
      rfl
    | sort k =>
      have hkey : (Path.key? path).or (some k) = (Path.key? (.sort k :: path)).or m.key? := by
        simp only [Path.key?, List.filterMap_cons, Refinement.key?, List.getLast?_cons]
        cases (path.filterMap Refinement.key?).getLast? <;> rfl
      rw [along, ih, ← hkey]
      rfl

end MemorySource

/-! ## Reading along a path -/

variable [Readable α]

namespace Path

variable {path : Path} {records rows : List α} {r : α}

/-- The record satisfies all selections of a path. -/
def Accepts (path : Path) (r : α) : Prop := ∀ s ∈ path.selections, s.selects r = .ok true

instance (path : Path) (r : α) : Decidable (path.Accepts r) :=
  inferInstanceAs (Decidable (∀ s ∈ path.selections, s.selects r = .ok true))

/-- The records that the selections of a path leave, each decided up to the first that does not hold
of it. -/
def selected (path : Path) (records : List α) : Except Fault (List α) :=
  records.filterM fun r => path.selections.allM (·.selects r)

/-- Records in the order of the last sort key of a path. -/
def arranged (path : Path) (rows : List α) : Except Fault (List α) :=
  match path.key? with
  | none => .ok rows
  | some k => k.apply rows

/-- What is read along a path. -/
def read (path : Path) (records : List α) : Except Fault (List α) :=
  path.selected records >>= path.arranged

theorem allM_eq_true_iff {ss : List Selection} :
    ss.allM (·.selects r) = .ok true ↔ ∀ s ∈ ss, s.selects r = .ok true := by
  induction ss with
  | nil => simp [List.allM, pure, Except.pure]
  | cons s ss ih =>
    rw [List.allM, bind_eq_ok_iff, List.forall_mem_cons, ← ih]
    constructor
    · rintro ⟨b, hb, hrest⟩
      cases b with
      | true => exact ⟨hb, hrest⟩
      | false => cases hrest
    · rintro ⟨hs, hrest⟩
      exact ⟨true, hs, hrest⟩

theorem exists_allM_eq_ok {ss : List Selection} (h : ∀ s ∈ ss, ∃ b, s.selects r = .ok b) :
    ∃ b, ss.allM (·.selects r) = .ok b := by
  induction ss with
  | nil => exact ⟨true, rfl⟩
  | cons s ss ih =>
    obtain ⟨⟨b, hb⟩, hrest⟩ := List.forall_mem_cons.1 h
    rw [List.allM, hb]
    cases b with
    | true => exact ih hrest
    | false => exact ⟨false, rfl⟩

theorem selected_eq_filter
    (h : ∀ r ∈ records, ∃ b, path.selections.allM (·.selects r) = .ok b) :
    path.selected records = .ok (records.filter (path.Accepts ·)) := by
  refine filterM_ok fun r hr => ?_
  obtain ⟨b, hb⟩ := h r hr
  have hiff : path.Accepts r ↔ b = true := by
    rw [Accepts, ← allM_eq_true_iff, hb]
    simp
  rw [hb]
  cases b with
  | true => rw [decide_eq_true (hiff.2 rfl)]
  | false => rw [decide_eq_false fun hr => Bool.false_ne_true (hiff.1 hr)]

/-- Where no selection fails on a record, the records that satisfy all selections are selected. -/
theorem selected_eq
    (h : ∀ r ∈ records, ∀ s ∈ path.selections, ∃ b, s.selects r = .ok b) :
    path.selected records = .ok (records.filter (path.Accepts ·)) :=
  selected_eq_filter fun r hr => exists_allM_eq_ok (h r hr)

/-- No others are selected. -/
theorem eq_of_selected (h : path.selected records = .ok rows) :
    rows = records.filter (path.Accepts ·) :=
  Except.ok.inj (h.symm.trans (selected_eq_filter (exists_of_filterM_ok h)))

end Path

namespace MemorySource

variable {path : Path} {shared : List α}

theorem selectedBy_eq_allM {ss : List Selection} {r : α} :
    selectedBy ss r = ss.allM (·.selects r) := by
  induction ss with
  | nil => rfl
  | cons s ss ih =>
    rw [selectedBy, List.allM, ih]
    refine bind_congr fun b => ?_
    cases b with
    | true => rfl
    | false => rfl

/-- The source of a path selects as the path does. -/
theorem selected_along {schema : Schema} {origin : Origin α} :
    ((ofOrigin schema origin).along path).selected shared =
      path.selected ((ofOrigin schema origin).records shared) := by
  rw [along_eq, selected, Path.selected]
  exact congrArg (List.filterM · _) (funext fun r => selectedBy_eq_allM)

/-- The source of a path reads as the path does. -/
theorem all_along {schema : Schema} {origin : Origin α} :
    ((ofOrigin schema origin).along path).all shared =
      path.read ((ofOrigin schema origin).records shared) := by
  rw [all, selected_along, along_eq, Path.read]
  refine bind_congr fun rows => ?_
  rw [Path.arranged]
  cases path.key? with
  | none => rfl
  | some k => rfl

end MemorySource

end RecordQuery
