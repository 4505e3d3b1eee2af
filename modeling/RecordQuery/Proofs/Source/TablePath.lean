import Mathlib.Data.List.Basic
import RecordQuery.Proofs.Condition.Reach
import RecordQuery.Proofs.Source.Order
import RecordQuery.Proofs.Source.Path

/-!
# Tables along a path

The same path of selections and sorts leads to a source over a table and to one over a list of the
same rows. The source over the table keeps all sort keys of the path (`Source.along_table`), the one
over the list only the last (`MemorySource.along_eq`). So the table gives its rows in the order of
all keys (`TableSource.perm_of_gives_refinedBy`), and the list in the order of the last one
(`MemorySource.all_along_ofRows`).
-/

namespace RecordQuery

variable {α : Type}

/-! ## Sources along a path -/

namespace Path

variable {path : Path} {k : SortKey}

/-- The sort keys of a path, the first one first. -/
def keys (path : Path) : List SortKey := path.filterMap Refinement.key?

/-- The last sort key of a path stands behind the others. -/
theorem keys_eq_append (h : path.key? = some k) : path.keys = path.keys.dropLast ++ [k] :=
  (List.dropLast_append_getLast? k h).symm

end Path

/-- The table with all that a path adds to it. -/
def TableSource.refinedBy (t : TableSource α) (path : Path) : TableSource α :=
  { t with
    condition := path.selections.foldl (fun condition s => .and condition s.condition) t.condition
    keys := t.keys ++ path.keys }

variable {path : Path} {t : TableSource α}

/-- A path adds the literals of its selections to those of the table. -/
theorem TableSource.mem_literals_refinedBy {v : Value} :
    v ∈ (t.refinedBy path).condition.literals ↔
      v ∈ t.condition.literals ∨ ∃ s ∈ path.selections, v ∈ s.condition.literals := by
  unfold refinedBy
  generalize path.selections = selections
  generalize t.condition = condition
  induction selections generalizing condition with
  | nil => simp
  | cons s selections ih =>
    have hliterals : v ∈ (Condition.and condition s.condition).literals ↔
        v ∈ condition.literals ∨ v ∈ s.condition.literals :=
      List.mem_append
    rw [List.foldl_cons, ih, hliterals, List.exists_mem_cons_iff, or_assoc]

namespace Source

/-- The source that a path leads to. -/
def along (s : Source α) : Path → Except Failure (Source α)
  | [] => .ok s
  | .select selection :: path => do (← s.select selection).along path
  | .sort k :: path => do (← s.sortedBy k).along path

variable {m : MemorySource α}

theorem along_memory : (memory m).along path = .ok (memory (m.along path)) := by
  induction path generalizing m with
  | nil => rfl
  | cons refinement path ih =>
    cases refinement with
    | select s => exact ih
    | sort k => exact ih

/-- A table keeps all selections and all sort keys of a path. -/
theorem along_table (hselections : ∀ s ∈ path.selections, s.condition.clauseFailure? = none)
    (hkeys : ∀ k ∈ path.keys, k.field.stored = true) :
    (table t).along path = .ok (table (t.refinedBy path)) := by
  induction path generalizing t with
  | nil =>
    rw [along, TableSource.refinedBy, Path.keys, List.filterMap_nil, List.append_nil]
    rfl
  | cons refinement path ih =>
    cases refinement with
    | select s =>
      obtain ⟨hs, hselections⟩ := List.forall_mem_cons.1 hselections
      have hselect : (table t).select s =
          .ok (table { t with condition := .and t.condition s.condition }) := by
        rw [select, TableSource.select, hs]
        rfl
      rw [along, hselect]
      exact ih hselections hkeys
    | sort k =>
      obtain ⟨hk, hkeys⟩ := List.forall_mem_cons.1 hkeys
      have hsortedBy : (table t).sortedBy k = .ok (table { t with keys := t.keys ++ [k] }) := by
        rw [sortedBy, TableSource.sortedBy, if_pos hk]
        rfl
      have hrefined : { t with keys := t.keys ++ [k] }.refinedBy path =
          t.refinedBy (.sort k :: path) := by
        rw [TableSource.refinedBy, List.append_assoc]
        rfl
      rw [along, hsortedBy, ← hrefined]
      exact ih hselections hkeys

/-- A path of selections and sorts by columns leads from a table to a table. -/
theorem along_ofRows {schema : Schema} {rows : List α}
    (hcolumns : ∀ f ∈ schema.fields, f.isColumn = true)
    (hselections : ∀ s ∈ path.selections, ∃ cs, Selection.ofCriteria schema cs = .ok s)
    (hkeys : ∀ k ∈ path.keys, k.field ∈ schema.fields) :
    (table (.ofRows schema rows)).along path =
      .ok (table ((TableSource.ofRows schema rows).refinedBy path)) := by
  refine along_table (fun s hs => ?_) fun k hk =>
    Field.stored_of_isColumn (hcolumns _ (hkeys k hk))
  obtain ⟨cs, hcs⟩ := hselections s hs
  exact (Condition.isFormed_ofCriteria
    (Selection.condition_of_ofCriteria hcs)).clauseFailure?_eq_none hcolumns

end Source

variable [Readable α]

/-! ## Selections of rows -/

/-- A value that a column holds can be compared with the literals of the column. -/
theorem Field.compares_of_hasKind {f : Field} {operator : Operator} {v literal : Value}
    (hv : v = .null ∨ v.HasKind (some .utc) f.kind)
    (hliteral : literal.HasKind (some .utc) f.kind) : operator.Compares v literal := by
  rcases hv with rfl | hv
  · have hequal : Value.null.Equatable literal :=
      Value.exists_equal_iff.1 ⟨false, by rw [hliteral.relate_null]; rfl⟩
    exact ⟨fun _ hnull => (nomatch hnull), fun _ => hequal⟩
  · have hrelate := Value.relate_eq hv hliteral
    have hequal : ∃ b, (v.relate literal).equal = .ok b := by
      rw [hrelate]
      exact ⟨_, rfl⟩
    have hless : ∃ b, (v.relate literal).satisfies (· == .lt) = .ok b := by
      rw [hrelate]
      exact ⟨_, rfl⟩
    exact ⟨fun _ _ => Value.exists_satisfies_iff.1 hless, fun _ => Value.exists_equal_iff.1 hequal⟩

/-- A selection of criteria has an outcome on every row that holds values of the kinds of its
columns. -/
theorem Selection.exists_selects_of_isHeld {schema : Schema} {cs : List Criterion} {s : Selection}
    {row : α} (hcolumns : ∀ f ∈ schema.fields, f.isColumn = true)
    (hrow : ∀ f ∈ schema.fields, f.IsHeld row) (h : ofCriteria schema cs = .ok s) :
    ∃ b, s.selects row = .ok b := by
  have hformed := Condition.isFormed_ofCriteria (condition_of_ofCriteria h)
  refine Condition.exists_holds_iff.2 fun f operator literal hreach => ?_
  have hcompare := hformed.of_reaches hreach
  have hf := hcompare.mem_fields
  obtain ⟨v, hv, -, hkind⟩ := Field.readNormal_of_isHeld (hcolumns f hf) (hrow f hf)
  rw [hcompare.exists_holds_iff hv]
  cases hoperator : operator.isRelational with
  | false => exact Operator.compares_of_isRelational_eq_false hoperator
  | true =>
    obtain ⟨text, hliteral⟩ := hcompare.exists_literal hoperator
    exact Field.compares_of_hasKind (hkind.imp_left And.left)
      (Field.literal_hasKind (hcolumns f hf) hliteral)

/-! ## Reading along a path -/

/-- The condition along a path has a positive outcome where the one of the table and all selections
of the path have. -/
theorem TableSource.outcome_refinedBy {row : α} :
    (t.refinedBy path).condition.outcome row = some true ↔
      t.condition.outcome row = some true ∧
        ∀ s ∈ path.selections, s.condition.outcome row = some true := by
  unfold refinedBy
  generalize path.selections = selections
  generalize t.condition = condition
  induction selections generalizing condition with
  | nil => simp
  | cons s selections ih =>
    have hboth : (Condition.and condition s.condition).outcome row = some true ↔
        condition.outcome row = some true ∧ s.condition.outcome row = some true :=
      bothOutcomes_eq_true
    rw [List.foldl_cons, ih, hboth, List.forall_mem_cons, and_assoc]

section Held

variable {schema : Schema} {rows found shared : List α} {k : SortKey}

/-- A table selects the rows on which all selections of a path have a positive outcome. -/
theorem TableSource.eq_of_selected_refinedBy
    (h : ((ofRows schema rows).refinedBy path).selected = .ok found) :
    found = rows.filter fun row => ∀ s ∈ path.selections, s.condition.outcome row = some true := by
  have houtcome (row : α) :
      ((ofRows schema rows).refinedBy path).condition.outcome row = some true ↔
        ∀ s ∈ path.selections, s.condition.outcome row = some true := by
    rw [outcome_refinedBy]
    exact and_iff_right rfl
  rw [eq_of_selected h]
  simp only [houtcome]
  rfl

/-- A table is read in the order of all sort keys of the path. -/
theorem TableSource.eq_of_all_refinedBy
    (h : ((ofRows schema rows).refinedBy path).all = .ok found) :
    found = sorted path.keys
      (rows.filter fun row => ∀ s ∈ path.selections, s.condition.outcome row = some true) := by
  obtain ⟨selected, hselected, rfl⟩ := exists_of_all h
  rw [← eq_of_selected_refinedBy hselected]
  rfl

/-- A table gives an arrangement of the rows on which all selections of a path have a positive
outcome, in the order of all sort keys of the path. -/
theorem TableSource.perm_of_gives_refinedBy
    (h : ((ofRows schema rows).refinedBy path).Gives found) :
    found.Perm (rows.filter fun row =>
        ∀ s ∈ path.selections, s.condition.outcome row = some true) ∧
      found.Pairwise fun r s => compareBy path.keys r s ≠ .gt := by
  obtain ⟨selected, hselected, hperm, hpairs⟩ := h
  rw [← eq_of_selected_refinedBy hselected]
  exact ⟨hperm, hpairs⟩

/-- A table can be read along a path if all literals of the selections fit into 64 bits. -/
theorem TableSource.exists_all_refinedBy
    (hliterals : ∀ s ∈ path.selections, ∀ v ∈ s.condition.literals, v.fitsWord = true) :
    ∃ found, ((ofRows schema rows).refinedBy path).all = .ok found := by
  have hfits : ∀ v ∈ ((ofRows schema rows).refinedBy path).condition.literals,
      v.fitsWord = true := by
    intro v hv
    rcases mem_literals_refinedBy.1 hv with hv | ⟨s, hs, hv⟩
    · cases hv
    · exact hliterals s hs v hv
  exact exists_all fun v hv => hfits v (Condition.literals_folded _ hv)

variable (hcolumns : ∀ f ∈ schema.fields, f.isColumn = true)
  (hrows : ∀ row ∈ rows, ∀ f ∈ schema.fields, f.IsHeld row)

include hcolumns hrows

/-- A list of rows gives those that the selections of a path accept, sorted by the last sort key of
the path alone. -/
theorem MemorySource.all_along_ofRows
    (hselections : ∀ s ∈ path.selections, ∃ cs, Selection.ofCriteria schema cs = .ok s)
    (hkey : path.key? = some k) (hk : k.field ∈ schema.fields) :
    ((ofOrigin schema (.own rows)).along path).all shared =
      .ok (TableSource.sorted [k] (rows.filter (path.Accepts ·))) := by
  have hselected : path.selected rows = .ok (rows.filter (path.Accepts ·)) := by
    refine Path.selected_eq fun r hr s hs => ?_
    obtain ⟨cs, hcs⟩ := hselections s hs
    exact Selection.exists_selects_of_isHeld hcolumns (hrows r hr) hcs
  have hheld : ∀ r ∈ rows.filter (path.Accepts ·), k.field.IsHeld r :=
    fun r hr => hrows r (List.mem_filter.1 hr).1 _ hk
  have hrecords : (ofOrigin schema (.own rows)).records shared = rows := rfl
  rw [all_along, hrecords, Path.read, hselected]
  show path.arranged _ = _
  rw [Path.arranged, hkey]
  exact SortKey.apply_eq_sorted (hcolumns _ hk) hheld

/-- Selections that do not look into texts accept the rows on which they have a positive outcome. -/
theorem Path.filter_accepts_eq
    (hselections : ∀ s ∈ path.selections, ∃ cs,
      Selection.ofCriteria schema cs = .ok s ∧ ∀ c ∈ cs, c.operator.isTextMatch = false) :
    rows.filter (path.Accepts ·) = rows.filter fun row =>
      ∀ s ∈ path.selections, s.condition.outcome row = some true := by
  refine List.filter_congr fun row hrow => decide_eq_decide.2 (forall₂_congr fun s hs => ?_)
  obtain ⟨cs, hcs, hmatch⟩ := hselections s hs
  have htyped := Condition.isTyped_ofCriteria hcolumns hmatch
    (Selection.condition_of_ofCriteria hcs)
  rw [Selection.selects, Condition.holds_eq_outcome hcolumns (hrows row hrow) htyped,
    Except.ok.injEq, decide_eq_true_eq]

end Held

end RecordQuery
