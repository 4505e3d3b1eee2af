import RecordQuery.Proofs.Session.Ledger
import RecordQuery.Proofs.Source.Pages
import RecordQuery.Proofs.Source.TablePath

/-!
# Searching along a path

A filter and a sort request lead from any source along the path that they ask for
(`Source.refined_eq_along`). A page of what is found there is a slice of all that is found, for a
table as for a list, as long as the bounds of the slice fit into 64 bits (`Source.page_eq`); beyond
them a table fails (`Source.table_page_eq_error`).
-/

namespace RecordQuery

variable {α : Type} {schema : Schema} {text? : Option String} {request? : Option SortRequest}

/-! ## The path of a search -/

namespace Path

variable {selection : Selection} {k : SortKey} {e : Failure}

/-- The path has no selection but this one, or none at all where this one selects everything. -/
def SelectsBy (path : Path) (selection : Selection) : Prop :=
  path.selections = [selection] ∨ path.selections = [] ∧ selection.isTrivial = true

/-- A filter that compiles leads along a path with that selection. The path is sorted by the key of
the sort request, if there is one. -/
theorem exists_refined_keys (request? : Option SortRequest)
    (hselection : Selection.ofText? schema text? = .ok selection) :
    ∃ path, refined schema [] text? request? = .ok path ∧ path.SelectsBy selection ∧
      path.keys = (SortKey.ofRequest? schema request?).toList := by
  rw [refined, ofFilter, ofSort]
  rw [Selection.ofText?] at hselection
  cases hcriteria : (Filter.ofText? text?).criteria with
  | nil =>
    rw [hcriteria] at hselection
    cases hselection
    cases SortKey.ofRequest? schema request? with
    | none => exact ⟨_, rfl, .inr ⟨rfl, rfl⟩, rfl⟩
    | some k => exact ⟨_, rfl, .inr ⟨rfl, rfl⟩, rfl⟩
  | cons c cs =>
    rw [← hcriteria, hselection, hcriteria]
    cases SortKey.ofRequest? schema request? with
    | none => exact ⟨_, rfl, .inl rfl, rfl⟩
    | some k => exact ⟨_, rfl, .inl rfl, rfl⟩

/-- A filter that compiles and a sort by a field of the schema lead along a path with that selection
and that sort key. -/
theorem exists_refined (hselection : Selection.ofText? schema text? = .ok selection)
    (hsort : SortKey.ofRequest? schema request? = some k) :
    ∃ path, refined schema [] text? request? = .ok path ∧ path.SelectsBy selection ∧
      path.keys = [k] := by
  obtain ⟨path, hpath, hselects, hkeys⟩ := exists_refined_keys request? hselection
  rw [hsort] at hkeys
  exact ⟨path, hpath, hselects, hkeys⟩

namespace SelectsBy

variable {path : Path} (h : path.SelectsBy selection)

include h

theorem eq_of_mem {s : Selection} (hs : s ∈ path.selections) : s = selection := by
  rcases h with hone | ⟨hnone, -⟩
  · rw [hone] at hs
    exact List.mem_singleton.1 hs
  · rw [hnone] at hs
    cases hs

/-- The selection alone decides what the path accepts. -/
theorem accepts_iff [Readable α] {r : α} : path.Accepts r ↔ selection.selects r = .ok true := by
  rw [Accepts]
  rcases h with hone | ⟨hnone, htrivial⟩
  · rw [hone, List.forall_mem_singleton]
  · have hconst : selection.condition = .const true := of_decide_eq_true htrivial
    rw [hnone, Selection.selects, hconst]
    refine iff_of_true ?_ rfl
    intro s hs
    cases hs

/-- Without constants, the condition of a table along the path is that of the selection. -/
theorem folded_refinedBy {rows : List α} :
    ((TableSource.ofRows schema rows).refinedBy path).condition.folded =
      selection.condition.folded := by
  rw [TableSource.refinedBy]
  rcases h with hone | ⟨hnone, htrivial⟩
  · rw [hone]
    exact Condition.both_true_left _
  · have hconst : selection.condition = .const true := of_decide_eq_true htrivial
    rw [hnone, hconst]
    rfl

end SelectsBy

/-- A filter that does not compile leads nowhere. -/
theorem refined_eq_error (h : Selection.ofText? schema text? = .error e) :
    refined schema [] text? request? = .error e := by
  rw [refined, ofFilter]
  rw [Selection.ofText?] at h
  cases hcriteria : (Filter.ofText? text?).criteria with
  | nil =>
    rw [hcriteria] at h
    cases h
  | cons c cs =>
    rw [← hcriteria, h, hcriteria]
    rfl

end Path

/-! ## Sources along the path of a search -/

namespace Source

variable {s derived : Source α} {path more : Path} {selection : Selection} {k : SortKey}

theorem along_append : s.along (path ++ more) = s.along path >>= (·.along more) := by
  induction path generalizing s with
  | nil => rfl
  | cons refinement path ih =>
    cases refinement with
    | select selection =>
      rw [List.cons_append, along, along]
      cases s.select selection with
      | error e => rfl
      | ok derived => exact ih
    | sort k =>
      rw [List.cons_append, along, along]
      cases s.sortedBy k with
      | error e => rfl
      | ok derived => exact ih

theorem schema_of_select (h : s.select selection = .ok derived) : derived.schema = s.schema := by
  cases s with
  | memory m =>
    cases h
    rfl
  | table t =>
    rw [select, TableSource.select] at h
    cases hclause : selection.condition.clauseFailure? with
    | some e =>
      rw [hclause] at h
      cases h
    | none =>
      rw [hclause] at h
      cases h
      rfl

theorem schema_of_sortedBy (h : s.sortedBy k = .ok derived) : derived.schema = s.schema := by
  cases s with
  | memory m =>
    cases h
    rfl
  | table t =>
    rw [sortedBy, TableSource.sortedBy] at h
    split at h
    · cases h
      rfl
    · cases h

/-- The sources along a path have one schema. -/
theorem schema_of_along (h : s.along path = .ok derived) : derived.schema = s.schema := by
  induction path generalizing s with
  | nil =>
    cases h
    rfl
  | cons refinement path ih =>
    cases refinement with
    | select selection =>
      obtain ⟨next, hnext, h⟩ := exists_of_bind_ok h
      rw [ih h, schema_of_select hnext]
    | sort k =>
      obtain ⟨next, hnext, h⟩ := exists_of_bind_ok h
      rw [ih h, schema_of_sortedBy hnext]

/-- The source that the text of a filter selects. -/
theorem filtered?_eq_along : (s.filtered? text?).map (·.getD s) =
    Path.ofFilter s.schema text? >>= s.along := by
  rw [filtered?, Path.ofFilter]
  split
  · rfl
  · cases Selection.ofCriteria s.schema (Filter.ofText? text?).criteria with
    | error e => rfl
    | ok selection =>
      show Except.map _ (s.select selection >>= fun derived => .ok (some derived)) =
        s.select selection >>= fun derived => derived.along []
      cases s.select selection with
      | error e => rfl
      | ok derived => rfl

/-- The source that a sort request sorts. -/
theorem sorted?_eq_along :
    (s.sorted? request?).map (·.getD s) = s.along (Path.ofSort s.schema request?) := by
  rw [sorted?, Path.ofSort]
  cases SortKey.ofRequest? s.schema request? with
  | none => rfl
  | some k =>
    show Except.map _ (s.sortedBy k >>= fun derived => .ok (some derived)) =
      s.sortedBy k >>= fun derived => derived.along []
    cases s.sortedBy k with
    | error e => rfl
    | ok derived => rfl

/-- A filter and a sort request lead along the path that they ask for. -/
theorem refined_eq_along :
    s.refined text? request? = Path.refined s.schema [] text? request? >>= s.along := by
  have hsteps : s.refined text? request? = (s.filtered? text?).map (·.getD s) >>= fun derived =>
      (derived.sorted? request?).map (·.getD derived) := by
    rw [refined]
    cases s.filtered? text? with
    | error e => rfl
    | ok derived? =>
      show (derived?.getD s).sorted? request? >>= _ = Except.map _ _
      cases (derived?.getD s).sorted? request? with
      | error e => rfl
      | ok sorted? => rfl
  rw [hsteps, filtered?_eq_along, Path.refined]
  cases Path.ofFilter s.schema text? with
  | error e => rfl
  | ok more =>
    show (s.along more >>= fun derived => (derived.sorted? request?).map (·.getD derived)) =
      s.along (more ++ Path.ofSort s.schema request?)
    rw [along_append]
    cases hderived : s.along more with
    | error e => rfl
    | ok derived =>
      show (derived.sorted? request?).map (·.getD derived) = derived.along _
      rw [sorted?_eq_along, schema_of_along hderived]

/-- What a search reads from a source is what is read at the end of the path that it asks for. -/
theorem searched_eq {β : Type} {read : Source α → Except Fault β}
    (hderived : s.along path = .ok derived)
    (hpath : Path.refined s.schema [] text? request? = .ok path) :
    Session.searched s text? request? read =
      (do return (derived.isOrdered, ← (read derived).mapError .faulty)) := by
  rw [Session.searched, refined_eq_along, hpath]
  show (s.along path >>= _) = _
  rw [hderived]
  rfl

end Source

/-! ## Pages of what is found -/

/-- The page of a list of records: a slice of it, and the number of all of its records. -/
def Page.cut (rows : List α) (page size : Int) : Except Fault (Page α) :=
  (hasNextPage page size rows.length).map fun next =>
    ⟨(rows.drop (pageOffset page size).toNat).take size.toNat, rows.length, next⟩

/-- A list that is not too long to be counted has every page. -/
theorem Page.exists_cut {rows : List α} {page size : Int}
    (hlength : rows.length < Number.twoPow 63) : ∃ p, Page.cut rows page size = .ok p := by
  obtain ⟨next, hnext⟩ := exists_hasNextPage hlength
  rw [cut, hnext]
  exact ⟨_, rfl⟩

/-- The records of a page are records of the list. -/
theorem Page.items_subset_of_cut {rows : List α} {page size : Int} {p : Page α}
    (h : Page.cut rows page size = .ok p) : p.items ⊆ rows := by
  rw [cut] at h
  cases hnext : hasNextPage page size rows.length with
  | error e =>
    rw [hnext] at h
    cases h
  | ok next =>
    rw [hnext] at h
    cases h
    exact ((List.take_sublist _ _).trans (List.drop_sublist _ _)).subset

variable [Readable α] {shared rows : List α} {offset limit page size : Int}

namespace TableSource

variable {t : TableSource α}

/-- As many rows are counted as are read. -/
theorem count_of_all (h : t.all = .ok rows) : t.count = .ok rows.length := by
  obtain ⟨selected, hselected, hrows⟩ := exists_of_bind_ok h
  cases hrows
  refine bind_eq_ok_iff.2 ⟨selected, hselected, ?_⟩
  rw [List.length_mergeSort]
  rfl

/-- A slice within 64 bits is a slice of the rows that are read, without a last row if the limit is
negative. -/
theorem fetch_of_all (h : t.all = .ok rows) (hoffset : fitsWord offset = true)
    (hlimit : fitsWord limit = true) : t.fetch offset limit =
      .ok (if limit < 0 then rows.drop offset.toNat
        else (rows.drop offset.toNat).take limit.toNat) := by
  refine bind_eq_ok_iff.2 ⟨rows, h, ?_⟩
  rw [hoffset, hlimit]
  rfl

end TableSource

namespace Source

variable {s : Source α}

/-- What a list in memory gives are the rows from the offset on, up to the limit, where a negative
offset or limit counts as zero. -/
theorem memory_fetch_eq {m : MemorySource α} (h : m.all shared = .ok rows) :
    (memory m).fetch shared offset limit =
      .ok (rows.extract (max offset 0).toNat (max offset 0 + max limit 0).toNat) := by
  have hfrom : (max offset 0).toNat = offset.toNat := by omega
  have hcount : (max offset 0 + max limit 0).toNat - offset.toNat = limit.toNat := by omega
  rw [List.extract_eq_take_drop, hfrom, hcount]
  exact MemorySource.fetch_of_all h offset limit

/-- A table and a list of the same rows in the same order give the same slice within 64 bits if and
only if the limit is not negative or no row is left behind the offset. -/
theorem table_fetch_eq_iff {t : TableSource α} {m : MemorySource α} (ht : t.all = .ok rows)
    (hm : m.all shared = .ok rows) (hoffset : fitsWord offset = true)
    (hlimit : fitsWord limit = true) :
    (table t).fetch shared offset limit = (memory m).fetch shared offset limit ↔
      0 ≤ limit ∨ (rows.length : Int) ≤ max offset 0 := by
  have htable : (table t).fetch shared offset limit = _ := TableSource.fetch_of_all ht hoffset hlimit
  have hmemory : (memory m).fetch shared offset limit = _ :=
    MemorySource.fetch_of_all hm offset limit
  rw [htable, hmemory, Except.ok.injEq]
  by_cases hneg : limit < 0
  · have hzero : limit.toNat = 0 := by omega
    rw [if_pos hneg, hzero, List.take_zero, List.drop_eq_nil_iff]
    omega
  · rw [if_neg hneg]
    exact iff_of_true rfl (.inl (Int.not_lt.1 hneg))

/-- A page within 64 bits is the page of the rows that are read. -/
theorem page_eq (h : s.all shared = .ok rows) (hsize : 0 < size)
    (hoffset : fitsWord (pageOffset page size) = true) (hlimit : fitsWord size = true) :
    s.page shared page size = Page.cut rows page size := by
  have hreads : s.count shared = .ok rows.length ∧
      s.fetch shared (pageOffset page size) size =
        .ok ((rows.drop (pageOffset page size).toNat).take size.toNat) := by
    cases s with
    | memory m => exact ⟨MemorySource.count_of_all h, MemorySource.fetch_of_all h _ _⟩
    | table t =>
      refine ⟨TableSource.count_of_all h, ?_⟩
      have hfetch := TableSource.fetch_of_all h hoffset hlimit
      rwa [if_neg (by omega)] at hfetch
  rw [Source.page, hreads.1]
  dsimp only [bind, Except.bind]
  rw [if_pos hsize, hreads.2, Page.cut]
  cases hasNextPage page size rows.length with
  | error e => rfl
  | ok next => rfl

/-- A page of a table beyond 64 bits fails, whatever rows there are. -/
theorem table_page_eq_error {t : TableSource α} (h : t.all = .ok rows) (hsize : 0 < size)
    (hfits : (fitsWord (pageOffset page size) && fitsWord size) = false) :
    (table t).page shared page size = .error .outOfRange := by
  have hcount : (table t).count shared = .ok rows.length := TableSource.count_of_all h
  have hfetch : (table t).fetch shared (pageOffset page size) size = .error .outOfRange := by
    show t.fetch _ _ = _
    rw [TableSource.fetch, h]
    dsimp only [bind, Except.bind]
    rw [hfits]
    rfl
  rw [Source.page, hcount]
  dsimp only [bind, Except.bind]
  rw [if_pos hsize, hfetch]

/-- A page of a table fails if one of the literals that are left without constants does not fit into
64 bits. -/
theorem table_page_eq_error_of_literal {t : TableSource α} {v : Value}
    (hv : v ∈ t.condition.folded.literals) (hfits : v.fitsWord = false) :
    (table t).page shared page size = .error .outOfRange := by
  have hcount : (table t).count shared = .error .outOfRange := by
    show t.count = _
    rw [TableSource.count, TableSource.selected_eq_error hv hfits]
    rfl
  rw [Source.page, hcount]
  rfl

/-- A table whose rows can be counted has every page within 64 bits. -/
theorem exists_table_page {t : TableSource α} (hsize : 0 < size)
    (hlength : t.rows.length < Number.twoPow 63)
    (hliterals : ∀ v ∈ t.condition.folded.literals, v.fitsWord = true)
    (hoffset : fitsWord (pageOffset page size) = true) (hlimit : fitsWord size = true) :
    ∃ p, (table t).page shared page size = .ok p ∧ p.items ⊆ t.rows := by
  have hread : ∃ rows, (table t).all shared = .ok rows := TableSource.exists_all hliterals
  obtain ⟨rows, hall⟩ := hread
  have hrows := TableSource.eq_of_all hall
  have hsubset : rows ⊆ t.rows := by
    rw [hrows]
    exact fun r hr => (List.mem_filter.1 (TableSource.sorted_perm.mem_iff.1 hr)).1
  have hcount : rows.length ≤ t.rows.length := by
    rw [hrows, TableSource.sorted_perm.length_eq]
    exact List.length_filter_le ..
  obtain ⟨p, hp⟩ := Page.exists_cut (Nat.lt_of_le_of_lt hcount hlength)
  exact ⟨p, (page_eq hall hsize hoffset hlimit).trans hp,
    fun r hr => hsubset (Page.items_subset_of_cut hp hr)⟩

end Source

end RecordQuery
