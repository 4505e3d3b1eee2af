import Mathlib.Data.List.Pairwise
import RecordQuery.Proofs.Sorting.Arranged
import RecordQuery.Proofs.Source.Agreement

/-!
# Rows in the order of a key

Cells are in a total order, and so are rows by a list of keys, ties allowed. Values of the kind of a
column precede each other as their cells do, so a list of rows is sorted by a key as a table is
(`SortKey.apply_eq_sorted`). Rows that a table gives by several keys are in the order of the last of
them exactly if the keys before it put no two rows the other way round
(`TableSource.arranged_append_iff`).

What a table gives is any arrangement of its selected rows in the order of its keys
(`TableSource.Gives`). Only rows of which no two tie by all keys have one arrangement
(`TableSource.eq_of_pairwise`).
-/

namespace RecordQuery

open Std

/-! ## The order of cells -/

section NotGreater

variable {β : Type} (cmp : β → β → Ordering) [TransCmp cmp]

theorem notGreater_trans (a b c : β) (hab : (cmp a b != .gt) = true)
    (hbc : (cmp b c != .gt) = true) : (cmp a c != .gt) = true := by
  simp only [bne_iff_ne, ne_eq, Ordering.ne_gt_iff_isLE] at *
  exact TransCmp.isLE_trans hab hbc

theorem notGreater_total (a b : β) : (cmp a b != .gt || cmp b a != .gt) = true := by
  have hswap : cmp b a = (cmp a b).swap := OrientedCmp.eq_swap
  rw [hswap]
  cases cmp a b <;> rfl

end NotGreater

/-- Cells are in a total order. -/
instance : TransCmp Cell.compare where
  eq_swap {c d} := by
    cases c with
    | null => cases d <;> rfl
    | int m =>
      cases d with
      | int n => exact OrientedOrd.eq_swap (α := Int)
      | _ => rfl
    | text s =>
      cases d with
      | text t => exact OrientedOrd.eq_swap (α := String)
      | _ => rfl
  isLE_trans {c d e} hcd hde := by
    cases c with
    | null => cases e <;> rfl
    | int m =>
      cases d with
      | null => cases hcd
      | int n =>
        cases e with
        | null => cases hde
        | int l => exact TransOrd.isLE_trans (α := Int) hcd hde
        | text u => rfl
      | text t =>
        cases e with
        | null | int => cases hde
        | text u => rfl
    | text s =>
      cases d with
      | null | int => cases hcd
      | text t =>
        cases e with
        | null | int => cases hde
        | text u => exact TransOrd.isLE_trans (α := String) hcd hde

theorem Cell.compare_swap (c d : Cell) : c.compare d = (d.compare c).swap := OrientedCmp.eq_swap

variable {α : Type} [Readable α]

namespace TableSource

variable {keys more : List SortKey} {r s t : α}

/-- Rows are in a total order by one key. -/
theorem transCmp_cell (k : SortKey) : TransCmp fun r s : α =>
    let o := (k.field.cell r).compare (k.field.cell s)
    if k.descending then o.swap else o := by
  have hcells : TransCmp fun r s : α => (k.field.cell r).compare (k.field.cell s) :=
    { eq_swap := Cell.compare_swap _ _
      isLE_trans := TransCmp.isLE_trans }
  cases k.descending with
  | false => exact hcells
  | true =>
    have hswap : (fun r s : α => ((k.field.cell r).compare (k.field.cell s)).swap) =
        fun r s => (k.field.cell s).compare (k.field.cell r) := by
      funext r s
      exact (Cell.compare_swap _ _).symm
    simp only [if_true, hswap]
    exact { eq_swap := Cell.compare_swap _ _
            isLE_trans := fun hrs hst => hcells.isLE_trans hst hrs }

/-- Rows are in a total order by a list of keys, in which they may tie. -/
instance transCmp_compareBy (keys : List SortKey) : TransCmp (compareBy (α := α) keys) := by
  induction keys with
  | nil => exact { eq_swap := rfl, isLE_trans := fun _ _ => rfl }
  | cons k keys ih =>
    have hfirst := transCmp_cell (α := α) k
    exact inferInstanceAs (TransCmp (compareLex _ (compareBy keys)))

/-- Rows are compared by the keys in front, then by the others. -/
theorem compareBy_append :
    compareBy (keys ++ more) r s = (compareBy keys r s).then (compareBy more r s) := by
  induction keys with
  | nil => rfl
  | cons k keys ih => rw [List.cons_append, compareBy, compareBy, ih, Ordering.then_assoc]

/-- The keys in front decide, unless the rows tie by them. -/
theorem compareBy_append_ne_gt : compareBy (keys ++ more) r s ≠ .gt ↔
    compareBy keys r s = .lt ∨ compareBy keys r s = .eq ∧ compareBy more r s ≠ .gt := by
  rw [compareBy_append]
  cases compareBy keys r s <;> simp [Ordering.then]

/-- Whether two rows tie does not depend on which of them comes first. -/
theorem compareBy_ne_eq_symm (h : compareBy keys r s ≠ .eq) : compareBy keys s r ≠ .eq := by
  rwa [ne_eq, OrientedCmp.eq_comm]

/-! ## Rows sorted by keys -/

/-- The rows in the order of the keys. -/
def sorted (keys : List SortKey) (rows : List α) : List α :=
  rows.mergeSort fun r s => compareBy keys r s != .gt

variable {rows : List α}

theorem sorted_perm : (sorted keys rows).Perm rows := List.mergeSort_perm ..

theorem pairwise_sorted : (sorted keys rows).Pairwise fun r s => compareBy keys r s ≠ .gt :=
  (List.pairwise_mergeSort (notGreater_trans (compareBy keys))
    (notGreater_total (compareBy keys)) rows).imp bne_iff_ne.1

/-- In the order of the keys, of two rows the one that is less comes first. -/
theorem rel_of_pairwise_of_lt {R : α → α → Prop}
    (hrows : rows.Pairwise fun r s => compareBy keys r s ≠ .gt) (h : rows.Pairwise R)
    (hr : r ∈ rows) (hs : s ∈ rows) (hlt : compareBy keys r s = .lt) : R r s := by
  let InOrder (r s : α) : Prop := compareBy keys r s ≠ .gt ∧ R r s
  have hpairs : rows.Pairwise fun r s => InOrder r s ∨ InOrder s r := (hrows.and h).imp Or.inl
  have : Std.Symm fun r s => InOrder r s ∨ InOrder s r := ⟨fun _ _ => Or.symm⟩
  have hne : r ≠ s := by
    rintro rfl
    have hself : compareBy keys r r = .eq := ReflCmp.compare_self
    cases hlt.symm.trans hself
  rcases hpairs.forall hr hs hne with hrs | hsr
  · exact hrs.2
  · exact absurd (OrientedCmp.gt_iff_lt.2 hlt) hsr.1

/-- Rows of which no two tie have one arrangement in the order of the keys. -/
theorem eq_of_pairwise {found : List α}
    (hstrict : rows.Pairwise fun r s => compareBy keys r s ≠ .eq) (hperm : found.Perm rows)
    (hfound : found.Pairwise fun r s => compareBy keys r s ≠ .gt)
    (hrows : rows.Pairwise fun r s => compareBy keys r s ≠ .gt) : found = rows := by
  refine List.Perm.eq_of_pairwise (fun r s hr hs hrs hsr => ?_) hfound hrows hperm
  by_contra hne
  have : Std.Symm fun r s : α => compareBy keys r s ≠ .eq := ⟨fun _ _ => compareBy_ne_eq_symm⟩
  have htie := hstrict.forall (hperm.mem_iff.1 hr) hs hne
  cases h : compareBy keys r s with
  | lt => exact hsr (OrientedCmp.gt_iff_lt.2 h)
  | eq => exact htie h
  | gt => exact hrs h

/-- Rows in the order of some keys are in the order of these behind others if and only if they are
in the order of the others. -/
theorem pairwise_append_iff (h : rows.Pairwise fun r s => compareBy more r s ≠ .gt) :
    (rows.Pairwise fun r s => compareBy (keys ++ more) r s ≠ .gt) ↔
      rows.Pairwise fun r s => compareBy keys r s ≠ .gt := by
  constructor
  · refine fun hpairs => hpairs.imp fun hrs hgt => ?_
    rcases compareBy_append_ne_gt.1 hrs with hlt | ⟨htie, -⟩
    · cases hlt.symm.trans hgt
    · cases htie.symm.trans hgt
  · refine fun hkeys => hkeys.imp₂ (fun r s hrs hmore => compareBy_append_ne_gt.2 ?_) h
    cases hcompare : compareBy keys r s with
    | lt => exact .inl rfl
    | eq => exact .inr ⟨rfl, hmore⟩
    | gt => exact absurd hcompare hrs

end TableSource

/-! ## Sorting a list of rows -/

namespace SortKey

open TableSource

variable {k : SortKey} {rows : List α} {kind : FieldKind} {v w : Value}

/-- A value of a kind, or none, precedes another one as its cell does. -/
theorem precedes_eq (hv : v = .null ∨ v.HasKind (some .utc) kind)
    (hw : w = .null ∨ w.HasKind (some .utc) kind) :
    precedes v w = .ok (v.stored.compare w.stored == .lt) := by
  have hstored (c : Cell) (hc : c ≠ .null) : Cell.null.compare c = .lt ∧ c.compare .null = .gt := by
    cases c with
    | null => exact absurd rfl hc
    | int | text => exact ⟨rfl, rfl⟩
  rcases hv with rfl | hv
  · rcases hw with rfl | hw
    · rfl
    · have hnull : Value.null.stored = .null := rfl
      rw [precedes, hw.isNull, hnull, (hstored _ hw.stored_ne).1]
      rfl
  · rcases hw with rfl | hw
    · have hnull : Value.null.stored = .null := rfl
      rw [precedes, hv.isNull, hnull, (hstored _ hv.stored_ne).2]
      rfl
    · rw [precedes, hv.isNull, hw.isNull, Value.relate_eq hv hw]
      cases v.stored.compare w.stored <;> rfl

/-- A value of a kind, or none, equals another one as its cell does. -/
theorem equal_relate_eq (hv : v = .null ∨ v.HasKind (some .utc) kind)
    (hw : w = .null ∨ w.HasKind (some .utc) kind) :
    (v.relate w).equal = .ok (v.stored.compare w.stored == .eq) := by
  rcases hv with rfl | hv
  · rcases hw with rfl | hw
    · rfl
    · rw [hw.relate_null]
      cases hw <;> rfl
  · rcases hw with rfl | hw
    · cases hv <;> rfl
    · rw [Value.relate_eq hv hw]
      rfl

/-- The cell of the first row is not greater than the one of the second. -/
def cellsInOrder (k : SortKey) (r s : α) : Bool :=
  (k.field.cell r).compare (k.field.cell s) != .gt

/-- The order of the cells tells which value precedes which. -/
theorem isDecidedBy_cells (hk : k.field.isColumn = true) (hrows : ∀ r ∈ rows, k.field.IsHeld r) :
    k.IsDecidedBy rows k.cellsInOrder := by
  intro r hr s hs
  obtain ⟨v, hv, hvcell, hvkind⟩ := Field.readNormal_of_isHeld hk (hrows r hr)
  obtain ⟨w, hw, hwcell, hwkind⟩ := Field.readNormal_of_isHeld hk (hrows s hs)
  refine ⟨v, w, hv, hw, ?_⟩
  rw [precedes_eq (hvkind.imp_left And.left) (hwkind.imp_left And.left), cellsInOrder, hvcell,
    hwcell, Cell.compare_swap w.stored]
  cases v.stored.compare w.stored <;> rfl

/-- In the direction of a key, rows are compared by the key. -/
theorem directed_cellsInOrder :
    k.directed k.cellsInOrder = fun r s : α => compareBy [k] r s != .gt := by
  funext r s
  rw [directed, compareBy, compareBy, Ordering.then_eq, cellsInOrder, cellsInOrder]
  split
  · rw [Cell.compare_swap]
  · rfl

/-- Rows with different values are in a strict order by the key. -/
theorem compareBy_ne_eq {r s : α} (hk : k.field.isColumn = true) (hr : k.field.IsHeld r)
    (hs : k.field.IsHeld s) (h : k.Separates r s) : compareBy [k] r s ≠ .eq := by
  obtain ⟨v, hv, hvcell, hvkind⟩ := Field.readNormal_of_isHeld hk hr
  obtain ⟨w, hw, hwcell, hwkind⟩ := Field.readNormal_of_isHeld hk hs
  obtain ⟨v', w', hv', hw', hequal⟩ := h
  cases hv.symm.trans hv'
  cases hw.symm.trans hw'
  rw [equal_relate_eq (hvkind.imp_left And.left) (hwkind.imp_left And.left), Except.ok.injEq,
    beq_eq_false_iff_ne] at hequal
  rw [compareBy, compareBy, Ordering.then_eq, hvcell, hwcell]
  split
  · rwa [ne_eq, Ordering.swap_eq_eq]
  · exact hequal

section Held

variable (hk : k.field.isColumn = true) (hrows : ∀ r ∈ rows, k.field.IsHeld r)

include hk hrows

/-- A list of rows is sorted by a key as a table is. -/
theorem apply_eq_sorted : k.apply rows = .ok (sorted [k] rows) := by
  rw [sorted, ← directed_cellsInOrder]
  exact apply_eq_mergeSort (fun r s t => notGreater_trans Cell.compare _ _ _)
    (fun r s => notGreater_total Cell.compare _ _) (isDecidedBy_cells hk hrows)

/-- Rows are in the order of a key if no row is greater by it than a later one. -/
theorem arranged_iff_pairwise :
    k.Arranged rows ↔ rows.Pairwise fun r s => compareBy [k] r s ≠ .gt := by
  rw [arranged_iff (isDecidedBy_cells hk hrows), directed_cellsInOrder]
  simp only [bne_iff_ne]

/-- The same rows in another order are in the order of a key as their cells say. -/
theorem arranged_iff_of_perm {other : List α} (h : other.Perm rows) :
    k.Arranged other ↔ other.Pairwise fun r s => compareBy [k] r s ≠ .gt :=
  arranged_iff_pairwise hk fun r hr => hrows r (h.mem_iff.1 hr)

/-- Rows that are sorted by a key are in its order. -/
theorem arranged_sorted : k.Arranged (sorted [k] rows) :=
  (arranged_iff_of_perm hk hrows sorted_perm).2 pairwise_sorted

/-- Rows with pairwise different values have one arrangement in the order of the key. -/
theorem perm_arranged_iff (hseparates : rows.Pairwise k.Separates) {other : List α} :
    other.Perm rows ∧ k.Arranged other ↔ other = sorted [k] rows := by
  constructor
  · rintro ⟨hother, hordered⟩
    rw [arranged_iff_of_perm hk hrows hother] at hordered
    have hstrict : rows.Pairwise fun r s => compareBy [k] r s ≠ .eq :=
      hseparates.imp_of_mem fun hr hs => compareBy_ne_eq hk (hrows _ hr) (hrows _ hs)
    exact eq_of_pairwise ((sorted_perm.pairwise_iff compareBy_ne_eq_symm).2 hstrict)
      (hother.trans sorted_perm.symm) hordered pairwise_sorted
  · rintro rfl
    exact ⟨sorted_perm, arranged_sorted hk hrows⟩

end Held

end SortKey

/-! ## What a table gives -/

namespace TableSource

variable {k : SortKey} {earlier : List SortKey} {rows found other : List α} {t : TableSource α}

/-- The selected rows are those on which the condition of the table has a positive outcome. -/
theorem eq_of_selected (h : t.selected = .ok rows) :
    rows = t.rows.filter fun row => t.condition.outcome row = some true := by
  obtain ⟨c, hc, hrows⟩ := exists_of_bind_ok h
  rw [runnable] at hc
  split at hc
  · cases hc
    cases hrows
    simp only [Condition.outcome_folded]
  · cases hc

/-- The rows that are read are the selected ones, sorted by the keys of the table. -/
theorem exists_of_all (h : t.all = .ok found) :
    ∃ rows, t.selected = .ok rows ∧ found = sorted t.keys rows := by
  obtain ⟨rows, hrows, h⟩ := exists_of_bind_ok h
  cases h
  exact ⟨rows, hrows, rfl⟩

theorem eq_of_all (h : t.all = .ok found) :
    found = sorted t.keys (t.rows.filter fun row => t.condition.outcome row = some true) := by
  obtain ⟨rows, hrows, rfl⟩ := exists_of_all h
  rw [← eq_of_selected hrows]

/-- The rows are read in an order in which the table may give them. -/
theorem gives_of_all (h : t.all = .ok found) : t.Gives found := by
  obtain ⟨rows, hrows, rfl⟩ := exists_of_all h
  exact ⟨rows, hrows, sorted_perm, pairwise_sorted⟩

/-- A table may give its rows in any arrangement in which no row is greater by its keys than a later
one. -/
theorem Gives.gives_iff (h : t.Gives found) :
    t.Gives other ↔ other.Perm found ∧ other.Pairwise fun r s => compareBy t.keys r s ≠ .gt := by
  obtain ⟨rows, hrows, hfound, -⟩ := h
  constructor
  · rintro ⟨rows', hrows', hother, hpairs⟩
    cases hrows.symm.trans hrows'
    exact ⟨hother.trans hfound.symm, hpairs⟩
  · rintro ⟨hother, hpairs⟩
    exact ⟨rows, hrows, hother.trans hfound, hpairs⟩

/-- In the order of several keys, rows are in the order of the last key if and only if the keys
before it put no two of them the other way round. -/
theorem arranged_append_iff (hk : k.field.isColumn = true) (hrows : ∀ r ∈ rows, k.field.IsHeld r)
    (hpairs : rows.Pairwise fun r s => compareBy (earlier ++ [k]) r s ≠ .gt) :
    k.Arranged rows ↔
      ∀ r ∈ rows, ∀ s ∈ rows, compareBy earlier r s = .lt → compareBy [k] r s ≠ .gt := by
  rw [SortKey.arranged_iff_pairwise hk hrows]
  constructor
  · intro harranged r hr s hs hlt
    refine rel_of_pairwise_of_lt (R := fun r s => compareBy [k] r s ≠ .gt) hpairs harranged hr hs ?_
    rw [compareBy_append, hlt]
    rfl
  · intro hagree
    refine hpairs.imp_of_mem fun hr hs hrs => ?_
    rcases compareBy_append_ne_gt.1 hrs with hlt | ⟨-, hlast⟩
    · exact hagree _ hr _ hs hlt
    · exact hlast

end TableSource

end RecordQuery
