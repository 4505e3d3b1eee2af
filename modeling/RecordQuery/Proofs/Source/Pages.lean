import RecordQuery.Document.Basic
import RecordQuery.Proofs.Fault
import RecordQuery.Proofs.Page
import RecordQuery.Proofs.Sorting.Key
import RecordQuery.Source.Basic

/-!
# Reading page by page

A list in memory whose records can be read has every page, with the number of all records as its
total (`Source.memory_page_eq`). Reading on from a page as long as another one follows ends, and
gives the records from that page on (`Source.exists_readsPages`); whatever is read that way is that
(`ReadsPages.unique`).
-/

namespace RecordQuery

variable {α : Type}

/-- The pages that are read from a page on, going on to the next page as long as one follows. -/
inductive ReadsPages (read : Int → Except Fault (Page α)) : Int → List (Page α) → Prop where
  /-- No page follows the page. -/
  | last {p : Int} {page : Page α} (hread : read p = .ok page) (hnext : page.hasNext = false) :
    ReadsPages read p [page]
  /-- A page follows the page. -/
  | next {p : Int} {page : Page α} {pages : List (Page α)} (hread : read p = .ok page)
    (hnext : page.hasNext = true) (hrest : ReadsPages read (p + 1) pages) :
    ReadsPages read p (page :: pages)

theorem ReadsPages.unique {read : Int → Except Fault (Page α)} {p : Int}
    {pages others : List (Page α)} (h : ReadsPages read p pages)
    (hothers : ReadsPages read p others) : others = pages := by
  induction h generalizing others with
  | last hread hnext =>
    cases hothers with
    | last hread' _ =>
      cases hread.symm.trans hread'
      rfl
    | next hread' hnext' _ =>
      cases hread.symm.trans hread'
      exact absurd (hnext.symm.trans hnext') Bool.false_ne_true
  | next hread hnext _ ih =>
    cases hothers with
    | last hread' hnext' =>
      cases hread.symm.trans hread'
      exact absurd (hnext'.symm.trans hnext) Bool.false_ne_true
    | next hread' _ hrest' =>
      cases hread.symm.trans hread'
      rw [ih hrest']

variable [Readable α] {m : MemorySource α} {shared rows : List α}

namespace MemorySource

/-- As many records are counted as are read. -/
theorem count_of_all (h : m.all shared = .ok rows) : m.count shared = .ok rows.length := by
  obtain ⟨selected, hselected, hrows⟩ := exists_of_bind_ok h
  have hlength : selected.length = rows.length := by
    split at hrows
    · cases hrows
      rfl
    · exact (SortKey.perm_of_apply hrows).length_eq.symm
  exact bind_eq_ok_iff.2 ⟨selected, hselected, by rw [hlength]; rfl⟩

theorem fetch_of_all (h : m.all shared = .ok rows) (offset limit : Int) :
    m.fetch shared offset limit = .ok ((rows.drop offset.toNat).take limit.toNat) :=
  bind_eq_ok_iff.2 ⟨rows, h, rfl⟩

end MemorySource

namespace Source

/-- The pages of a list in memory. -/
theorem memory_page_eq {size : Nat} (h : m.all shared = .ok rows) (hlen : rows.length ≤ 2 ^ 53)
    (hsize : 0 < size) (q : Nat) :
    (memory m).page shared (q + 1 : Nat) size = .ok ⟨(rows.drop (q * size)).take size, rows.length,
      decide ((q + 1) * size < rows.length)⟩ := by
  have hoffset : (pageOffset (q + 1 : Nat) size).toNat = q * size := by
    have : pageOffset (q + 1 : Nat) size = (q * size : Nat) := by
      rw [pageOffset]
      push_cast
      ring
    rw [this, Int.toNat_natCast]
  have hfetch := MemorySource.fetch_of_all h (pageOffset (q + 1 : Nat) size) size
  rw [hoffset, Int.toNat_natCast] at hfetch
  have hpositive : (0 : Int) < size := by exact_mod_cast hsize
  refine bind_eq_ok_iff.2 ⟨_, MemorySource.count_of_all h, ?_⟩
  dsimp only
  rw [if_pos hpositive]
  exact bind_eq_ok_iff.2 ⟨_, hfetch, bind_eq_ok_iff.2 ⟨_, hasNextPage_eq q.succ_pos hsize hlen, rfl⟩⟩

/-- Reading on from a page ends, with the records from that page on. -/
theorem exists_readsPages {size : Nat} (h : m.all shared = .ok rows) (hlen : rows.length ≤ 2 ^ 53)
    (hsize : 0 < size) (q : Nat) :
    ∃ pages, ReadsPages (fun p => (memory m).page shared p size) (q + 1 : Nat) pages ∧
      pages.flatMap Page.items = rows.drop (q * size) := by
  -- with every page fewer records are left
  induction hleft : rows.length - q * size using Nat.strongRecOn generalizing q with
  | ind left ih =>
    have hread := memory_page_eq h hlen hsize q
    have hsucc : (q + 1) * size = q * size + size := Nat.succ_mul q size
    by_cases hnext : (q + 1) * size < rows.length
    · obtain ⟨pages, hpages, hitems⟩ := ih (rows.length - (q + 1) * size) (by omega) (q + 1) rfl
      refine ⟨_, .next hread (decide_eq_true hnext) (by exact_mod_cast hpages), ?_⟩
      rw [List.flatMap_cons, hitems, hsucc, ← List.drop_drop, List.take_append_drop]
    · refine ⟨_, .last hread (decide_eq_false hnext), ?_⟩
      rw [List.flatMap_cons, List.flatMap_nil, List.append_nil]
      exact List.take_of_length_le (by rw [List.length_drop]; omega)

/-- A list in memory is read page by page: a page holds the slice of the records that its number and
the size of a page say, its total is the number of all records, and a page follows it exactly if the
next page holds a record. Reading from the first page on ends with the last page, and has then read
every record once and in order. -/
theorem memory_pages {size : Int} (h : m.all shared = .ok rows) (hlen : rows.length ≤ 2 ^ 53)
    (hsize : 1 ≤ size) :
    (∀ p : Int, 1 ≤ p → ∃ page next, (memory m).page shared p size = .ok page ∧
      (memory m).page shared (p + 1) size = .ok next ∧ page.total = rows.length ∧
      page.items = rows.extract ((p - 1) * size).toNat (p * size).toNat ∧
      (page.hasNext = true ↔ next.items ≠ [])) ∧
    ∃ pages, (∀ others, ReadsPages (fun p => (memory m).page shared p size) 1 others ↔
      others = pages) ∧ pages.flatMap Page.items = rows := by
  obtain ⟨size, rfl⟩ := Int.eq_ofNat_of_zero_le (by omega : 0 ≤ size)
  have hsize' : 0 < size := by omega
  constructor
  · intro p hp
    obtain ⟨q, hq⟩ := Int.eq_ofNat_of_zero_le (by omega : 0 ≤ p - 1)
    obtain rfl : p = (q + 1 : Nat) := by omega
    refine ⟨_, _, memory_page_eq h hlen hsize' q, memory_page_eq h hlen hsize' (q + 1), rfl, ?_, ?_⟩
    · have hfrom : (((q + 1 : Nat) : Int) - 1) * size = (q * size : Nat) := by
        rw [hq]
        push_cast
        ring
      have hto : ((q + 1 : Nat) : Int) * size = ((q + 1) * size : Nat) := by push_cast; ring
      rw [hfrom, hto, Int.toNat_natCast, Int.toNat_natCast, List.extract_eq_take_drop,
        Nat.succ_mul, Nat.add_sub_cancel_left]
    · rw [decide_eq_true_iff, ne_eq, List.take_eq_nil_iff, List.drop_eq_nil_iff]
      omega
  · obtain ⟨pages, hpages, hitems⟩ := exists_readsPages h hlen hsize' 0
    refine ⟨pages, fun others => ⟨fun hothers => hpages.unique hothers, ?_⟩, ?_⟩
    · rintro rfl
      exact hpages
    · rw [hitems, Nat.zero_mul, List.drop_zero]

/-- Three of four records in descending order, two on a page. -/
theorem memory_pages_sorted :
    let size : Field := ⟨"size", .numeric, some .int, false, .entry, false⟩
    let record (n : Int) : Record := ⟨[("size", .int n)]⟩
    let m : MemorySource Record := ⟨Document.schema, .shared,
      [⟨"Record", .compare size .greaterThan (.int 1), rfl⟩], some ⟨size, true⟩⟩
    let shared := [record 1, record 4, record 3, record 2]
    let rows := [record 4, record 3, record 2]
    m.all shared = .ok rows ∧ rows.length ≤ 2 ^ 53 ∧ (1 : Int) ≤ 2 ∧
      ∃ pages, (∀ others, ReadsPages (fun p => (memory m).page shared p 2) 1 others ↔
        others = pages) ∧ pages.flatMap Page.items = rows := by
  intro size record m shared rows
  have hrows : m.all shared = .ok rows := rfl
  have hlen : rows.length ≤ 2 ^ 53 := by decide
  exact ⟨hrows, hlen, by decide, (memory_pages hrows hlen (by decide)).2⟩

end Source

end RecordQuery
