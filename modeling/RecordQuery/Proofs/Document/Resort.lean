import RecordQuery.Proofs.Document.Table
import RecordQuery.Proofs.Source.TablePath

/-!
# Sorting documents again

A list of documents that is sorted again is in the order of the last sort, whatever the sorts before
it were. A table of the same documents leaves the order of the sorts before it as it is, so it is in
the order of the last sort exactly if these put no two of its documents the other way round, and it
may give the documents as the list does exactly if they put none of the list's the other way round
(`table_along_iff`). How documents stand that tie by all sorts is left to the table.
-/

namespace RecordQuery.Document

open TableSource

/-- A list in memory of the documents as a table stores them. -/
def listed (documents : List Document) : Source Document :=
  .memory (.ofOrigin schema (.own (documents.map stored)))

variable {documents shared : List Document}

/-- Along a path of selections and sorts, a list of documents is in the order of the last sort.
Whatever order a table of them gives, it is the order of the last sort exactly if the sorts before
it put no two of its documents the other way round. If no selection looks into texts, the table
gives the documents that the list gives. It may give them in the order of the list exactly if the
sorts before the last put no two documents of the list the other way round, and where no two
documents tie by all sorts, it gives this order exactly then. -/
theorem table_along_iff {path : Path} {k : SortKey} (hcomplete : ∀ d ∈ documents, d.IsComplete)
    (hselections : ∀ s ∈ path.selections, ∃ cs, Selection.ofCriteria schema cs = .ok s)
    (hkeys : ∀ key ∈ path.keys, key.field ∈ schema.fields) (hkey : path.key? = some k) :
    ∃ t inList rows, (table documents).along path = .ok (.table t) ∧
      (listed documents).along path = .ok inList ∧ inList.all shared = .ok rows ∧
      k.Arranged rows ∧
      ((∀ s ∈ path.selections, ∀ v ∈ s.condition.literals, v.fitsWord = true) →
        ∃ found, t.all = .ok found) ∧
      (∀ found, t.all = .ok found → t.Gives found) ∧
      ∀ found, t.Gives found →
        (k.Arranged found ↔ ∀ r ∈ found, ∀ s ∈ found,
          compareBy path.keys.dropLast r s = .lt → compareBy [k] r s ≠ .gt) ∧
        ((∀ s ∈ path.selections, ∃ cs,
            Selection.ofCriteria schema cs = .ok s ∧ ∀ c ∈ cs, c.operator.isTextMatch = false) →
          found.Perm rows ∧
            (t.Gives rows ↔ rows.Pairwise fun r s => compareBy path.keys.dropLast r s ≠ .gt) ∧
            ((rows.Pairwise fun r s => compareBy path.keys r s ≠ .eq) →
              (found = rows ↔
                rows.Pairwise fun r s => compareBy path.keys.dropLast r s ≠ .gt))) := by
  have hrows := isHeld_of_mem hcomplete
  have hk : k.field ∈ schema.fields :=
    hkeys k (List.mem_of_getLast? hkey)
  have hlast := Path.keys_eq_append hkey
  have hheld {p : Document → Bool} :
      ∀ r ∈ (documents.map stored).filter p, k.field.IsHeld r := fun r hr =>
    hrows r (List.mem_filter.1 hr).1 _ hk
  let rows := sorted [k] ((documents.map stored).filter (path.Accepts ·))
  -- the list is in the order of the last sort, so the sorts before it decide
  have hdecide : (rows.Pairwise fun r s => compareBy path.keys r s ≠ .gt) ↔
      rows.Pairwise fun r s => compareBy path.keys.dropLast r s ≠ .gt := by
    rw [hlast, List.dropLast_concat]
    exact pairwise_append_iff pairwise_sorted
  refine ⟨_, _, rows, Source.along_ofRows isColumn_of_mem hselections hkeys, Source.along_memory,
    MemorySource.all_along_ofRows isColumn_of_mem hrows hselections hkey hk,
    SortKey.arranged_sorted (isColumn_of_mem _ hk) hheld,
    fun hliterals => exists_all_refinedBy hliterals, fun found => gives_of_all,
    fun found hgives => ?_⟩
  obtain ⟨hperm, hpairs⟩ := perm_of_gives_refinedBy hgives
  refine ⟨?_, fun hmatch => ?_⟩
  · rw [hlast] at hpairs
    exact arranged_append_iff (isColumn_of_mem _ hk)
      (fun r hr => hheld r (hperm.mem_iff.1 hr)) hpairs
  · rw [← Path.filter_accepts_eq isColumn_of_mem hrows hmatch] at hperm
    have hfound : found.Perm rows := hperm.trans sorted_perm.symm
    refine ⟨hfound, ?_, fun hstrict => ?_⟩
    · rw [hgives.gives_iff, ← hdecide]
      exact and_iff_right hfound.symm
    · rw [← hdecide]
      exact ⟨fun heq => heq ▸ hpairs, eq_of_pairwise hstrict hfound hpairs⟩

/-- A contract with a number, a name and a size. -/
def contract (number : Nat) (name : String) (size : Int) : Document :=
  let t? : Option Time.DateTime := (Time.Date.of? 2024 1 10).map fun d => ⟨d, .midnight, none⟩
  ⟨Guid.ofNat? number, some name, some "application/pdf", some .contract, some .digital, none,
    some .received, none, some size, t?, none, t?, none, none, none, none, none⟩

/-- Two documents in the order of their names, of which the second is smaller. -/
def namedSizes : List Document := [contract 1 "a.pdf" 2, contract 2 "b.pdf" 1]

/-- The key of a sort by name. -/
def nameKey (descending : Bool) : SortKey := ⟨column "filename" (some .text) false, descending⟩

/-- The key of a sort by size. -/
def sizeKey (descending : Bool) : SortKey := ⟨column "size" (some .int) false, descending⟩

/-- Sorted by name, selected by size and then sorted by size, the largest first. -/
theorem table_along_largest :
    let larger : Selection :=
      ⟨"Document", .compare (sizeKey true).field .greaterThan (.int 0), rfl⟩
    let k := sizeKey true
    let path : Path := [.sort (nameKey false), .select larger, .sort k]
    (∀ d ∈ namedSizes, d.IsComplete) ∧
      (∀ s ∈ path.selections, ∃ cs, Selection.ofCriteria schema cs = .ok s) ∧
      (∀ key ∈ path.keys, key.field ∈ schema.fields) ∧ path.key? = some k ∧
      ∃ t inList rows, (table namedSizes).along path = .ok (.table t) ∧
        (listed namedSizes).along path = .ok inList ∧ inList.all [] = .ok rows ∧
        k.Arranged rows ∧
        ((∀ s ∈ path.selections, ∀ v ∈ s.condition.literals, v.fitsWord = true) →
          ∃ found, t.all = .ok found) ∧
        (∀ found, t.all = .ok found → t.Gives found) ∧
        ∀ found, t.Gives found →
          (k.Arranged found ↔ ∀ r ∈ found, ∀ s ∈ found,
            compareBy path.keys.dropLast r s = .lt → compareBy [k] r s ≠ .gt) ∧
          ((∀ s ∈ path.selections, ∃ cs,
              Selection.ofCriteria schema cs = .ok s ∧ ∀ c ∈ cs, c.operator.isTextMatch = false) →
            found.Perm rows ∧
              (t.Gives rows ↔ rows.Pairwise fun r s => compareBy path.keys.dropLast r s ≠ .gt) ∧
              ((rows.Pairwise fun r s => compareBy path.keys r s ≠ .eq) →
                (found = rows ↔
                  rows.Pairwise fun r s => compareBy path.keys.dropLast r s ≠ .gt))) := by
  intro larger k path
  have hcomplete : ∀ d ∈ namedSizes, d.IsComplete := by decide
  have hselections : ∀ s ∈ path.selections, ∃ cs, Selection.ofCriteria schema cs = .ok s := by
    intro s hs
    obtain rfl : s = larger := List.mem_singleton.1 hs
    exact ⟨[⟨"size", .greaterThan, .text "0", .none⟩], rfl⟩
  have hkeys : ∀ key ∈ path.keys, key.field ∈ schema.fields := by decide
  have hkey : path.key? = some k := rfl
  exact ⟨hcomplete, hselections, hkeys, hkey, table_along_iff hcomplete hselections hkeys hkey⟩

/-- Sorted by name and then by size, a table gives the larger document first, in every order that it
may give, and a list the smaller. -/
theorem table_along_name_size :
    let path : Path := [.sort (nameKey false), .sort (sizeKey false)]
    (∀ d ∈ namedSizes, d.IsComplete) ∧ path.key? = some (sizeKey false) ∧
      ∃ t inList, (table namedSizes).along path = .ok (.table t) ∧
        (listed namedSizes).along path = .ok inList ∧
        t.all = .ok (namedSizes.map stored) ∧
        (∀ found, t.Gives found ↔ found = namedSizes.map stored) ∧
        ¬ (sizeKey false).Arranged (namedSizes.map stored) ∧
        inList.all [] = .ok (namedSizes.map stored).reverse := by
  intro path
  have hcomplete : ∀ d ∈ namedSizes, d.IsComplete := by decide
  have hsorted : (namedSizes.map stored).Pairwise fun r s =>
      compareBy [nameKey false, sizeKey false] r s ≠ .gt := by decide
  have hstrict : (namedSizes.map stored).Pairwise fun r s =>
      compareBy [nameKey false, sizeKey false] r s ≠ .eq := by decide
  refine ⟨hcomplete, rfl, _, _, rfl, rfl, ?_, fun found => ⟨?_, ?_⟩, ?_, rfl⟩
  · show Except.ok ((namedSizes.map stored).mergeSort _) = _
    exact congrArg _ (List.mergeSort_of_pairwise (hsorted.imp bne_iff_ne.2))
  · rintro ⟨rows, hrows, hperm, hpairs⟩
    cases hrows
    exact eq_of_pairwise hstrict hperm hpairs hsorted
  · rintro rfl
    exact ⟨_, rfl, .refl _, hsorted⟩
  · intro harranged
    obtain ⟨v, w, hv, hw, hprecedes⟩ :=
      (List.pairwise_cons.1 harranged).1 _ (List.mem_singleton_self _)
    cases hv
    cases hw
    cases hprecedes

end RecordQuery.Document
