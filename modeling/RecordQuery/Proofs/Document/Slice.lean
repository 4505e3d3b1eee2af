import RecordQuery.Proofs.Document.SearchedPage

/-!
# Slices of documents from a table

Along a path with one sort that tells the documents apart, a list of documents and a table of them
have the same documents in the same order. The list cuts a slice from the offset on, up to the
limit, and takes a negative offset or limit for zero. The table takes a negative offset for zero
too, but a negative limit for none, so it gives the same slice exactly if the limit is not negative
or no document is left behind the offset (`table_slice_iff`).
-/

namespace RecordQuery.Document

open TableSource

variable {documents : List Document} {k : SortKey}

/-- Along a path with one sort that tells the accepted documents apart, a table and a list read them
in the one order that the sort has for them. For all bounds within 64 bits the list gives the slice
from the offset on, with negative bounds as zero, and the table gives the same slice if and only if
the limit is not negative or the offset is not in front of any document. -/
theorem table_slice_iff {path : Path} (shared : List Document)
    (hcomplete : ∀ d ∈ documents, d.IsComplete)
    (hselections : ∀ s ∈ path.selections, ∃ cs,
      Selection.ofCriteria schema cs = .ok s ∧ ∀ c ∈ cs, c.operator.isTextMatch = false)
    (hliterals : ∀ s ∈ path.selections, ∀ v ∈ s.condition.literals, v.fitsWord = true)
    (hkeys : path.keys = [k]) (hk : k.field ∈ schema.fields)
    (hseparates : ((documents.map stored).filter (path.Accepts ·)).Pairwise k.Separates) :
    ∃ inTable inList rows, (table documents).along path = .ok inTable ∧
      (listed documents).along path = .ok inList ∧
      (∀ other, other.Perm ((documents.map stored).filter (path.Accepts ·)) ∧ k.Arranged other ↔
        other = rows) ∧
      inTable.all shared = .ok rows ∧ inList.all shared = .ok rows ∧
      ∀ offset limit, fitsWord offset = true → fitsWord limit = true →
        inList.fetch shared offset limit =
          .ok (rows.extract (max offset 0).toNat (max offset 0 + max limit 0).toNat) ∧
        (limit < 0 → inTable.fetch shared offset limit = .ok (rows.drop offset.toNat)) ∧
        (inTable.fetch shared offset limit = inList.fetch shared offset limit ↔
          0 ≤ limit ∨ (rows.length : Int) ≤ max offset 0) := by
  have hcompiled : ∀ s ∈ path.selections, ∃ cs, Selection.ofCriteria schema cs = .ok s :=
    fun s hs => (hselections s hs).imp fun _ => And.left
  have hfields : ∀ key ∈ path.keys, key.field ∈ schema.fields := by
    rw [hkeys]
    exact fun key hkey => List.mem_singleton.1 hkey ▸ hk
  have hread := @exists_along_all documents shared k path hcomplete hselections hliterals hkeys hk
  obtain ⟨inTable, htable, -, hallTable⟩ := hread _ List.mem_cons_self
  obtain ⟨inList, hlist, -, hallList⟩ := hread _ (List.mem_cons_of_mem _ List.mem_cons_self)
  cases htable.symm.trans (Source.along_ofRows isColumn_of_mem hcompiled hfields)
  cases hlist.symm.trans Source.along_memory
  have hheld : ∀ d ∈ (documents.map stored).filter (path.Accepts ·), k.field.IsHeld d :=
    fun d hd => isHeld_of_mem hcomplete d (List.mem_filter.1 hd).1 _ hk
  refine ⟨_, _, _, htable, hlist,
    fun other => SortKey.perm_arranged_iff (isColumn_of_mem _ hk) hheld hseparates, hallTable,
    hallList, fun offset limit hoffset hlimit => ⟨Source.memory_fetch_eq hallList, ?_,
      Source.table_fetch_eq_iff hallTable hallList hoffset hlimit⟩⟩
  intro hneg
  have hfetch := TableSource.fetch_of_all hallTable hoffset hlimit
  rwa [if_pos hneg] at hfetch

/-- The second of two documents in descending order of their names, and what is left behind it. -/
theorem table_slice_descending :
    let larger : Selection :=
      ⟨"Document", .compare (sizeKey true).field .greaterThan (.int 0), rfl⟩
    let k := nameKey true
    let path : Path := [.select larger, .sort k]
    let found := (namedSizes.map stored).filter (path.Accepts ·)
    ((∀ d ∈ namedSizes, d.IsComplete) ∧
      (∀ s ∈ path.selections, ∃ cs,
        Selection.ofCriteria schema cs = .ok s ∧ ∀ c ∈ cs, c.operator.isTextMatch = false) ∧
      (∀ s ∈ path.selections, ∀ v ∈ s.condition.literals, v.fitsWord = true) ∧
      path.keys = [k] ∧ k.field ∈ schema.fields ∧ found.Pairwise k.Separates) ∧
      fitsWord 1 = true ∧ fitsWord (-1) = true ∧
      ∃ inTable inList rows, (table namedSizes).along path = .ok inTable ∧
        (listed namedSizes).along path = .ok inList ∧
        (∀ other, other.Perm found ∧ k.Arranged other ↔ other = rows) ∧
        inTable.fetch [] 1 1 = inList.fetch [] 1 1 ∧
        inList.fetch [] (-1) 1 = .ok (rows.extract 0 1) ∧
        inTable.fetch [] 1 (-1) = .ok (rows.drop 1) := by
  intro larger k path found
  have hcomplete : ∀ d ∈ namedSizes, d.IsComplete := by decide
  have hselections : ∀ s ∈ path.selections, ∃ cs,
      Selection.ofCriteria schema cs = .ok s ∧ ∀ c ∈ cs, c.operator.isTextMatch = false := by
    intro s hs
    obtain rfl : s = larger := List.mem_singleton.1 hs
    exact ⟨[⟨"size", .greaterThan, .text "0", .none⟩], rfl, by decide⟩
  have hliterals : ∀ s ∈ path.selections, ∀ v ∈ s.condition.literals, v.fitsWord = true := by
    decide
  have hk : k.field ∈ schema.fields := by decide
  have hfound : found = namedSizes.map stored := rfl
  have hname (number : Nat) (name : String) (size : Int) :
      (nameKey true).field.readNormal (contract number name size).stored = .ok (.text name) := rfl
  have hseparates : found.Pairwise k.Separates := by
    rw [hfound]
    exact List.pairwise_pair.2 ⟨_, _, hname .., hname .., by decide⟩
  obtain ⟨inTable, inList, rows, htable, hlist, hrows, -, -, hslices⟩ :=
    table_slice_iff [] hcomplete hselections hliterals rfl hk hseparates
  exact ⟨⟨hcomplete, hselections, hliterals, rfl, hk, hseparates⟩, rfl, rfl, inTable, inList, rows,
    htable, hlist, hrows, (hslices 1 1 rfl rfl).2.2.2 (.inl (by decide)),
    (hslices (-1) 1 rfl rfl).1, (hslices 1 (-1) rfl rfl).2.1 (by decide)⟩

/-- Of one document a list gives none up to a negative limit, and a table gives it. -/
theorem table_slice_negative :
    let documents := namedSizes.take 1
    let path : Path := [.sort (nameKey false)]
    (∀ d ∈ documents, d.IsComplete) ∧ (documents.map stored).Pairwise (nameKey false).Separates ∧
      ∃ inTable inList, (table documents).along path = .ok inTable ∧
        (listed documents).along path = .ok inList ∧
        inTable.all [] = .ok (documents.map stored) ∧ inList.all [] = .ok (documents.map stored) ∧
        inList.fetch [] 0 (-1) = .ok [] ∧
        inTable.fetch [] 0 (-1) = .ok (documents.map stored) := by
  intro documents path
  have hall : (TableSource.mk schema (documents.map stored) (.const true) [nameKey false]).all =
      .ok (documents.map stored) := congrArg Except.ok (List.mergeSort_singleton _)
  exact ⟨by decide, List.pairwise_singleton _ _, _, _, rfl, rfl, hall, rfl, rfl,
    TableSource.fetch_of_all hall rfl rfl⟩

end RecordQuery.Document
