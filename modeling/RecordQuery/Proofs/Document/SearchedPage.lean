import RecordQuery.Proofs.Document.Resort
import RecordQuery.Proofs.Source.Search

/-!
# Pages of documents from a table

A page of the documents that a filter and a sort find is the same from a table as from a list of the
same documents. Where the values of the sort key differ, there is only one order to give the
documents in (`SortKey.perm_arranged_iff`), and both cut the same slice out of it
(`searched_page_eq`), as long as its bounds fit into 64 bits: a list is cut at any number, a table
fails beyond (`searched_page_largest`).
-/

namespace RecordQuery.Document

open TableSource Number

variable {documents shared : List Document} {text? : Option String} {request : SortRequest}
  {k : SortKey} {page size : Int}

/-- The key of a sort request is a field of the schema. -/
theorem mem_fields_of_ofRequest? {request? : Option SortRequest}
    (h : SortKey.ofRequest? schema request? = some k) : k.field ∈ schema.fields := by
  cases request? with
  | none => cases h
  | some request =>
    rw [SortKey.ofRequest?] at h
    simp only [Option.bind_eq_bind, Option.bind_some] at h
    split at h
    · cases h
    · obtain ⟨f, hf, hk⟩ := Option.bind_eq_some_iff.1 h
      cases hk
      exact List.mem_of_find?_eq_some hf

theorem schema_of_mem {source : Source Document}
    (h : source ∈ [table documents, listed documents]) : source.schema = schema := by
  rcases List.mem_pair.1 h with rfl | rfl
  · rfl
  · rfl

/-- Along a path with one sort and selections that do not look into texts, a table and a list are
read alike: the documents that the path accepts, in the order of the sort. -/
theorem exists_along_all {path : Path} (hcomplete : ∀ d ∈ documents, d.IsComplete)
    (hselections : ∀ s ∈ path.selections, ∃ cs,
      Selection.ofCriteria schema cs = .ok s ∧ ∀ c ∈ cs, c.operator.isTextMatch = false)
    (hliterals : ∀ s ∈ path.selections, ∀ v ∈ s.condition.literals, v.fitsWord = true)
    (hkeys : path.keys = [k]) (hk : k.field ∈ schema.fields) :
    ∀ source ∈ [table documents, listed documents], ∃ derived, source.along path = .ok derived ∧
      derived.isOrdered = true ∧
      derived.all shared = .ok (sorted [k] ((documents.map stored).filter (path.Accepts ·))) := by
  have hrows := isHeld_of_mem hcomplete
  have hcompiled : ∀ s ∈ path.selections, ∃ cs, Selection.ofCriteria schema cs = .ok s :=
    fun s hs => (hselections s hs).imp fun cs hcs => hcs.1
  have hfields : ∀ key ∈ path.keys, key.field ∈ schema.fields := by
    rw [hkeys]
    exact fun key hkey => List.mem_singleton.1 hkey ▸ hk
  have hkey : path.key? = some k := congrArg List.getLast? hkeys
  intro source hsource
  rcases List.mem_pair.1 hsource with rfl | rfl
  · have hread : ∃ found, ((ofRows schema (documents.map stored)).refinedBy path).all = .ok found :=
      exists_all_refinedBy hliterals
    obtain ⟨found, hfound⟩ := hread
    refine ⟨_, Source.along_ofRows isColumn_of_mem hcompiled hfields, ?_, ?_⟩
    · rw [Source.isOrdered, refinedBy, hkeys]
      rfl
    · show ((ofRows schema (documents.map stored)).refinedBy path).all = _
      rw [hfound, eq_of_all_refinedBy hfound, hkeys,
        Path.filter_accepts_eq isColumn_of_mem hrows hselections]
  · exact ⟨_, Source.along_memory, rfl,
      MemorySource.all_along_ofRows isColumn_of_mem hrows hcompiled hkey hk⟩

/-- By a filter that does not look into texts and a sort that tells the matching documents apart, a
page within 64 bits from a table and one from a list hold the same slice of the one arrangement of
these documents, and the same total. A filter that does not compile is refused by both. -/
theorem searched_page_eq (hcomplete : ∀ d ∈ documents, d.IsComplete)
    (hmatch : ∀ c ∈ (Filter.ofText? text?).criteria, c.operator.isTextMatch = false)
    (hsort : SortKey.ofRequest? schema (some request) = some k) (hsize : 1 ≤ size)
    (hoffset : fitsWord (pageOffset page size) = true) (hlimit : fitsWord size = true) :
    (∀ e, Selection.ofText? schema text? = .error e →
      ∀ source ∈ [table documents, listed documents],
        Session.searched source text? (some request) (·.page shared page size) = .error e) ∧
    ∀ selection, Selection.ofText? schema text? = .ok selection →
      (∀ v ∈ selection.condition.literals, v.fitsWord = true) →
      let found := (documents.map stored).filter fun d => selection.selects d = .ok true
      found.Pairwise k.Separates →
      ∃ rows, (∀ other, other.Perm found ∧ k.Arranged other ↔ other = rows) ∧
        (∀ source ∈ [table documents, listed documents],
          Session.searched source text? (some request) (·.page shared page size) =
            ((Page.cut rows page size).map (true, ·)).mapError .faulty) ∧
        (documents.length < twoPow 63 → ∃ p, Page.cut rows page size = .ok p) := by
  constructor
  · intro e he source hsource
    rw [Session.searched, Source.refined_eq_along, schema_of_mem hsource,
      Path.refined_eq_error he]
    rfl
  · intro selection hselection hliterals found hseparates
    obtain ⟨path, hpath, hselects, hkeys⟩ := Path.exists_refined hselection hsort
    have hk := mem_fields_of_ofRequest? hsort
    have hfound : (documents.map stored).filter (path.Accepts ·) = found :=
      List.filter_congr fun d _ => decide_eq_decide.2 hselects.accepts_iff
    have hread : ∀ source ∈ [table documents, listed documents], ∃ derived,
        source.along path = .ok derived ∧ derived.isOrdered = true ∧
          derived.all shared = .ok (sorted [k] found) := by
      rw [← hfound]
      exact exists_along_all hcomplete
        (fun s hs => ⟨_, hselects.eq_of_mem hs ▸ hselection, hmatch⟩)
        (fun s hs => hselects.eq_of_mem hs ▸ hliterals) hkeys hk
    have hheld : ∀ d ∈ found, k.field.IsHeld d := fun d hd =>
      isHeld_of_mem hcomplete d (List.mem_filter.1 hd).1 _ hk
    refine ⟨sorted [k] found, fun other =>
      SortKey.perm_arranged_iff (isColumn_of_mem _ hk) hheld hseparates, ?_, fun hlength => ?_⟩
    · intro source hsource
      obtain ⟨derived, halong, hordered, hall⟩ := hread source hsource
      have hpath' : Path.refined source.schema [] text? (some request) = .ok path := by
        rw [schema_of_mem hsource, hpath]
      rw [Source.searched_eq halong hpath', hordered, Source.page_eq hall hsize hoffset hlimit]
      cases Page.cut (sorted [k] found) page size with
      | error e => rfl
      | ok p => rfl
    · refine Page.exists_cut (Nat.lt_of_le_of_lt ?_ hlength)
      calc (sorted [k] found).length = found.length := sorted_perm.length_eq
        _ ≤ (documents.map stored).length := List.length_filter_le ..
        _ = documents.length := List.length_map _

/-- The second of two pages of one document each, in descending order of their names. -/
theorem searched_page_second :
    let text? : Option String := some "size gt 0"
    let request : SortRequest := ⟨"filename", "desc"⟩
    let k := nameKey true
    let selection : Selection :=
      ⟨"Document", .compare (sizeKey true).field .greaterThan (.int 0), rfl⟩
    let found := (namedSizes.map stored).filter fun d => selection.selects d = .ok true
    (∀ d ∈ namedSizes, d.IsComplete) ∧
      (∀ c ∈ (Filter.ofText? text?).criteria, c.operator.isTextMatch = false) ∧
      SortKey.ofRequest? schema (some request) = some k ∧ fitsWord (pageOffset 2 1) = true ∧
      fitsWord 1 = true ∧ Selection.ofText? schema text? = .ok selection ∧
      (∀ v ∈ selection.condition.literals, v.fitsWord = true) ∧ found.Pairwise k.Separates ∧
      ∃ rows, (∀ other, other.Perm found ∧ k.Arranged other ↔ other = rows) ∧
        (∀ source ∈ [table namedSizes, listed namedSizes],
          Session.searched source text? (some request) (·.page [] 2 1) =
            ((Page.cut rows 2 1).map (true, ·)).mapError .faulty) ∧
        (namedSizes.length < twoPow 63 → ∃ p, Page.cut rows 2 1 = .ok p) := by
  intro text? request k selection found
  have hcomplete : ∀ d ∈ namedSizes, d.IsComplete := by decide
  have hmatch : ∀ c ∈ (Filter.ofText? text?).criteria, c.operator.isTextMatch = false := by
    intro c hc
    obtain rfl : c = ⟨"size", .greaterThan, .text "0", .none⟩ := List.mem_singleton.1 hc
    rfl
  have hsort : SortKey.ofRequest? schema (some request) = some k := by decide
  have hoffset : fitsWord (pageOffset 2 1) = true := by decide
  have hlimit : fitsWord 1 = true := by decide
  have hselection : Selection.ofText? schema text? = .ok selection := rfl
  have hliterals : ∀ v ∈ selection.condition.literals, v.fitsWord = true := by decide
  have hfound : found = namedSizes.map stored := rfl
  have hname (number : Nat) (name : String) (size : Int) :
      (nameKey true).field.readNormal (contract number name size).stored = .ok (.text name) := rfl
  have hseparates : found.Pairwise k.Separates := by
    rw [hfound]
    exact List.pairwise_pair.2 ⟨_, _, hname .., hname .., by decide⟩
  exact ⟨hcomplete, hmatch, hsort, hoffset, hlimit, hselection, hliterals, hseparates,
    (searched_page_eq hcomplete hmatch hsort (Int.le_refl 1) hoffset hlimit).2 selection hselection
      hliterals hseparates⟩

/-- The first page of a size beyond 64 bits holds the only document of a list, and fails from the
table. -/
theorem searched_page_largest :
    let documents := namedSizes.take 1
    let request : SortRequest := ⟨"filename", "asc"⟩
    (∀ d ∈ documents, d.IsComplete) ∧ (Filter.ofText? none).criteria = [] ∧
      SortKey.ofRequest? schema (some request) = some (nameKey false) ∧
      (documents.map stored).Pairwise (nameKey false).Separates ∧ (1 : Int) ≤ twoPow 63 ∧
      fitsWord (pageOffset 1 (twoPow 63)) = true ∧
      Session.searched (table documents) none (some request) (·.page [] 1 (twoPow 63)) =
        .error (.faulty .outOfRange) ∧
      Session.searched (listed documents) none (some request) (·.page [] 1 (twoPow 63)) =
        .ok (true, ⟨documents.map stored, 1, false⟩) := by
  intro documents request
  have hcomplete : ∀ d ∈ documents, d.IsComplete := by decide
  have hsort : SortKey.ofRequest? schema (some request) = some (nameKey false) := by decide
  have hpath : Path.refined schema [] none (some request) = .ok [.sort (nameKey false)] := by
    rw [Path.refined, Path.ofSort, hsort]
    rfl
  let t : TableSource Document := ⟨schema, documents.map stored, .const true, [nameKey false]⟩
  have htable : (table documents).along [.sort (nameKey false)] = .ok (.table t) := rfl
  have hall : t.all = .ok (documents.map stored) :=
    congrArg Except.ok (List.mergeSort_singleton _)
  let m : MemorySource Document := ⟨schema, .own (documents.map stored), [], some (nameKey false)⟩
  have hlist : (listed documents).along [.sort (nameKey false)] = .ok (.memory m) := rfl
  have hread : m.all [] = .ok (documents.map stored) := rfl
  have hpage : (Source.memory m).page [] 1 (twoPow 63) = .ok ⟨documents.map stored, 1, false⟩ := by
    have hone : ((0 + 1 : Nat) : Int) = 1 := rfl
    have hslice : ((documents.map stored).drop (0 * twoPow 63)).take (twoPow 63) =
        documents.map stored := by
      rw [Nat.zero_mul, List.drop_zero]
      exact List.take_of_length_le (by decide)
    have hnext : decide ((0 + 1) * twoPow 63 < (documents.map stored).length) = false := by decide
    rw [← hone, Source.memory_page_eq hread (by decide) twoPow_pos, hslice, hnext]
    rfl
  refine ⟨hcomplete, rfl, hsort, List.pairwise_singleton _ _, by decide, by decide, ?_, ?_⟩
  · rw [Source.searched_eq htable hpath, Source.table_page_eq_error hall (by decide) (by decide)]
    rfl
  · rw [Source.searched_eq hlist hpath, hpage]
    rfl

end RecordQuery.Document
