import RecordQuery.Document.Search
import RecordQuery.Proofs.Condition.Criteria
import RecordQuery.Proofs.Sorting.Key
import RecordQuery.Proofs.Time.Calendar

/-!
# Searching a list of documents in memory

A filter whose condition can be decided and a sort by the time of creation lead to the documents of
which the condition holds (`refined_memory`), and if each of these is an asset, then a search gives
their assets (`search_memory`). A filter without a condition fails the search (`search_error`).
-/

namespace RecordQuery.Document

open Time

/-! ## Reading the times of documents -/

/-- The column of the time of upload. -/
def uploadColumn : Field := column "upload_date" (some .dateTime) false

/-- The column of the time of creation. -/
def createdColumn : Field := column "created" (some .dateTime) false

/-- A date-time of a document is read at offset zero. -/
theorem readNormal_dateTime {f : Field} {d : Document} {t? : Option DateTime}
    (hkind : f.kind = .dateTime) (htype : f.type? = some .dateTime)
    (hread : f.read d = .ok (orNull .dateTime t?)) (hutc : ∀ t ∈ t?, t.toUtc?.isSome = true) :
    f.readNormal d = .ok (orNull .dateTime (t?.bind DateTime.toUtc?)) := by
  rw [Field.readNormal, hread]
  cases t? with
  | none => simp [Except.bind, Field.normalize, orNull, hkind]
  | some t =>
    obtain ⟨u, hu⟩ := Option.isSome_iff_exists.1 (hutc t rfl)
    simp [Except.bind, Field.normalize, orNull, hkind, htype, Literal.universal, hu]

theorem read_uploadColumn (d : Document) :
    uploadColumn.read d = .ok (orNull .dateTime d.uploadDate) := rfl

theorem read_createdColumn (d : Document) :
    createdColumn.read d = .ok (orNull .dateTime d.created) := rfl

/-! ## Searching a list in memory -/

variable {origin : Origin Document} {shared : List Document} {q : DocumentQuery}
  {text? : Option String} {condition : Condition} {p : Document → Bool}

/-- The documents of a list in memory. -/
abbrev held (origin : Origin Document) (shared : List Document) : List Document :=
  (MemorySource.ofOrigin schema origin).records shared

/-- A sort request gives an unsorted list in memory its key, if it has one. -/
theorem sorted?_memory {request? : Option SortRequest} {k? : Option SortKey}
    (hsort : SortKey.ofRequest? schema request? = k?) (selections : List Selection) :
    ((Source.memory ⟨schema, origin, selections, none⟩).sorted? request?).map
        (·.getD (.memory ⟨schema, origin, selections, none⟩)) =
      .ok (.memory ⟨schema, origin, selections, k?⟩) := by
  subst hsort
  cases hkey : SortKey.ofRequest? schema request? with
  | none =>
    simp only [Source.sorted?, Source.schema, hkey]
    rfl
  | some k =>
    simp only [Source.sorted?, Source.schema, hkey]
    rfl

/-- A filter whose condition can be decided, and perhaps a sort, refine a list in memory to the
documents of which the condition holds. -/
theorem refined_memory {request? : Option SortRequest} {k? : Option SortKey}
    (hcondition : Condition.ofCriteria schema (Filter.ofText? text?).criteria = .ok condition)
    (hdecides : condition.Decides (held origin shared) p)
    (hsort : SortKey.ofRequest? schema request? = k?) :
    ∃ selections, (Source.memory (.ofOrigin schema origin)).refined text? request? =
        .ok (.memory ⟨schema, origin, selections, k?⟩) ∧
      ∀ d ∈ held origin shared, MemorySource.selectedBy selections d = .ok (p d) := by
  cases hempty : (Filter.ofText? text?).criteria.isEmpty with
  | true =>
    -- the source is not filtered, and without criteria everything passes
    have hfiltered : (Source.memory (.ofOrigin schema origin)).filtered? text? =
        .ok (none : Option (Source Document)) := by simp [Source.filtered?, hempty]
    rw [List.isEmpty_iff.1 hempty] at hcondition
    cases hcondition
    refine ⟨[], ?_, hdecides.holds⟩
    rw [← sorted?_memory hsort, Source.refined, hfiltered]
    rfl
  | false =>
    let selection : Selection := ⟨schema.name, condition, hdecides.isComparable⟩
    have hselection : Selection.ofCriteria schema (Filter.ofText? text?).criteria =
        .ok selection := by
      simp only [Selection.ofCriteria, hcondition, bind, Except.bind, Selection.of?,
        dif_pos hdecides.isComparable]
      rfl
    have hfiltered : (Source.memory (.ofOrigin schema origin)).filtered? text? =
        .ok (some (.memory ((MemorySource.ofOrigin schema origin).select selection))) := by
      simp [Source.filtered?, hempty, Source.schema, MemorySource.ofOrigin, hselection,
        Source.select, bind, Except.bind, pure, Except.pure]
    refine ⟨[selection], ?_, fun d hd => ?_⟩
    · rw [← sorted?_memory hsort, Source.refined, hfiltered]
      rfl
    · have hselects : selection.selects d = .ok (p d) := hdecides.holds d hd
      simp only [MemorySource.selectedBy, hselects, bind, Except.bind, pure, Except.pure]
      cases p d <;> rfl

/-- A document that lacks no required field is an asset, with the time of upload of the document. -/
theorem ofDocument_ok {d : Document} (h : Asset.missing d = []) :
    ∃ a, Asset.ofDocument d = .ok a ∧ d.uploadDate = some a.uploadDate := by
  simp only [Asset.missing, List.filterMap_eq_nil_iff, List.forall_mem_cons] at h
  obtain ⟨hid, hfilename, hcontentType, hdocumentType, hchannel, hstatus, hsize, huploadDate, -⟩ :=
    h
  have hsome {α : Type} {a? : Option α} {problem : Problem}
      (h : (if a?.isNone = true then some problem else none) = none) : ∃ a, a? = some a := by
    cases a? with
    | none => simp at h
    | some a => exact ⟨a, rfl⟩
  obtain ⟨id, hid⟩ := hsome hid
  obtain ⟨filename, hfilename⟩ := hsome hfilename
  obtain ⟨contentType, hcontentType⟩ := hsome hcontentType
  obtain ⟨documentType, hdocumentType⟩ := hsome hdocumentType
  obtain ⟨channel, hchannel⟩ := hsome hchannel
  obtain ⟨status, hstatus⟩ := hsome hstatus
  obtain ⟨size, hsize⟩ := hsome hsize
  obtain ⟨uploadDate, huploadDate⟩ := hsome huploadDate
  refine ⟨⟨String.ofList id.text, filename, contentType, documentType, channel, d.customerId,
    status, d.url, size, uploadDate, d.correlationId⟩, ?_, huploadDate⟩
  simp only [Asset.ofDocument, hid, hfilename, hcontentType, hdocumentType, hchannel, hstatus,
    hsize, huploadDate]

/-- A search in memory gives the assets of the documents of which the condition of its filter
holds. -/
theorem search_memory (htext : q.filterText = .ok text?)
    (hcondition : Condition.ofCriteria schema (Filter.ofText? text?).criteria = .ok condition)
    (hdecides : condition.Decides (held origin shared) p) {descending : Bool}
    (hsort : SortKey.ofRequest? schema (some q.sort) = some ⟨createdColumn, descending⟩)
    (hcreated : ∀ d ∈ held origin shared, ∀ t ∈ d.created, t.toUtc?.isSome = true)
    (hmissing : ∀ d ∈ held origin shared, Asset.missing d = []) :
    ∃ (rows : List Document) (assets : List Asset), rows.Perm ((held origin shared).filter p) ∧
      rows.mapM Asset.ofDocument = .ok assets ∧
      search (.memory (.ofOrigin schema origin)) shared q = .ok assets := by
  obtain ⟨selections, hrefined, hselects⟩ := refined_memory hcondition hdecides hsort
  have hselected : (MemorySource.mk schema origin selections
      (some ⟨createdColumn, descending⟩)).selected shared = .ok ((held origin shared).filter p) :=
    filterM_ok hselects
  have hread : ∀ d ∈ (held origin shared).filter p, ∃ v,
      createdColumn.readNormal d = .ok v ∧ SortKey.IsMoment v := by
    intro d hd
    have hd' := (List.mem_filter.1 hd).1
    refine ⟨_, readNormal_dateTime rfl rfl (read_createdColumn d) (hcreated d hd'), ?_⟩
    cases hutc : d.created.bind DateTime.toUtc? with
    | none => exact .inl rfl
    | some u =>
      obtain ⟨t, -, hu⟩ := Option.bind_eq_some_iff.1 hutc
      exact .inr ⟨u, rfl, by simp [(DateTime.instant_toUtc? hu).1]⟩
  obtain ⟨rows, hrows, hperm⟩ :=
    SortKey.apply_perm (k := ⟨createdColumn, descending⟩) SortKey.comparable_precedes hread
  have hmem : ∀ d ∈ rows, d ∈ held origin shared :=
    fun d hd => (List.mem_filter.1 (hperm.mem_iff.1 hd)).1
  have hasset : ∀ d ∈ rows, ∃ a, Asset.ofDocument d = .ok a := by
    intro d hd
    obtain ⟨a, ha, -⟩ := ofDocument_ok (hmissing d (hmem d hd))
    exact ⟨a, ha⟩
  obtain ⟨assets, hassets⟩ := mapM_ok hasset
  refine ⟨rows, assets, hperm, hassets, ?_⟩
  simp only [search, htext, hrefined, Source.all, MemorySource.all, hselected, hrows, bind,
    Except.bind, mapError_ok]
  exact hassets

/-- A search by a filter without a condition fails as the filter does. -/
theorem search_error {e : Failure} (htext : q.filterText = .ok text?)
    (hne : (Filter.ofText? text?).criteria ≠ [])
    (he : Condition.ofCriteria schema (Filter.ofText? text?).criteria = .error e) :
    search (.memory (.ofOrigin schema origin)) shared q = .error e := by
  have hselection : Selection.ofCriteria schema (Filter.ofText? text?).criteria = .error e := by
    simp [Selection.ofCriteria, he, bind, Except.bind]
  simp [search, htext, Source.refined, Source.filtered?, hne, Source.schema, MemorySource.ofOrigin,
    hselection, bind, Except.bind, mapError_ok]

end RecordQuery.Document
