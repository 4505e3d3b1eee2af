import RecordQuery.Proofs.Document.SearchMemory
import RecordQuery.Proofs.Document.SearchedPage

/-!
# The range of a page request

A page request has a least page and a greatest page size, but no greatest page
(`PageRequest.bounds_of_of?`). A table takes no integer beyond 64 bits, neither as a literal of its
condition nor as a bound of a slice (`PageRequest.bindings`). So a request for a page of documents
runs out of range exactly if one of these does not fit, and a table of complete documents gives
every other page (`searchPage_outOfRange_iff`). The page size always fits, but the offset of a page
far behind the documents does not, where a list of the same documents has an empty page
(`searchPage_outOfRange_page`).
-/

namespace RecordQuery

open Number

/-! ## Page requests -/

namespace Input

variable {least n m : Int} {greatest? : Option Int}

theorem bounds_of_wholeBetween (h : wholeBetween least greatest? n = .ok m) :
    least ≤ m ∧ ∀ g ∈ greatest?, m ≤ g := by
  rw [wholeBetween] at h
  split at h
  · cases h
  · next hleast =>
    split at h
    · cases h
    · next hgreatest =>
      cases h
      refine ⟨Int.not_lt.1 hleast, fun g hg => ?_⟩
      obtain rfl := Option.mem_def.1 hg
      simpa using hgreatest

/-- A bounded field is within its bounds if its default is. -/
theorem bounds_of_boundedWhole {field : String} {default : Int} {inputs : Inputs}
    (hdefault : least ≤ default ∧ ∀ g ∈ greatest?, default ≤ g)
    (h : boundedWhole field default least greatest? inputs = .ok n) :
    least ≤ n ∧ ∀ g ∈ greatest?, n ≤ g := by
  rw [boundedWhole] at h
  split at h
  · cases h
    exact hdefault
  · cases hread : (inputs field).whole.bind (wholeBetween least greatest?) with
    | error rule =>
      rw [hread] at h
      cases h
    | ok m =>
      rw [hread] at h
      cases h
      obtain ⟨k, -, hk⟩ := exists_of_bind_ok hread
      exact bounds_of_wholeBetween hk

end Input

namespace PageRequest

variable {inputs : Inputs} {r : PageRequest} {selection : Selection}

/-- A request has a page from the first on, of one record at least and `maxPageSize` at most. -/
theorem bounds_of_of? (h : of? inputs = .ok r) :
    1 ≤ r.page ∧ 1 ≤ r.pageSize ∧ r.pageSize ≤ maxPageSize := by
  rw [of?] at h
  split at h
  · next hpage hsize _ _ _ =>
    cases h
    obtain ⟨hleast, -⟩ := Input.bounds_of_boundedWhole (by simp) hpage
    obtain ⟨hleastSize, hgreatestSize⟩ :=
      Input.bounds_of_boundedWhole (by simp [defaultPageSize, maxPageSize]) hsize
    exact ⟨hleast, hleastSize, hgreatestSize _ rfl⟩
  · cases h

/-- What a table is given to find a page of a selection: the literals that are left without
constants, and the bounds of the slice. -/
def bindings (r : PageRequest) (selection : Selection) : List Value :=
  selection.condition.folded.literals ++ [.int (pageOffset r.page r.pageSize), .int r.pageSize]

theorem forall_mem_bindings {p : Value → Prop} : (∀ v ∈ r.bindings selection, p v) ↔
    (∀ v ∈ selection.condition.folded.literals, p v) ∧
      p (.int (pageOffset r.page r.pageSize)) ∧ p (.int r.pageSize) := by
  rw [bindings, List.forall_mem_append, List.forall_mem_cons, List.forall_mem_singleton]

/-- Of the bounds of a page that a request asks for, only the offset can exceed 64 bits. -/
theorem bindings_fit_iff (h : of? inputs = .ok r) :
    (∀ v ∈ r.bindings selection, v.fitsWord = true) ↔
      (∀ v ∈ selection.condition.folded.literals, v.fitsWord = true) ∧
        pageOffset r.page r.pageSize < (twoPow 63 : Int) := by
  obtain ⟨hpage, hleast, hgreatest⟩ := bounds_of_of? h
  have hword : (twoPow 63 : Int) = 9223372036854775808 := by decide
  have hpos : 0 ≤ pageOffset r.page r.pageSize :=
    Int.mul_nonneg (by omega) (by omega)
  have hmax : maxPageSize = 100 := rfl
  have hsize : fitsWord r.pageSize = true := by
    simp only [fitsWord, hword, Bool.and_eq_true, decide_eq_true_eq]
    omega
  have hoffset : fitsWord (pageOffset r.page r.pageSize) = true ↔
      pageOffset r.page r.pageSize < (twoPow 63 : Int) := by
    simp only [fitsWord, Bool.and_eq_true, decide_eq_true_eq]
    omega
  rw [forall_mem_bindings, Value.fitsWord, Value.fitsWord, hoffset]
  exact and_congr_right fun _ => and_iff_left hsize

end PageRequest

namespace Document

variable {inputs : Inputs} {documents shared : List Document} {r : PageRequest}
  {selection : Selection} {d : Document}

/-! ## Assets -/

/-- A complete document lacks no required field when it is read back. -/
theorem missing_stored_eq_nil (hd : d.IsComplete) : Asset.missing d.stored = [] := by
  have hpresent {α : Type} {toValue : α → Value} {a? : Option α}
      (h : some (orNull toValue a?) ≠ some Value.null) : a?.isNone = false := by
    cases a? with
    | none => exact absurd rfl h
    | some a => rfl
  simp only [IsComplete, columns, List.forall_mem_cons] at hd
  obtain ⟨hfilename, hcontentType, hdocumentType, hchannel, -, hstatus, -, hsize, huploadDate, -,
    hid, -⟩ := hd
  have hupload : d.stored.uploadDate.isNone = false := by
    rw [stored, Option.isNone_map]
    exact hpresent (huploadDate rfl)
  rw [Asset.missing, hupload]
  simp only [stored, hpresent (hfilename rfl), hpresent (hcontentType rfl),
    hpresent (hdocumentType rfl), hpresent (hchannel rfl), hpresent (hstatus rfl),
    hpresent (hsize rfl), hpresent (hid rfl)]
  rfl

/-- A document that is no asset lacks required fields. -/
theorem eq_invalid_of_ofDocument {e : Failure} (h : Asset.ofDocument d = .error e) :
    ∃ problems, e = .invalid problems := by
  rw [Asset.ofDocument] at h
  split at h
  · cases h
  · cases h
    exact ⟨_, rfl⟩

/-! ## Pages of documents -/

/-- A filter that compiles leads from a table of documents to one with its condition. -/
theorem exists_refined_table (documents : List Document) (request : SortRequest)
    (hselection : Selection.ofText? schema r.filter = .ok selection) :
    ∃ t : TableSource Document, t.rows = documents.map stored ∧
      t.condition.folded = selection.condition.folded ∧
      (table documents).refined r.filter (some request) = .ok (.table t) := by
  obtain ⟨path, hpath, hselects, hkeys⟩ :=
    Path.exists_refined_keys (some request) hselection
  refine ⟨(TableSource.ofRows schema (documents.map stored)).refinedBy path, rfl,
    hselects.folded_refinedBy, ?_⟩
  have hcompiled : ∀ s ∈ path.selections, ∃ cs, Selection.ofCriteria schema cs = .ok s :=
    fun s hs => ⟨_, hselects.eq_of_mem hs ▸ hselection⟩
  have hfields : ∀ k ∈ path.keys, k.field ∈ schema.fields := by
    rw [hkeys]
    exact fun k hk => mem_fields_of_ofRequest? (Option.mem_toList.1 hk)
  rw [Source.refined_eq_along, show (table documents).schema = schema from rfl, hpath]
  exact Source.along_ofRows isColumn_of_mem hcompiled hfields

/-- A page of a table fails if a literal of its condition or a bound of the slice does not fit into
64 bits. -/
theorem table_page_outOfRange {t : TableSource Document}
    (hfolded : t.condition.folded = selection.condition.folded) (hsize : 1 ≤ r.pageSize)
    (hfits : ¬ ∀ v ∈ r.bindings selection, v.fitsWord = true) :
    (Source.table t).page shared r.page r.pageSize = .error .outOfRange := by
  by_cases hliterals : ∀ v ∈ t.condition.folded.literals, v.fitsWord = true
  · obtain ⟨rows, hall⟩ := TableSource.exists_all hliterals
    refine Source.table_page_eq_error hall hsize (Bool.eq_false_iff.2 fun hbounds => hfits ?_)
    rw [hfolded] at hliterals
    exact PageRequest.forall_mem_bindings.2 ⟨hliterals, Bool.and_eq_true_iff.1 hbounds⟩
  · push Not at hliterals
    obtain ⟨v, hv, hvfits⟩ := hliterals
    exact Source.table_page_eq_error_of_literal hv (Bool.eq_false_iff.2 hvfits)

section Searched

variable {source found : Source Document} {p : Page Document}
  (hrefined : source.refined r.filter (some r.sort) = .ok found)

include hrefined

/-- A search for a page fails as the page of what is found does. -/
theorem searchPage_error {e : Fault} (hpage : found.page shared r.page r.pageSize = .error e) :
    searchPage source shared r = .error (.faulty e) := by
  rw [searchPage, hrefined]
  show ((found.page shared r.page r.pageSize).mapError Failure.faulty >>= _) = _
  rw [hpage]
  rfl

/-- A search for a page hands out the assets of the page of what is found. -/
theorem searchPage_eq (hpage : found.page shared r.page r.pageSize = .ok p) :
    searchPage source shared r =
      p.items.mapM Asset.ofDocument >>= fun assets => .ok ⟨assets, p.total, p.hasNext⟩ := by
  rw [searchPage, hrefined]
  show ((found.page shared r.page r.pageSize).mapError Failure.faulty >>= _) = _
  rw [hpage]
  rfl

/-- A search for a page of documents does not run out of range once the page is found. -/
theorem searchPage_ne_outOfRange (hpage : found.page shared r.page r.pageSize = .ok p) :
    searchPage source shared r ≠ .error (.faulty .outOfRange) := by
  intro h
  rw [searchPage_eq hrefined hpage] at h
  rcases bind_eq_error_iff.1 h with hassets | ⟨assets, -, hnone⟩
  · obtain ⟨earlier, d, later, -, -, hd⟩ := mapM_eq_error_iff.1 hassets
    obtain ⟨problems, hinvalid⟩ := eq_invalid_of_ofDocument hd
    cases hinvalid
  · cases hnone

end Searched

/-- A valid request for a page of a filter that compiles runs out of range exactly if a literal or
the offset does not fit into 64 bits. A table of complete documents, which has fewer rows than a
number of 64 bits can count, gives every other page. -/
theorem searchPage_outOfRange_iff (hrequest : PageRequest.of? inputs = .ok r)
    (hselection : Selection.ofText? schema r.filter = .ok selection)
    (hlength : documents.length < twoPow 63) :
    (searchPage (table documents) shared r = .error (.faulty .outOfRange) ↔
        ¬ ∀ v ∈ r.bindings selection, v.fitsWord = true) ∧
      ((∀ v ∈ r.bindings selection, v.fitsWord = true) ↔
        (∀ v ∈ selection.condition.folded.literals, v.fitsWord = true) ∧
          pageOffset r.page r.pageSize < (twoPow 63 : Int)) ∧
      ((∀ v ∈ r.bindings selection, v.fitsWord = true) → (∀ d ∈ documents, d.IsComplete) →
        ∃ page, searchPage (table documents) shared r = .ok page) := by
  obtain ⟨-, hsize, -⟩ := PageRequest.bounds_of_of? hrequest
  obtain ⟨t, hrows, hfolded, hrefined⟩ :=
    exists_refined_table documents r.sort hselection
  have hpage (hfits : ∀ v ∈ r.bindings selection, v.fitsWord = true) :
      ∃ p, (Source.table t).page shared r.page r.pageSize = .ok p ∧
        p.items ⊆ documents.map stored := by
    obtain ⟨hliterals, hoffset, hlimit⟩ := PageRequest.forall_mem_bindings.1 hfits
    rw [← hfolded] at hliterals
    rw [← hrows]
    refine Source.exists_table_page hsize ?_ hliterals hoffset hlimit
    rwa [hrows, List.length_map]
  refine ⟨⟨fun herror hfits => ?_, fun hfits => ?_⟩, PageRequest.bindings_fit_iff hrequest,
    fun hfits hcomplete => ?_⟩
  · obtain ⟨p, hp, -⟩ := hpage hfits
    exact searchPage_ne_outOfRange hrefined hp herror
  · exact searchPage_error hrefined (table_page_outOfRange hfolded hsize hfits)
  · obtain ⟨p, hp, hitems⟩ := hpage hfits
    have hasset : ∀ row ∈ p.items, ∃ a, Asset.ofDocument row = .ok a := by
      intro row hrow
      obtain ⟨d, hd, rfl⟩ := List.mem_map.1 (hitems hrow)
      obtain ⟨a, ha, -⟩ := ofDocument_ok (missing_stored_eq_nil (hcomplete d hd))
      exact ⟨a, ha⟩
    obtain ⟨assets, hassets⟩ := mapM_ok hasset
    exact ⟨_, (searchPage_eq hrefined hp).trans (bind_eq_ok_iff.2 ⟨assets, hassets, rfl⟩)⟩

/-- The second of two pages of one document each. -/
theorem searchPage_second_within_range :
    let inputs : Inputs := fun field =>
      if field = "page" then .int 2
      else if field = "page_size" then .int 1
      else if field = "filter" then .text "size gt 0"
      else .absent
    let r : PageRequest := ⟨2, 1, some "size gt 0", "", "ASC"⟩
    let selection : Selection :=
      ⟨"Document", .compare (sizeKey true).field .greaterThan (.int 0), rfl⟩
    PageRequest.of? inputs = .ok r ∧ Selection.ofText? schema r.filter = .ok selection ∧
      namedSizes.length < twoPow 63 ∧
      (searchPage (table namedSizes) [] r = .error (.faulty .outOfRange) ↔
        ¬ ∀ v ∈ r.bindings selection, v.fitsWord = true) ∧
      ((∀ v ∈ r.bindings selection, v.fitsWord = true) ↔
        (∀ v ∈ selection.condition.folded.literals, v.fitsWord = true) ∧
          pageOffset r.page r.pageSize < (twoPow 63 : Int)) ∧
      ((∀ v ∈ r.bindings selection, v.fitsWord = true) → (∀ d ∈ namedSizes, d.IsComplete) →
        ∃ page, searchPage (table namedSizes) [] r = .ok page) := by
  intro inputs r selection
  have hrequest : PageRequest.of? inputs = .ok r := rfl
  have hselection : Selection.ofText? schema r.filter = .ok selection := rfl
  have hlength : namedSizes.length < twoPow 63 := by decide
  exact ⟨hrequest, hselection, hlength, searchPage_outOfRange_iff hrequest hselection hlength⟩

/-- A valid request for a page far behind the only document runs out of range in a table, and has an
empty page in a list. -/
theorem searchPage_outOfRange_page :
    let inputs : Inputs := fun field =>
      if field = "page" then .int 1000000000000000000 else .absent
    let r : PageRequest := ⟨1000000000000000000, 10, none, "", "ASC"⟩
    let documents := namedSizes.take 1
    PageRequest.of? inputs = .ok r ∧
      Selection.ofText? schema r.filter = .ok ⟨"Document", .const true, rfl⟩ ∧
      (∀ d ∈ documents, d.IsComplete) ∧
      searchPage (table documents) [] r = .error (.faulty .outOfRange) ∧
      searchPage (listed documents) [] r = .ok ⟨[], 1, false⟩ := by
  intro inputs r documents
  let t : TableSource Document := .ofRows schema (documents.map stored)
  have htable : (table documents).refined r.filter (some r.sort) = .ok (.table t) := rfl
  let m : MemorySource Document := .ofOrigin schema (.own (documents.map stored))
  have hlist : (listed documents).refined r.filter (some r.sort) = .ok (.memory m) := rfl
  have hread : m.all [] = .ok (documents.map stored) := rfl
  have hpage : (Source.memory m).page [] r.page r.pageSize = .ok ⟨[], 1, false⟩ := by
    have hslice : (Source.memory m).page [] ((999999999999999999 + 1 : Nat) : Int) (10 : Nat) =
        .ok ⟨((documents.map stored).drop (999999999999999999 * 10)).take 10, 1, _⟩ :=
      Source.memory_page_eq hread (by decide) (by decide) _
    rw [List.drop_eq_nil_of_le (by decide)] at hslice
    exact hslice
  refine ⟨rfl, rfl, by decide, ?_, ?_⟩
  · exact searchPage_error htable (Source.table_page_eq_error (t := t) rfl (by decide) (by decide))
  · rw [searchPage_eq hlist hpage]
    rfl

end Document

end RecordQuery
