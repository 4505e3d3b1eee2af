import RecordQuery.Proofs.Document.Moment
import RecordQuery.Proofs.Document.QueryText
import RecordQuery.Proofs.Document.SearchMemory

/-!
# Searching by the time of upload

A query may bound the time of upload on either side. The bounds are written to the second, so what
a search finds are the documents between the beginnings of their seconds (`search_ofUpload`), and
a bound whose year has fewer than four digits is refused (`search_ofUpload_short`).
`search_ofUpload_iff` says when the documents found are those between the bounds themselves.
-/

namespace RecordQuery

open Text Time RecordQuery.Filter

/-! ## Windows -/

/-- The instant lies between the bounds, as far as they are given. -/
def InWindow (start? finish? : Option Int) (n : Int) : Prop :=
  (∀ a ∈ start?, a ≤ n) ∧ ∀ b ∈ finish?, n ≤ b

instance (start? finish? : Option Int) (n : Int) : Decidable (InWindow start? finish? n) :=
  inferInstanceAs (Decidable (_ ∧ _))

/-- The document was uploaded between the bounds. -/
def Document.uploadedWithin (start? finish? : Option Int) (d : Document) : Bool :=
  d.uploadDate.any fun t => decide (InWindow start? finish? t.instant)

/-- At offset zero, the year of the date-time has four digits. -/
def Time.DateTime.HasFourDigitYear (t : DateTime) : Prop := ∀ u ∈ t.toUtc?, 1000 ≤ u.date.year

instance (t : DateTime) : Decidable t.HasFourDigitYear :=
  inferInstanceAs (Decidable (∀ u ∈ t.toUtc?, 1000 ≤ u.date.year))

/-! ## The terms of the bounds -/

namespace DocumentQuery

/-- The query that only bounds the time of upload. -/
def ofUpload (start? finish? : Option DateTime) : DocumentQuery :=
  ⟨start?, finish?, none, none, none, none, none, none, "", ""⟩

/-- The term that bounds the time of upload by a moment. -/
def boundTerm (word : String) (operator : Operator) (names : Names word.toList operator)
    (takes_value : operator.isNullCheck = false) (u : DateTime) : TextTerm where
  property := "uploadDate"
  word
  operator
  text := momentChars u
  isProperty := by decide
  names
  takes_value

theorem names_ge : Names "ge".toList .greaterThanOrEqual :=
  ⟨("ge", .greaterThanOrEqual), by decide, rfl, by decide⟩

theorem names_le : Names "le".toList .lessThanOrEqual :=
  ⟨("le", .lessThanOrEqual), by decide, rfl, by decide⟩

/-- The term of a lower bound. -/
def startTerm : DateTime → TextTerm := boundTerm "ge" .greaterThanOrEqual names_ge rfl

/-- The term of an upper bound. -/
def finishTerm : DateTime → TextTerm := boundTerm "le" .lessThanOrEqual names_le rfl

/-- The terms of bounds at offset zero. -/
def boundTerms (start? finish? : Option DateTime) : List TextTerm :=
  (start?.map startTerm).toList ++ (finish?.map finishTerm).toList

variable {start? finish? : Option DateTime}

/-- The term of a bound is that of the one or the other. -/
theorem mem_boundTerms {g : TextTerm} (hg : g ∈ boundTerms start? finish?) :
    ∃ (word : String) (operator : Operator) (names : Names word.toList operator)
      (takes_value : operator.isNullCheck = false) (u : DateTime),
      operator ∈ [.greaterThanOrEqual, .lessThanOrEqual] ∧
      (u ∈ start? ∨ u ∈ finish?) ∧ g = boundTerm word operator names takes_value u := by
  simp only [boundTerms, List.mem_append, Option.mem_toList, Option.map_eq_some_iff] at hg
  rcases hg with ⟨u, hu, rfl⟩ | ⟨u, hu, rfl⟩
  · exact ⟨_, _, names_ge, rfl, u, by decide, .inl hu, rfl⟩
  · exact ⟨_, _, names_le, rfl, u, by decide, .inr hu, rfl⟩

/-- The term of a bound is written as it is. -/
theorem momentTerm_eq {word : String} {operator : Operator} (names : Names word.toList operator)
    (takes_value : operator.isNullCheck = false) {t? : Option DateTime}
    (h : ∀ t ∈ t?, t.toUtc?.isSome = true) :
    momentTerm "uploadDate" word t? =
      .ok (((t?.bind DateTime.toUtc?).map (boundTerm word operator names takes_value)).toList.map
        fun g => percentEncode g.chars) := by
  cases t? with
  | none => rfl
  | some t =>
    obtain ⟨u, hu⟩ := Option.isSome_iff_exists.1 (h t rfl)
    have hself : percentEncode (momentChars u) = momentChars u :=
      percentEncode_eq_self fun c hc =>
        ⟨(isMomentChar_of_mem hc).ne (by decide) (by decide),
          (isMomentChar_of_mem hc).ne (by decide) (by decide)⟩
    have hterm := term_percentEncode (boundTerm word operator names takes_value u)
    simp only [boundTerm, hself] at hterm
    simp [momentTerm, momentText_eq hu, hu, bind, Except.bind, pure, Except.pure, hterm, boundTerm]

/-- The terms of a query that bounds the time of upload. -/
theorem terms_ofUpload (hstart : ∀ t ∈ start?, t.toUtc?.isSome = true)
    (hfinish : ∀ t ∈ finish?, t.toUtc?.isSome = true) :
    (ofUpload start? finish?).terms =
      .ok ((boundTerms (start?.bind DateTime.toUtc?) (finish?.bind DateTime.toUtc?)).map
        fun g => percentEncode g.chars) := by
  have hstart' := momentTerm_eq names_ge rfl hstart
  have hfinish' := momentTerm_eq names_le rfl hfinish
  simp only [terms, ofUpload, hstart', hfinish', bind, Except.bind, pure, Except.pure, boundTerms,
    List.map_append, startTerm, finishTerm]
  simp [textTerm, nameTerm]

/-- The filter of a query that bounds the time of upload is read term by term. -/
theorem ofText?_filterText_ofUpload (hstart : ∀ t ∈ start?, t.toUtc?.isSome = true)
    (hfinish : ∀ t ∈ finish?, t.toUtc?.isSome = true) :
    ∃ text?, (ofUpload start? finish?).filterText = .ok text? ∧
      Filter.ofText? text? = ⟨rowCriteria true .and
        (boundTerms (start?.bind DateTime.toUtc?) (finish?.bind DateTime.toUtc?)), []⟩ := by
  refine ofText?_filterText_of_enclosable (terms_ofUpload hstart hfinish) fun g hg => ?_
  obtain ⟨word, operator, names, takes_value, u, -, -, rfl⟩ := mem_boundTerms hg
  rw [boundTerm]
  refine .of_notMem fun h => ?_
  exact (isMomentChar_of_mem h).ne (d := singleQuote) (by decide) (by decide) rfl

end DocumentQuery

/-! ## The condition of a bound -/

namespace DocumentQuery

/-- The property of a bound is the time of upload. -/
theorem require_uploadDate (c? : Option Criterion) :
    Document.schema.require "uploadDate" c? = .ok Document.uploadColumn := by
  have hresolve : Document.schema.resolve? "uploadDate" = some Document.uploadColumn := by
    decide
  rw [Schema.require, hresolve]

/-- A criterion on the time of upload compares with its literal. -/
theorem ofCriterion_uploadDate {operator : Operator}
    (hoperator : operator ∈ [.greaterThanOrEqual, .lessThanOrEqual]) {s : String}
    (k : Connective) :
    (∀ v, Literal.dateTime (some .dateTime) s.toList = .ok v →
      Condition.ofCriterion Document.schema ⟨"uploadDate", operator, .text s, k⟩ =
        .ok (.compare Document.uploadColumn operator v)) ∧
    ∀ expected, Literal.dateTime (some .dateTime) s.toList = .error (.malformed expected) →
      Condition.ofCriterion Document.schema ⟨"uploadDate", operator, .text s, k⟩ =
        .error (.refuse (.badLiteral expected s Document.uploadColumn.name)
          (some ⟨"uploadDate", operator, .text s, k⟩)) := by
  have hliteral : Document.uploadColumn.literal s = Literal.dateTime (some .dateTime) s.toList :=
    rfl
  simp only [List.mem_cons, List.not_mem_nil, or_false] at hoperator
  constructor
  · intro v hv
    rw [← hliteral] at hv
    rcases hoperator with rfl | rfl <;>
      simp [Condition.ofCriterion, require_uploadDate, Condition.ofField, Condition.ofText,
        Condition.singleText, Field.coerce, hv, bind, Except.bind, pure, Except.pure]
  · intro expected hv
    rw [← hliteral] at hv
    rcases hoperator with rfl | rfl <;>
      simp [Condition.ofCriterion, require_uploadDate, Condition.ofField, Condition.ofText,
        Condition.singleText, Field.coerce, hv, bind, Except.bind]

/-- The comparison of the time of upload with a moment compares instants. -/
theorem holds_uploadColumn {operator : Operator}
    (hoperator : operator ∈ [.greaterThanOrEqual, .lessThanOrEqual]) {d : Document}
    {t u b : DateTime} (ht : d.uploadDate = some t) (hu : t.toUtc? = some u)
    (hb : b.offset?.isSome = true) :
    (Condition.compare Document.uploadColumn operator (.dateTime b)).holds d =
      .ok (operator.accepts (compare t.instant b.instant)) := by
  obtain ⟨hoffset, hinstant⟩ := DateTime.instant_toUtc? hu
  have hread := Document.readNormal_dateTime rfl rfl (Document.read_uploadColumn d)
    (fun t' ht' => by rw [ht] at ht'; cases ht'; simp [hu])
  have hrelate : (Value.dateTime u).relate (.dateTime b) =
      .ordered (compare t.instant b.instant) := by
    simp [Value.relate, Value.numberKind?, Value.relateOthers, hoffset, hb, hinstant]
  simp only [List.mem_cons, List.not_mem_nil, or_false] at hoperator
  rcases hoperator with rfl | rfl <;>
    simp [Condition.holds, Comparison.holds, hread, ht, hu, Document.orNull, Comparison.orderHolds,
      Value.isNull, hrelate, Relation.satisfies, bind, Except.bind]

theorem accepts_greaterThanOrEqual (m n : Int) :
    Operator.greaterThanOrEqual.accepts (compare m n) = decide (n ≤ m) := by
  rw [Operator.accepts, bne_eq, beq_eq_decide, ← decide_not]
  exact decide_eq_decide.2 Int.compare_ne_lt

theorem accepts_lessThanOrEqual (m n : Int) :
    Operator.lessThanOrEqual.accepts (compare m n) = decide (m ≤ n) := by
  rw [Operator.accepts, bne_eq, beq_eq_decide, ← decide_not]
  exact decide_eq_decide.2 Int.compare_ne_gt

/-- The condition of the term of a bound of a year with four digits. -/
theorem ofCriterion_boundTerm {word : String} {operator : Operator}
    (hoperator : operator ∈ [.greaterThanOrEqual, .lessThanOrEqual])
    (names : Names word.toList operator) (takes_value : operator.isNullCheck = false) {u : DateTime}
    (hyear : 1000 ≤ u.date.year) (k : Connective) :
    Condition.ofCriterion Document.schema
        ((boundTerm word operator names takes_value u).criterion k) =
      .ok (.compare Document.uploadColumn operator (.dateTime u.secondStart)) := by
  refine (ofCriterion_uploadDate hoperator k).1 _ ?_
  rw [boundTerm, String.toList_ofList]
  exact literal_momentChars hyear

/-- The term of a bound selects documents by the beginning of its second. -/
theorem selects_boundTerm {word : String} {operator : Operator}
    (hoperator : operator ∈ [.greaterThanOrEqual, .lessThanOrEqual])
    (names : Names word.toList operator) (takes_value : operator.isNullCheck = false) {u : DateTime}
    (hoffset : u.offset? = some .utc) (hyear : 1000 ≤ u.date.year) (k : Connective) {d : Document}
    {t : DateTime} (ht : d.uploadDate = some t) (hutc : t.toUtc?.isSome = true) :
    ((boundTerm word operator names takes_value u).criterion k).selects Document.schema d =
      operator.accepts (compare t.instant (secondStart u.instant)) := by
  obtain ⟨v, hv⟩ := Option.isSome_iff_exists.1 hutc
  have hholds := holds_uploadColumn hoperator ht hv (b := u.secondStart) rfl
  rw [DateTime.instant_secondStart hoffset] at hholds
  simp only [Criterion.selects, ofCriterion_boundTerm hoperator names takes_value hyear, hholds]

/-- The condition of the term of a bound passes the documents that the term selects. -/
theorem decides_boundTerm {word : String} {operator : Operator}
    (hoperator : operator ∈ [.greaterThanOrEqual, .lessThanOrEqual])
    (names : Names word.toList operator) (takes_value : operator.isNullCheck = false) {u : DateTime}
    (hyear : 1000 ≤ u.date.year) (k : Connective) {documents : List Document}
    (hupload : ∀ d ∈ documents, ∃ t, d.uploadDate = some t ∧ t.toUtc?.isSome = true) :
    ∃ condition,
      Condition.ofCriterion Document.schema
        ((boundTerm word operator names takes_value u).criterion k) = .ok condition ∧
      condition.Decides documents
        (((boundTerm word operator names takes_value u).criterion k).selects Document.schema) := by
  have hok := ofCriterion_boundTerm hoperator names takes_value hyear k
  have hcomparable : (Condition.compare Document.uploadColumn operator
      (.dateTime u.secondStart)).isComparable = true := by
    simp only [List.mem_cons, List.not_mem_nil, or_false] at hoperator
    rcases hoperator with rfl | rfl <;> rfl
  refine ⟨_, hok, Condition.decides_selects hok hcomparable fun d hd => ?_⟩
  obtain ⟨t, ht, hutc⟩ := hupload d hd
  obtain ⟨v, hv⟩ := Option.isSome_iff_exists.1 hutc
  exact ⟨_, holds_uploadColumn hoperator ht hv rfl⟩

variable {start? finish? : Option DateTime}

/-- The conditions of two bounds of years with four digits pass the documents that were uploaded
between the beginnings of their seconds. -/
theorem ofCriteria_boundTerms {documents : List Document}
    (hstart : ∀ u ∈ start?, u.offset? = some .utc ∧ 1000 ≤ u.date.year)
    (hfinish : ∀ u ∈ finish?, u.offset? = some .utc ∧ 1000 ≤ u.date.year)
    (hupload : ∀ d ∈ documents, ∃ t, d.uploadDate = some t ∧ t.toUtc?.isSome = true) :
    ∃ condition,
      Condition.ofCriteria Document.schema
        (rowCriteria true .and (boundTerms start? finish?)) = .ok condition ∧
      condition.Decides documents
        (Document.uploadedWithin (start?.map fun u => secondStart u.instant)
          (finish?.map fun u => secondStart u.instant)) := by
  have hcriteria : ∀ c ∈ rowCriteria true .and (boundTerms start? finish?), ∃ condition,
      Condition.ofCriterion Document.schema c = .ok condition ∧
        condition.Decides documents (c.selects Document.schema) := by
    intro c hc
    obtain ⟨-, g, hg, k, rfl⟩ := mem_rowCriteria (by decide) hc
    obtain ⟨word, operator, names, takes_value, u, hoperator, hu, rfl⟩ := mem_boundTerms hg
    have hyear : 1000 ≤ u.date.year := by
      rcases hu with hu | hu
      · exact (hstart u hu).2
      · exact (hfinish u hu).2
    exact decides_boundTerm hoperator names takes_value hyear k hupload
  obtain ⟨condition, hok, hcomparable, hholds⟩ :=
    Condition.ofCriteria_and (fun c hc => (mem_rowCriteria (by decide) hc).1) hcriteria
  refine ⟨condition, hok, hcomparable, fun d hd => ?_⟩
  obtain ⟨t, ht, hutc⟩ := hupload d hd
  have hstart' : ∀ u ∈ start?, ∀ k, ((startTerm u).criterion k).selects Document.schema d =
      decide (secondStart u.instant ≤ t.instant) := fun u hu k =>
    (selects_boundTerm (by decide) names_ge rfl (hstart u hu).1 (hstart u hu).2 k ht hutc).trans
      (accepts_greaterThanOrEqual ..)
  have hfinish' : ∀ u ∈ finish?, ∀ k, ((finishTerm u).criterion k).selects Document.schema d =
      decide (t.instant ≤ secondStart u.instant) := fun u hu k =>
    (selects_boundTerm (by decide) names_le rfl (hfinish u hu).1 (hfinish u hu).2 k ht hutc).trans
      (accepts_lessThanOrEqual ..)
  rw [hholds d hd]
  cases start? <;> cases finish? <;>
    simp [boundTerms, rowCriteria, hstart', hfinish', Document.uploadedWithin, ht, InWindow]

end DocumentQuery

/-! ## Searching by bounds -/

namespace Document

variable {origin : Origin Document} {shared : List Document} {start? finish? : Option DateTime}

/-- The default sort is by the time of creation, the newest first. -/
theorem ofRequest?_ofUpload :
    SortKey.ofRequest? schema (some (DocumentQuery.ofUpload start? finish?).sort) =
      some ⟨createdColumn, true⟩ := by
  have hsort : (DocumentQuery.ofUpload start? finish?).sort = ⟨"created", "DESC"⟩ := rfl
  rw [hsort]
  decide

/-- The beginnings of the seconds of bounds at offset zero are those of their instants. -/
theorem map_secondStart (t? : Option DateTime) (h : ∀ t ∈ t?, t.toUtc?.isSome = true) :
    ((t?.bind DateTime.toUtc?).map fun u => secondStart u.instant) =
      t?.map fun t => secondStart t.instant := by
  cases t? with
  | none => rfl
  | some t =>
    obtain ⟨u, hu⟩ := Option.isSome_iff_exists.1 (h t rfl)
    simp [hu, (DateTime.instant_toUtc? hu).2]

/-- A search by bounds of years with four digits finds the documents that were uploaded between the
beginnings of their seconds. -/
theorem search_ofUpload (hstart : ∀ t ∈ start?, t.toUtc?.isSome = true)
    (hfinish : ∀ t ∈ finish?, t.toUtc?.isSome = true)
    (hstart' : ∀ t ∈ start?, t.HasFourDigitYear) (hfinish' : ∀ t ∈ finish?, t.HasFourDigitYear)
    (hmissing : ∀ d ∈ held origin shared, Asset.missing d = [])
    (hutc : ∀ d ∈ held origin shared, ∀ t ∈ d.uploadDate.toList ++ d.created.toList,
      t.toUtc?.isSome = true) :
    ∃ (rows : List Document) (assets : List Asset),
      rows.Perm ((held origin shared).filter (uploadedWithin
        (start?.map fun t => secondStart t.instant) (finish?.map fun t => secondStart t.instant))) ∧
      rows.mapM Asset.ofDocument = .ok assets ∧
      search (.memory (.ofOrigin schema origin)) shared (.ofUpload start? finish?) =
        .ok assets := by
  have hbound {t? : Option DateTime} (ht' : ∀ t ∈ t?, t.HasFourDigitYear) :
      ∀ u ∈ t?.bind DateTime.toUtc?, u.offset? = some .utc ∧ 1000 ≤ u.date.year := by
    intro u hu
    obtain ⟨t, ht, hu⟩ := Option.bind_eq_some_iff.1 hu
    exact ⟨(DateTime.instant_toUtc? hu).1, ht' t ht u hu⟩
  have hupload : ∀ d ∈ held origin shared, ∃ t, d.uploadDate = some t ∧ t.toUtc?.isSome = true := by
    intro d hd
    obtain ⟨a, -, ha⟩ := ofDocument_ok (hmissing d hd)
    exact ⟨_, ha, hutc d hd _ (by simp [ha])⟩
  obtain ⟨text?, htext, hread⟩ := DocumentQuery.ofText?_filterText_ofUpload hstart hfinish
  obtain ⟨condition, hcondition, hdecides⟩ :=
    DocumentQuery.ofCriteria_boundTerms (hbound hstart') (hbound hfinish') hupload
  rw [map_secondStart start? hstart, map_secondStart finish? hfinish] at hdecides
  refine search_memory htext (by rw [hread]; exact hcondition) hdecides
    ofRequest?_ofUpload (fun d hd t ht => hutc d hd t ?_) hmissing
  simp [Option.mem_def.1 ht]

/-- A search by a bound of a year with fewer digits is refused. -/
theorem search_ofUpload_short (hstart : ∀ t ∈ start?, t.toUtc?.isSome = true)
    (hfinish : ∀ t ∈ finish?, t.toUtc?.isSome = true)
    (hshort : ¬((∀ t ∈ start?, t.HasFourDigitYear) ∧ ∀ t ∈ finish?, t.HasFourDigitYear)) :
    ∃ e, search (.memory (.ofOrigin schema origin)) shared (.ofUpload start? finish?) =
      .error e := by
  obtain ⟨text?, htext, hread⟩ := DocumentQuery.ofText?_filterText_ofUpload hstart hfinish
  suffices hrefused : ∃ c ∈ (Filter.ofText? text?).criteria, ∃ e,
      Condition.ofCriterion schema c = .error e by
    obtain ⟨c, hc, e, he⟩ := hrefused
    obtain ⟨e, he⟩ := Condition.ofCriteria_error hc he
    exact ⟨e, search_error htext (List.ne_nil_of_mem hc) he⟩
  rw [hread]
  have hterm {u : DateTime} {word : String} {operator : Operator}
      (hoperator : operator ∈ [.greaterThanOrEqual, .lessThanOrEqual])
      (names : Names word.toList operator) (takes_value : operator.isNullCheck = false)
      (hyear : u.date.year < 1000)
      (hmem : DocumentQuery.boundTerm word operator names takes_value u ∈
        DocumentQuery.boundTerms (start?.bind DateTime.toUtc?) (finish?.bind DateTime.toUtc?)) :
      ∃ c ∈ rowCriteria true .and (DocumentQuery.boundTerms (start?.bind DateTime.toUtc?)
          (finish?.bind DateTime.toUtc?)), ∃ e, Condition.ofCriterion schema c = .error e := by
    obtain ⟨k, hk⟩ := exists_criterion_mem hmem true .and
    refine ⟨_, hk, _, (DocumentQuery.ofCriterion_uploadDate hoperator k).2 "datetime" ?_⟩
    rw [DocumentQuery.boundTerm, String.toList_ofList]
    exact DocumentQuery.literal_momentChars_short hyear
  have hexists {t? : Option DateTime} (h : ¬∀ t ∈ t?, t.HasFourDigitYear) :
      ∃ u, t?.bind DateTime.toUtc? = some u ∧ u.date.year < 1000 := by
    simp only [DateTime.HasFourDigitYear, not_forall, not_le] at h
    obtain ⟨t, ht, u, hu, hyear⟩ := h
    exact ⟨u, by rw [Option.mem_def.1 ht]; exact hu, hyear⟩
  rcases not_and_or.1 hshort with h | h
  · obtain ⟨u, hu, hyear⟩ := hexists h
    exact hterm (by decide) DocumentQuery.names_ge rfl hyear
      (by simp [DocumentQuery.boundTerms, hu, DocumentQuery.startTerm])
  · obtain ⟨u, hu, hyear⟩ := hexists h
    exact hterm (by decide) DocumentQuery.names_le rfl hyear
      (by simp [DocumentQuery.boundTerms, hu, DocumentQuery.finishTerm])

/-- An asset shows when its document was uploaded, so of two tests of the time of upload that lead
to the same assets, one passes the documents that the other does. -/
theorem of_same_assets {documents rows rows' : List Document} {assets : List Asset}
    {p p' : Document → Bool} (hmissing : ∀ d ∈ documents, Asset.missing d = [])
    (hp : ∀ d e : Document, d.uploadDate = e.uploadDate → p d = p e)
    (hrows : rows.Perm (documents.filter p)) (hrows' : rows'.Perm (documents.filter p'))
    (hassets : rows.mapM Asset.ofDocument = .ok assets)
    (hassets' : rows'.mapM Asset.ofDocument = .ok assets) :
    ∀ d ∈ documents, p' d = true → p d = true := by
  intro d hd hpd
  have hmem : d ∈ rows' := hrows'.mem_iff.2 (List.mem_filter.2 ⟨hd, hpd⟩)
  obtain ⟨a, ha, hda⟩ := (mem_of_mapM_ok hassets').1 d hmem
  obtain ⟨e, he, hea⟩ := (mem_of_mapM_ok hassets).2 a ha
  obtain ⟨he, hpe⟩ := List.mem_filter.1 (hrows.mem_iff.1 he)
  have hupload {c : Document} (hc : c ∈ documents) (hca : Asset.ofDocument c = .ok a) :
      c.uploadDate = some a.uploadDate := by
    obtain ⟨b, hcb, hb⟩ := ofDocument_ok (hmissing c hc)
    rw [hca] at hcb
    cases hcb
    exact hb
  rw [hp d e ((hupload hd hda).trans (hupload he hea).symm), hpe]

/-- A search in memory by bounds on the time of upload gives exactly the documents that were
uploaded between the bounds if and only if the years of the bounds have four digits and no document
was uploaded between a bound and the beginning of its second. -/
theorem search_ofUpload_iff (hstart : ∀ t ∈ start?, t.toUtc?.isSome = true)
    (hfinish : ∀ t ∈ finish?, t.toUtc?.isSome = true)
    (hmissing : ∀ d ∈ held origin shared, Asset.missing d = [])
    (hutc : ∀ d ∈ held origin shared, ∀ t ∈ d.uploadDate.toList ++ d.created.toList,
      t.toUtc?.isSome = true) :
    (∃ (rows : List Document) (assets : List Asset),
      rows.Perm ((held origin shared).filter (uploadedWithin
        (start?.map DateTime.instant) (finish?.map DateTime.instant))) ∧
      rows.mapM Asset.ofDocument = .ok assets ∧
      search (.memory (.ofOrigin schema origin)) shared (.ofUpload start? finish?) =
        .ok assets) ↔
    ((∀ t ∈ start?, t.HasFourDigitYear) ∧ ∀ t ∈ finish?, t.HasFourDigitYear) ∧
      ∀ d ∈ held origin shared,
        d.uploadedWithin (start?.map fun t => secondStart t.instant)
            (finish?.map fun t => secondStart t.instant) =
          d.uploadedWithin (start?.map DateTime.instant) (finish?.map DateTime.instant) := by
  constructor
  · rintro ⟨rows, assets, hperm, hassets, hsearch⟩
    have hyears : (∀ t ∈ start?, t.HasFourDigitYear) ∧ ∀ t ∈ finish?, t.HasFourDigitYear := by
      by_contra hshort
      have hrefused : ∃ e, search (.memory (.ofOrigin schema origin)) shared
          (.ofUpload start? finish?) = .error e := search_ofUpload_short hstart hfinish hshort
      obtain ⟨e, he⟩ := hrefused
      rw [he] at hsearch
      cases hsearch
    refine ⟨hyears, fun d hd => ?_⟩
    -- the rows between the bounds and those of the search have the same assets
    obtain ⟨rows', assets', hperm', hassets', hsearch'⟩ :=
      search_ofUpload hstart hfinish hyears.1 hyears.2 hmissing hutc
    rw [hsearch'] at hsearch
    cases hsearch
    have hwindow (a? b? : Option Int) (d e : Document) (h : d.uploadDate = e.uploadDate) :
        d.uploadedWithin a? b? = e.uploadedWithin a? b? := by rw [uploadedWithin, h, uploadedWithin]
    exact Bool.eq_iff_iff.2
      ⟨of_same_assets hmissing (hwindow _ _) hperm hperm' hassets hassets' d hd,
        of_same_assets hmissing (hwindow _ _) hperm' hperm hassets' hassets d hd⟩
  · rintro ⟨hyears, hsame⟩
    obtain ⟨rows, assets, hperm, hassets, hsearch⟩ :=
      search_ofUpload hstart hfinish hyears.1 hyears.2 hmissing hutc
    rw [List.filter_congr hsame] at hperm
    exact ⟨rows, assets, hperm, hassets, hsearch⟩

/-- Noon of a day, and a number of microseconds, at offset zero. -/
def noon (micros : Nat) (h : 43200 * secondMicros + micros < dayMicros) : DateTime :=
  ⟨⟨2024, 1, 10, by decide⟩, ⟨43200 * secondMicros + micros, h⟩, some .utc⟩

/-- A document that was created and uploaded at a time. -/
def uploadedAt (t : DateTime) : Document where
  id := some ⟨1, by decide⟩
  filename := some "a.pdf"
  contentType := some "application/pdf"
  documentType := some .contract
  channel := some .digital
  customerId := none
  status := some .received
  url := none
  size := some 1000
  uploadDate := some t
  correlationId := none
  created := some t
  updated := none
  deleted := none
  createdBy := none
  updatedBy := none
  deletedBy := none

/-- Bounds at whole seconds find a document that was uploaded between them. -/
theorem search_ofUpload_whole_seconds :
    let start := noon 0 (by decide)
    let finish := noon 1000000 (by decide)
    let d := uploadedAt (noon 500000 (by decide))
    (start.toUtc?.isSome = true ∧ finish.toUtc?.isSome = true) ∧ Asset.missing d = [] ∧
      (∀ t ∈ d.uploadDate.toList ++ d.created.toList, t.toUtc?.isSome = true) ∧
      ∃ (rows : List Document) (assets : List Asset),
        rows.Perm ([d].filter (uploadedWithin (some start.instant) (some finish.instant))) ∧
        rows.mapM Asset.ofDocument = .ok assets ∧
        search (.memory (.ofOrigin schema (.own [d]))) [] (.ofUpload (some start) (some finish)) =
          .ok assets := by
  intro start finish d
  have hheld : ∀ {p : Document → Prop}, p d → ∀ e ∈ held (.own [d]) [], p e := by
    intro p hp e he
    rwa [List.mem_singleton.1 he]
  have hutc : ∀ t ∈ d.uploadDate.toList ++ d.created.toList, t.toUtc?.isSome = true := by decide
  refine ⟨⟨by decide, by decide⟩, by decide, hutc, ?_⟩
  exact (@search_ofUpload_iff (.own [d]) [] (some start) (some finish) (by simp; decide)
    (by simp; decide) (hheld (by decide)) (hheld hutc)).2
      ⟨⟨by decide, by decide⟩, hheld (by decide)⟩

/-- A document that was uploaded in the middle of a second is not found by that time as its upper
bound. -/
theorem search_ofUpload_half_second :
    let t := noon 500000 (by decide)
    (uploadedAt t).uploadedWithin none (some t.instant) = true ∧
      (search (.memory (.ofOrigin schema (.own [uploadedAt t]))) []
        (.ofUpload none (some t))).toOption = some [] := by
  decide

end Document

end RecordQuery
