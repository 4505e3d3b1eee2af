import RecordQuery.Document.Query
import RecordQuery.Proofs.Filter.Row

/-!
# Typed texts in the filter of a query

The texts of a query stand between single quotes in its filter, and nothing is done about the quotes
in them. `ofText?_filterText_iff`: the filter of a query without dates is read as the criteria of
its fields, and nothing of it is dropped, if and only if every typed text stays whole between its
quotes. A text with `' or ` in it does not (`ofText?_filterText_quote`). Texts in which no single
quote stands before a blank, a closing parenthesis or a comma do
(`ofText?_filterText_of_enclosable`).
-/

namespace RecordQuery.DocumentQuery

open Text RecordQuery.Filter

/-! ## The terms of the fields -/

/-- The term that looks for a text in the name of the file. -/
def filenameTerm (s : List Char) : TextTerm where
  property := "filename"
  word := "contains"
  operator := .contains
  text := s
  isProperty := by decide
  names := ⟨("contains", .contains), by decide, rfl, by decide⟩
  takes_value := rfl

/-- The term that asks for a value of a property. -/
def valueTerm (property : String) (isProperty : IsProperty property.toList) (s : List Char) :
    TextTerm where
  property
  word := "eq"
  operator := .equals
  text := s
  isProperty
  names := ⟨("eq", .equals), by decide, rfl, by decide⟩
  takes_value := rfl

theorem isProperty_contentType : IsProperty "contentType".toList := by
  decide

theorem isProperty_documentType : IsProperty "documentType".toList := by
  decide

theorem isProperty_status : IsProperty "status".toList := by decide

theorem isProperty_customerId : IsProperty "customerId".toList := by
  decide

theorem isProperty_channel : IsProperty "channel".toList := by
  decide

/-- The term of a text that is set and not blank. -/
def typedTerm (term : List Char → TextTerm) (s? : Option String) : List TextTerm :=
  match s? with
  | none => []
  | some s => if allBlank s.toList then [] else [term s.toList]

/-- The term of a name that is set. -/
def namedTerm (term : List Char → TextTerm) (name? : Option String) : List TextTerm :=
  (name?.map fun name => term name.toList).toList

/-- The terms of the fields of a query, dates aside. -/
def textTerms (q : DocumentQuery) : List TextTerm :=
  typedTerm filenameTerm q.filename ++
    typedTerm (valueTerm "contentType" isProperty_contentType) q.contentType ++
    namedTerm (valueTerm "documentType" isProperty_documentType)
      (q.documentType.map DocumentType.name) ++
    namedTerm (valueTerm "status" isProperty_status) (q.status.map DocumentStatus.name) ++
    typedTerm (valueTerm "customerId" isProperty_customerId) q.customerId ++
    namedTerm (valueTerm "channel" isProperty_channel) (q.channel.map Channel.name)

/-- The texts that were typed into a query. -/
def typedTexts (q : DocumentQuery) : List String :=
  q.filename.toList ++ q.contentType.toList ++ q.customerId.toList

/-! ## The filter of a query -/

/-- A query whose terms are the encoded terms of a row is read term by term if and only if every
text in the row stays whole. -/
theorem ofText?_filterText_of_terms {q : DocumentQuery} {gs : List TextTerm}
    (h : q.terms = .ok (gs.map fun g => percentEncode g.chars)) :
    ∃ text?, q.filterText = .ok text? ∧
      (Filter.ofText? text? = ⟨rowCriteria true .and gs, []⟩ ↔
        ∀ g ∈ gs, StaysWhole (quotesCount (row gs)) g.text) := by
  have htext : q.filterText = .ok (if gs.isEmpty then none
      else some (String.ofList (percentEncode (row gs)))) := by
    rw [filterText, h, ← percentEncode_row]
    cases gs <;> rfl
  refine ⟨_, htext, ?_⟩
  cases gs with
  | nil => simp [Filter.ofText?, empty, rowCriteria]
  | cons g gs =>
    rw [← ofParts_ofText_row_iff g gs]
    simp [Filter.ofText?, ofText, percentDecode_percentEncode]

/-- Texts that their quotes enclose are read back, whatever else they hold. -/
theorem ofText?_filterText_of_enclosable {q : DocumentQuery} {gs : List TextTerm}
    (h : q.terms = .ok (gs.map fun g => percentEncode g.chars))
    (hgs : ∀ g ∈ gs, Enclosable singleQuote g.text) :
    ∃ text?, q.filterText = .ok text? ∧
      Filter.ofText? text? = ⟨rowCriteria true .and gs, []⟩ := by
  obtain ⟨text?, htext, hiff⟩ := ofText?_filterText_of_terms h
  have hwhole : ∀ g ∈ gs, StaysWhole true g.text := fun g hg => .of_enclosable (hgs g hg)
  exact ⟨text?, htext, hiff.2 (quotesCount_row hwhole ▸ hwhole)⟩

/-- The term of a text, encoded. -/
theorem term_percentEncode (g : TextTerm) :
    term g.property g.word (percentEncode g.text) = percentEncode g.chars := by
  rw [g.percentEncode_chars]
  simp [term, TextTerm.lead]

/-- A text that is set gives its term, encoded. -/
theorem textTerm_eq (term : List Char → TextTerm) {property word : String}
    (hterm : ∀ s, (term s).property = property ∧ (term s).word = word ∧ (term s).text = s)
    (s? : Option String) :
    textTerm property word s? = (typedTerm term s?).map fun g => percentEncode g.chars := by
  cases s? with
  | none => rfl
  | some s =>
    obtain ⟨hproperty, hword, htext⟩ := hterm s.toList
    have hchars := term_percentEncode (term s.toList)
    rw [hproperty, hword, htext] at hchars
    cases hblank : allBlank s.toList <;> simp [textTerm, typedTerm, hblank, hchars]

/-- A name that is set gives its term, which is its own encoding. -/
theorem nameTerm_eq {property : String} (isProperty : IsProperty property.toList)
    {name? : Option String} (hname : ∀ name ∈ name?, percentEncode name.toList = name.toList) :
    nameTerm property name? =
      (namedTerm (valueTerm property isProperty) name?).map fun g => percentEncode g.chars := by
  cases name? with
  | none => rfl
  | some name =>
    have hchars := term_percentEncode (valueTerm property isProperty name.toList)
    simp only [valueTerm, hname name rfl] at hchars
    simp [nameTerm, namedTerm, hchars, valueTerm]

/-- The terms of a query without dates. -/
theorem terms_eq {q : DocumentQuery} (hstart : q.uploadStart = none) (hend : q.uploadEnd = none) :
    q.terms = .ok (q.textTerms.map fun g => percentEncode g.chars) := by
  have htype : ∀ t : DocumentType, percentEncode t.name.toList = t.name.toList := by
    intro t; cases t <;> decide
  have hstatus : ∀ t : DocumentStatus, percentEncode t.name.toList = t.name.toList := by
    intro t; cases t <;> decide
  have hchannel : ∀ t : Channel, percentEncode t.name.toList = t.name.toList := by
    intro t; cases t <;> decide
  rw [terms, hstart, hend]
  simp only [textTerms, List.map_append]
  rw [← textTerm_eq filenameTerm (fun _ => ⟨rfl, rfl, rfl⟩),
    ← textTerm_eq (valueTerm "contentType" _) (fun _ => ⟨rfl, rfl, rfl⟩),
    ← textTerm_eq (valueTerm "customerId" _) (fun _ => ⟨rfl, rfl, rfl⟩),
    ← nameTerm_eq isProperty_documentType (by simp [htype]),
    ← nameTerm_eq isProperty_status (by simp [hstatus]),
    ← nameTerm_eq isProperty_channel (by simp [hchannel])]
  rfl

/-- A blank text stays whole. -/
theorem staysWhole_of_allBlank (quotes : Bool) {s : List Char} (hs : allBlank s = true) :
    StaysWhole quotes s := by
  have hs : ∀ c ∈ s, isBlank c = true := by simpa [allBlank] using hs
  have hquote : singleQuote ∉ s := fun h => absurd (hs _ h) (by decide)
  cases quotes with
  | true => exact .of_enclosable (.of_notMem hquote)
  | false =>
    have hclose : Mark.from? false ⟨s.getLast?.or (some singleQuote), none, 0⟩ [singleQuote] =
        some [.letter singleQuote] := from?_letter (by simp) (connectiveAt?_cons (by decide) _ _)
    rw [StaysWhole, Position.behindQuote, if_neg (by simp), from?_blanks hs, hclose]
    simp

/-- The texts of a query stay whole if and only if the typed ones do: names hold no quote and no
blank. -/
theorem staysWhole_textTerms_iff (quotes : Bool) (q : DocumentQuery) :
    (∀ g ∈ q.textTerms, StaysWhole quotes g.text) ↔
      ∀ s ∈ q.typedTexts, StaysWhole quotes s.toList := by
  have htype : ∀ t : DocumentType, StaysWhole quotes t.name.toList := by
    intro t; cases t <;> cases quotes <;> decide
  have hstatus : ∀ t : DocumentStatus, StaysWhole quotes t.name.toList := by
    intro t; cases t <;> cases quotes <;> decide
  have hchannel : ∀ t : Channel, StaysWhole quotes t.name.toList := by
    intro t; cases t <;> cases quotes <;> decide
  have htyped (term : List Char → TextTerm) (hterm : ∀ s, (term s).text = s) (s? : Option String) :
      (∀ g ∈ typedTerm term s?, StaysWhole quotes g.text) ↔
        ∀ s ∈ s?.toList, StaysWhole quotes s.toList := by
    cases s? with
    | none => simp [typedTerm]
    | some s =>
      cases hblank : allBlank s.toList with
      | false => simp [typedTerm, hblank, hterm]
      | true => simp [typedTerm, hblank, staysWhole_of_allBlank quotes hblank]
  have hnamed (term : List Char → TextTerm) (hterm : ∀ s, (term s).text = s)
      (name? : Option String) (h : ∀ name ∈ name?, StaysWhole quotes name.toList) :
      ∀ g ∈ namedTerm term name?, StaysWhole quotes g.text := by
    cases name? with
    | none => simp [namedTerm]
    | some name => simpa [namedTerm, hterm] using h name rfl
  simp only [textTerms, typedTexts, List.forall_mem_append]
  rw [htyped filenameTerm fun _ => rfl, htyped (valueTerm "contentType" _) fun _ => rfl,
    htyped (valueTerm "customerId" _) fun _ => rfl]
  have htype' := hnamed (valueTerm "documentType" isProperty_documentType) (fun _ => rfl)
    (q.documentType.map DocumentType.name) (by simp [htype])
  have hstatus' := hnamed (valueTerm "status" isProperty_status) (fun _ => rfl)
    (q.status.map DocumentStatus.name) (by simp [hstatus])
  have hchannel' := hnamed (valueTerm "channel" isProperty_channel) (fun _ => rfl)
    (q.channel.map Channel.name) (by simp [hchannel])
  tauto

/-- The filter of a query without dates is read as one criterion for every field that is set, with
the text of the field, and nothing of it is dropped, if and only if every typed text stays whole. -/
theorem ofText?_filterText_iff {q : DocumentQuery} (hstart : q.uploadStart = none)
    (hend : q.uploadEnd = none) :
    ∃ text?, q.filterText = .ok text? ∧
      (Filter.ofText? text? = ⟨rowCriteria true .and q.textTerms, []⟩ ↔
        ∀ s ∈ q.typedTexts, StaysWhole (quotesCount (row q.textTerms)) s.toList) := by
  rw [← staysWhole_textTerms_iff]
  exact ofText?_filterText_of_terms (terms_eq hstart hend)

/-- The query that only looks for a text in the names of files. -/
def ofFilename (s : String) : DocumentQuery :=
  ⟨none, none, some s, none, none, none, none, none, "", ""⟩

/-- A quote before a letter and a connective do no harm. -/
theorem ofText?_filterText_apostrophe :
    (ofFilename "O'Neill and Sons").uploadStart = none ∧
      (ofFilename "O'Neill and Sons").uploadEnd = none ∧
      ∃ text?, (ofFilename "O'Neill and Sons").filterText = .ok text? ∧
        Filter.ofText? text? =
          ⟨[⟨"filename", .contains, .text "O'Neill and Sons", .none⟩], []⟩ := by
  obtain ⟨text?, htext, hiff⟩ :=
    ofText?_filterText_iff (q := ofFilename "O'Neill and Sons") rfl rfl
  exact ⟨rfl, rfl, text?, htext, hiff.2 (by decide)⟩

/-- A quote before a blank ends the text, and what follows it is read as a term of its own. -/
theorem ofText?_filterText_quote :
    ∃ text?, (ofFilename "zzz' or filename contains 'a").filterText = .ok text? ∧
      Filter.ofText? text? = ⟨[⟨"filename", .contains, .text "zzz", .none⟩,
        ⟨"filename", .contains, .text "a", .or⟩], []⟩ ∧
      Filter.ofText? text? ≠
        ⟨[⟨"filename", .contains, .text "zzz' or filename contains 'a", .none⟩], []⟩ :=
  ⟨_, rfl, by decide, by decide⟩

end RecordQuery.DocumentQuery
