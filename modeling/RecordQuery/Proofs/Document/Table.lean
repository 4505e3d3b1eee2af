import RecordQuery.Document.Search
import RecordQuery.Proofs.Source.Agreement

/-!
# Tables of documents

Every column reads one entry of documents (`hasEntry_of_mem`), of which a value of its kind is
stored. So every column of a document that was stored holds a value of its kind, or no value where
the column may be without (`isHeld_stored`), and by criteria that do not look into texts, a table of
documents selects the documents that a list of the same stored documents selects
(`table_select_ofCriteria`).
-/

namespace RecordQuery.Document

open Time

/-- Every column that is never null has a value in the document. -/
def IsComplete (d : Document) : Prop :=
  ∀ f ∈ columns, f.nullable = false → Readable.value? d f.name ≠ some .null

instance (d : Document) : Decidable d.IsComplete :=
  inferInstanceAs (Decidable (∀ f ∈ columns, f.nullable = false → _))

/-- All columns of the table of documents are columns. -/
theorem isColumn_of_mem : ∀ f ∈ schema.fields, f.isColumn = true := by decide

/-! ## What the columns hold -/

/-- A document of which all texts are the same. -/
def ofText (s : String) : Document where
  id := some ⟨2, by decide⟩
  filename := some s
  contentType := some s
  documentType := some .contract
  channel := some .digital
  customerId := some s
  status := some .received
  url := some s
  size := some 1000
  uploadDate := some ⟨⟨2023, 5, 2, by decide⟩, .midnight, none⟩
  correlationId := some s
  created := some ⟨⟨2023, 5, 2, by decide⟩, .midnight, none⟩
  updated := none
  deleted := none
  createdBy := none
  updatedBy := none
  deletedBy := none

variable {d : Document} {f : Field}

/-- The column reads an entry of documents, of which the table stores values of its kind. -/
structure HasEntry {α : Type} (f : Field) (toValue : α → Value) (kept : α → α)
    (entry : Document → Option α) : Prop where
  /-- The entry is what is read of a document. -/
  value?_eq (d : Document) : Readable.value? d f.name = some (orNull toValue (entry d))
  /-- The entry of a stored document is what is kept of the entry. -/
  entry_stored (d : Document) : entry d.stored = (entry d).map kept
  /-- What is kept is of the kind of the column. -/
  hasKind (a : α) : (toValue (kept a)).HasKind none f.kind

/-- An entry that is stored as it is. -/
theorem HasEntry.plain {α : Type} {toValue : α → Value} {entry : Document → Option α}
    (hvalue : ∀ d, Readable.value? d f.name = some (orNull toValue (entry d)))
    (hstored : ∀ d, entry d.stored = entry d) (hkind : ∀ a, (toValue a).HasKind none f.kind) :
    HasEntry f toValue (fun a => a) entry :=
  ⟨hvalue, fun d => (hstored d).trans (Option.map_id_apply' ..).symm, hkind⟩

/-- A date-time, which is stored without its offset. -/
theorem HasEntry.dateTime {entry : Document → Option DateTime} (hkind : f.kind = .dateTime)
    (hvalue : ∀ d, Readable.value? d f.name = some (orNull .dateTime (entry d)))
    (hstored : ∀ d, entry d.stored = (entry d).map fun t => { t with offset? := none }) :
    HasEntry f .dateTime (fun t => { t with offset? := none }) entry :=
  ⟨hvalue, hstored, fun _ => hkind ▸ .dateTime _ rfl⟩

/-- A column of documents reads one entry, and any text may be the entry of a column of texts. -/
theorem hasEntry_of_mem (hf : f ∈ columns) :
    (∃ entry, HasEntry f .text (fun s => s) entry ∧ ∀ s, entry (ofText s) = some s) ∨
      f.kind ≠ .string ∧ ∃ (α : Type) (toValue : α → Value) (kept : α → α)
        (entry : Document → Option α), HasEntry f toValue kept entry := by
  simp only [columns, List.mem_cons, List.not_mem_nil, or_false] at hf
  rcases hf with rfl | rfl | rfl | rfl | rfl | rfl | rfl | rfl | rfl | rfl | rfl | rfl | rfl |
    rfl | rfl | rfl | rfl
  · exact .inl ⟨filename, .plain (fun _ => rfl) (fun _ => rfl) .text, fun _ => rfl⟩
  · exact .inl ⟨contentType, .plain (fun _ => rfl) (fun _ => rfl) .text, fun _ => rfl⟩
  · exact .inr ⟨nofun, _, _, _, documentType,
      .plain (fun _ => rfl) (fun _ => rfl) fun t => .member _ t.name⟩
  · exact .inr ⟨nofun, _, _, _, channel,
      .plain (fun _ => rfl) (fun _ => rfl) fun c => .member _ c.name⟩
  · exact .inl ⟨customerId, .plain (fun _ => rfl) (fun _ => rfl) .text, fun _ => rfl⟩
  · exact .inr ⟨nofun, _, _, _, status,
      .plain (fun _ => rfl) (fun _ => rfl) fun s => .member _ s.name⟩
  · exact .inl ⟨url, .plain (fun _ => rfl) (fun _ => rfl) .text, fun _ => rfl⟩
  · exact .inr ⟨nofun, _, _, _, size, .plain (fun _ => rfl) (fun _ => rfl) .int⟩
  · exact .inr ⟨nofun, _, _, _, uploadDate, .dateTime rfl (fun _ => rfl) fun _ => rfl⟩
  · exact .inl ⟨correlationId, .plain (fun _ => rfl) (fun _ => rfl) .text, fun _ => rfl⟩
  · exact .inr ⟨nofun, _, _, _, id, .plain (fun _ => rfl) (fun _ => rfl) .guid⟩
  · exact .inr ⟨nofun, _, _, _, created, .dateTime rfl (fun _ => rfl) fun _ => rfl⟩
  · exact .inr ⟨nofun, _, _, _, updated, .dateTime rfl (fun _ => rfl) fun _ => rfl⟩
  · exact .inr ⟨nofun, _, _, _, deleted, .dateTime rfl (fun _ => rfl) fun _ => rfl⟩
  · exact .inr ⟨nofun, _, _, _, createdBy, .plain (fun _ => rfl) (fun _ => rfl) .guid⟩
  · exact .inr ⟨nofun, _, _, _, updatedBy, .plain (fun _ => rfl) (fun _ => rfl) .guid⟩
  · exact .inr ⟨nofun, _, _, _, deletedBy, .plain (fun _ => rfl) (fun _ => rfl) .guid⟩

/-- A column that reads an entry holds what is stored of it. Where nothing is, the column may be
without a value. -/
theorem HasEntry.isHeld {α : Type} {toValue : α → Value} {kept : α → α}
    {entry : Document → Option α} (h : HasEntry f toValue kept entry) (hd : d.IsComplete)
    (hf : f ∈ columns) : f.IsHeld d.stored := by
  refine ⟨_, h.value?_eq d.stored, ?_⟩
  rw [h.entry_stored]
  cases hentry : entry d with
  | none =>
    have hnull : f.nullable = true := by
      rw [← Bool.not_eq_false]
      intro hnullable
      refine hd f hf hnullable ?_
      rw [h.value?_eq, hentry]
      rfl
    exact .inl ⟨rfl, hnull⟩
  | some a => exact .inr (h.hasKind a)

/-- A stored document holds a value of its kind in every column, or no value where the column may be
without. -/
theorem isHeld_stored (hd : d.IsComplete) (hf : f ∈ columns) : f.IsHeld d.stored := by
  rcases hasEntry_of_mem hf with ⟨_, h, -⟩ | ⟨-, _, _, _, _, h⟩
  · exact h.isHeld hd hf
  · exact h.isHeld hd hf

/-! ## Selections -/

variable {documents shared : List Document} {cs : List Criterion} {selection : Selection}

/-- The rows of a table of documents hold values of the kinds of their columns. -/
theorem isHeld_of_mem (hcomplete : ∀ d ∈ documents, d.IsComplete) :
    ∀ row ∈ documents.map stored, ∀ f ∈ schema.fields, f.IsHeld row := by
  intro row hrow f hf
  obtain ⟨d, hd, rfl⟩ := List.mem_map.1 hrow
  exact isHeld_stored (hcomplete d hd) hf

/-- By criteria that do not look into texts, a table of documents gives exactly the stored documents
that the selection selects, and counts them. -/
theorem table_select_ofCriteria (hcomplete : ∀ d ∈ documents, d.IsComplete)
    (hmatch : ∀ c ∈ cs, c.operator.isTextMatch = false)
    (hselection : Selection.ofCriteria schema cs = .ok selection)
    (hliterals : ∀ v ∈ selection.condition.literals, v.fitsWord = true) :
    ∃ source, (table documents).select selection = .ok source ∧
      ∃ found, (documents.map stored).filterM selection.selects = .ok found ∧
        source.all shared = .ok found ∧ source.count shared = .ok found.length := by
  obtain ⟨t, ht, found, hfound, hall, hcount⟩ :=
    TableSource.select_ofCriteria isColumn_of_mem (isHeld_of_mem hcomplete) hmatch hselection
      hliterals
  refine ⟨.table t, ?_, found, hfound, hall, hcount⟩
  rw [table, Source.select, ht]
  rfl

/-- A table with a document of a customer and one without, stored at another offset. Inequality to
the customer, the beginning of a day and a list of sizes select the one without. -/
theorem table_select_missing_customer :
    let t : DateTime := ⟨⟨2024, 1, 10, by decide⟩, .midnight, Offset.of? 3600000000⟩
    let d : Document := ⟨some ⟨1, by decide⟩, some "a.pdf", some "application/pdf", some .contract,
      some .digital, some "c-1", some .received, none, some 1000, some t, none, some t, none, none,
      none, none, none⟩
    let documents := [d, { d with customerId := none, updated := some t }]
    let cs : List Criterion :=
      [⟨"customerId", .notEquals, .text "c-1", .none⟩,
       ⟨"uploadDate", .greaterThanOrEqual, .text "2024-01-10", .and⟩,
       ⟨"size", .oneOf, .list ["1", "-2"], .or⟩]
    let size := column "size" (some .int) false
    let selection : Selection := ⟨"Document",
      .or
        (.and (.compare (column "customer_id" (some .text) true) .notEquals (.text "c-1"))
          (.compare (column "upload_date" (some .dateTime) false) .greaterThanOrEqual
            (.dateTime ⟨t.date, .midnight, some .utc⟩)))
        (.or (.compare size .equals (.int 1)) (.compare size .equals (.int (-2)))), rfl⟩
    (∀ d ∈ documents, d.IsComplete) ∧ (∀ c ∈ cs, c.operator.isTextMatch = false) ∧
      Selection.ofCriteria schema cs = .ok selection ∧
      (∀ v ∈ selection.condition.literals, v.fitsWord = true) ∧
      ∃ source, (table documents).select selection = .ok source ∧
        ∃ found, (documents.map stored).filterM selection.selects = .ok found ∧
          source.all [] = .ok found ∧ source.count [] = .ok found.length := by
  intro t d documents cs size selection
  have hcomplete : ∀ d ∈ documents, d.IsComplete := by decide
  have hmatch : ∀ c ∈ cs, c.operator.isTextMatch = false := by decide
  have hselection : Selection.ofCriteria schema cs = .ok selection := rfl
  have hliterals : ∀ v ∈ selection.condition.literals, v.fitsWord = true := by decide
  exact ⟨hcomplete, hmatch, hselection, hliterals,
    table_select_ofCriteria hcomplete hmatch hselection hliterals⟩

end RecordQuery.Document
