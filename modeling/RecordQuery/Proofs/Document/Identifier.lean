import RecordQuery.Proofs.Document.SearchMemory
import RecordQuery.Proofs.Filter.RoundTrip
import RecordQuery.Proofs.Guid

/-!
# Finding documents by their identifier

`Document.found_by_id`: a filter on the identifier with any spelling of it finds, in a list in
memory, exactly the documents of that identifier, in the order of the list. The assets of these
documents carry the text of the identifier, which is one of its spellings.
-/

namespace RecordQuery.Document

open Text RecordQuery.Filter

variable {origin : Origin Document} {shared : List Document} {g : Guid} {s : List Char}

/-! ## The filter -/

/-- The column of the identifier. -/
def idColumn : Field := column "id" (some .guid) false

/-- The criterion of a text on the identifier. -/
def idCriterion (s : List Char) : Criterion := ⟨"id", .equals, .text (String.ofList s), .none⟩

/-- The characters of that filter. -/
theorem toList_idText (s : List Char) : ("id eq '" ++ String.ofList s ++ "'").toList =
    "id".toList ++ ([' '] ++ ("eq".toList ++ ([' '] ++ singleQuote :: (s ++ [singleQuote])))) := by
  simp [singleQuote]

/-- A filter with a spelling of an identifier is read as the criterion of the spelling. -/
theorem ofText_id (h : g.Spelling s) :
    Filter.ofText ("id eq '" ++ String.ofList s ++ "'") = ⟨[idCriterion s], []⟩ := by
  have hquoted : QuotedText s (singleQuote :: (s ++ [singleQuote])) :=
    .intro rfl (.of_notMem (h.notMem (by decide) (by decide)))
  have hterm : TermWritten (idCriterion s)
      ("id".toList ++ ([' '] ++ ("eq".toList ++ ([' '] ++ singleQuote :: (s ++ [singleQuote]))))) :=
    .intro (p := "id".toList) (by decide) (by decide)
      (.text (w := "eq".toList) rfl (by decide) ⟨("eq", .equals), by decide, rfl, by decide⟩
        (by decide) hquoted)
  have hplain : ∀ c ∈ ("id eq '" ++ String.ofList s ++ "'").toList, c ≠ '%' ∧ c ≠ '+' := by
    have hpercent : '%' ∉ s := h.notMem (by decide) (by decide)
    have hplus : '+' ∉ s := h.notMem (by decide) (by decide)
    intro c hc
    constructor <;> rintro rfl <;> simp [hpercent, hplus] at hc
  have hparts := ofParts_of_filterWritten (.intro rfl hterm .nil)
  rw [List.append_nil] at hparts
  rw [Filter.ofText, percentDecode_eq_self hplain, toList_idText, hparts]

/-! ## The condition -/

/-- The identifier of a document is what its column holds. -/
theorem readNormal_idColumn (d : Document) : idColumn.readNormal d = .ok (orNull .guid d.id) := by
  have hread : idColumn.read d = .ok (orNull .guid d.id) := rfl
  rw [Field.readNormal, hread]
  cases d.id <;> rfl

/-- A document has an identifier if and only if its column equals the identifier. -/
theorem holds_id (g : Guid) (d : Document) :
    (Condition.compare idColumn .equals (.guid g)).holds d = .ok (decide (d.id = some g)) := by
  rw [Condition.holds, Comparison.holds, readNormal_idColumn]
  cases hid : d.id with
  | none => rfl
  | some id =>
    have hequal : (compare id.value g.value == .eq) = decide (some id = some g) := by
      rw [Bool.eq_iff_iff, beq_iff_eq, Nat.compare_eq_eq, decide_eq_true_eq, Option.some.injEq]
      exact ⟨fun h => by cases id; cases g; simpa using h, congrArg Guid.value⟩
    exact congrArg Except.ok hequal

/-- The criterion of a spelling is the test for its identifier. -/
theorem ofCriteria_id (h : g.Spelling s) : Condition.ofCriteria schema [idCriterion s] =
    .ok (.compare idColumn .equals (.guid g)) := by
  have hresolve (c? : Option Criterion) : schema.require "id" c? = .ok idColumn := by
    rw [Schema.require, show schema.resolve? "id" = some idColumn by decide]
  have htrim : trim s = s := trim_eq_self h.isBlank
  have hliteral : idColumn.literal (String.ofList s) = .ok (.guid g) := by
    show Literal.guid (String.ofList s).toList = .ok (.guid g)
    rw [String.toList_ofList, Literal.guid, htrim, Guid.ofText?_of_spelling h]
    rfl
  have hcoerce (c? : Option Criterion) :
      idColumn.coerce (String.ofList s) c? = .ok (.guid g) := by
    rw [Field.coerce, hliteral]
  simp only [Condition.ofCriteria, Condition.ofCriterion, Condition.ofField, Condition.ofText,
    Condition.singleText, idCriterion, hresolve, bind, Except.bind, reduceCtorEq, if_false, hcoerce]
  rfl

/-! ## The search -/

/-- An asset carries the text of the identifier of its document. -/
theorem id_of_ofDocument {d : Document} {a : Asset} (hid : d.id = some g)
    (ha : Asset.ofDocument d = .ok a) : a.id = String.ofList g.text := by
  rw [Asset.ofDocument, hid] at ha
  split at ha
  · next hg _ _ _ _ _ _ _ =>
    rw [← Except.ok.inj ha, ← Option.some.inj hg]
  · cases ha

/-- A filter with a spelling of an identifier finds exactly the documents of that identifier, in the
order of the list. Their assets carry the text of the identifier, which is a spelling again. -/
theorem found_by_id (h : g.Spelling s) (origin : Origin Document) (shared : List Document) :
    (∃ found, (Source.memory (.ofOrigin schema origin)).refined
        (some ("id eq '" ++ String.ofList s ++ "'")) none = .ok found ∧
      found.all shared = .ok ((held origin shared).filter (·.id = some g))) ∧
    ∀ d : Document, d.id = some g → (Asset.missing d = [] → ∃ a, Asset.ofDocument d = .ok a) ∧
      ∀ a, Asset.ofDocument d = .ok a →
        a.id = String.ofList g.text ∧ g.Spelling a.id.toList := by
  refine ⟨?_, fun d hid => ⟨fun hmissing => ?_, fun a ha => ?_⟩⟩
  · have hcondition : Condition.ofCriteria schema
        (Filter.ofText? (some ("id eq '" ++ String.ofList s ++ "'"))).criteria =
          .ok (.compare idColumn .equals (.guid g)) := by
      rw [Filter.ofText?, Option.map_some, Option.getD_some, ofText_id h, ofCriteria_id h]
    have hdecides : (Condition.compare idColumn .equals (.guid g)).Decides (held origin shared)
        fun d => decide (d.id = some g) := ⟨rfl, fun d _ => holds_id g d⟩
    have hsort : SortKey.ofRequest? schema none = none := rfl
    obtain ⟨selections, hrefined, hselects⟩ := refined_memory hcondition hdecides hsort
    refine ⟨_, hrefined, ?_⟩
    have hselected : (MemorySource.mk schema origin selections none).selected shared =
        .ok ((held origin shared).filter (·.id = some g)) := filterM_ok hselects
    rw [Source.all, MemorySource.all, hselected]
    rfl
  · obtain ⟨a, ha, -⟩ := ofDocument_ok hmissing
    exact ⟨a, ha⟩
  · have hid' := id_of_ofDocument hid ha
    refine ⟨hid', ?_⟩
    rw [hid', String.toList_ofList]
    exact g.spelling_text

/-- Of three documents whose identifiers begin with zeros, the outer two share one and are found by
its digits, in capital letters and between braces. -/
theorem found_by_id_braces :
    let g : Guid := ⟨0xc0ffee, by decide⟩
    let named (id : Guid) (name : String) : Document :=
      ⟨some id, some name, some "application/pdf", some .contract, some .branch, none,
        some .received, none, some 1, some ⟨⟨2024, 1, 1, by decide⟩, .midnight, none⟩, none, none,
        none, none, none, none, none⟩
    let text : String := "id eq '\x7b00000000000000000000000000C0FFEE\x7d'"
    (∃ found, (Source.memory (.ofOrigin schema .shared)).refined (some text) none = .ok found ∧
      found.all [named g "b.pdf", named ⟨0xc0ffed, by decide⟩ "c.pdf", named g "a.pdf"] =
        .ok [named g "b.pdf", named g "a.pdf"]) ∧
      ∃ a, Asset.ofDocument (named g "b.pdf") = .ok a ∧
        a.id = "00000000-0000-0000-0000-000000c0ffee" := by
  intro g named text
  have hspelling : g.Spelling ('\x7b' :: ("00000000000000000000000000C0FFEE".toList ++ ['\x7d'])) :=
    .braced (.bare (.inr (by decide)))
  have htext : "id eq '" ++ String.ofList
      ('\x7b' :: ("00000000000000000000000000C0FFEE".toList ++ ['\x7d'])) ++ "'" = text := by
    decide
  have hid : String.ofList g.text = "00000000-0000-0000-0000-000000c0ffee" := by decide
  obtain ⟨⟨found, hfound, hall⟩, hassets⟩ := found_by_id hspelling .shared
    [named g "b.pdf", named ⟨0xc0ffed, by decide⟩ "c.pdf", named g "a.pdf"]
  obtain ⟨hasset, hasset_id⟩ := hassets (named g "b.pdf") rfl
  obtain ⟨a, ha⟩ := hasset rfl
  rw [htext] at hfound
  exact ⟨⟨found, hfound, hall⟩, a, ha, hid ▸ (hasset_id a ha).1⟩

end RecordQuery.Document
