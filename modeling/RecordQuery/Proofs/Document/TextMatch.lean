import RecordQuery.Proofs.Document.Table
import RecordQuery.Proofs.Source.TextMatch
import RecordQuery.Proofs.Text.Lower

/-!
# Looking into the texts of documents

A table of documents and a list of the same stored documents differ where a criterion looks into
texts: the table does not tell the two cases of the letters A to Z apart, and reads no further than
the first NUL (`table_select_textMatch`). Where no text holds a NUL, a word finds the same documents
in every table as in the list exactly if it has no such letter (`filter_matchesFolded_eq_iff`).
-/

namespace RecordQuery

open Text

/-! ## Words without letters -/

section Letters

variable {c : Char} {s word : List Char}

theorem folded_eq_folded_iff (hword : ∀ c ∈ word, c.isAlpha = false) :
    folded s = folded word ↔ s = word := by
  refine ⟨fun h => ?_, fun h => h ▸ rfl⟩
  induction word generalizing s with
  | nil => exact List.map_eq_nil_iff.1 h
  | cons c word ih =>
    cases s with
    | nil => cases h
    | cons d s =>
      rw [folded, List.map_cons, folded, List.map_cons, List.cons.injEq] at h
      rw [eq_of_toLower_eq (hword c (by simp)) h.1, ih (fun d hd => hword d (by simp [hd])) h.2]

/-- A word without letters is found in letters of either case where it is found as it is. -/
theorem Operator.matchesText_folded (operator : Operator)
    (hword : ∀ c ∈ word, c.isAlpha = false) (s : List Char) :
    operator.matchesText (folded s) (folded word) = operator.matchesText s word := by
  have hfront (s : List Char) : folded word <+: folded s ↔ word <+: s := by
    rw [Like.prefix_folded_iff]
    simp only [folded_eq_folded_iff hword]
    exact ⟨fun ⟨_, u, hs, ht⟩ => ⟨u, by rw [hs, ht]⟩, fun ⟨u, hu⟩ => ⟨word, u, hu.symm, rfl⟩⟩
  rw [Bool.eq_iff_iff]
  cases operator with
  | contains =>
    rw [matchesText, matchesText, holds_eq_true, holds_eq_true, Like.infix_folded_iff,
      List.infix_iff_prefix_suffix]
    simp only [hfront]
    exact exists_congr fun t => and_comm
  | startsWith =>
    rw [matchesText, matchesText, startsWith_eq_true, startsWith_eq_true, hfront]
  | endsWith =>
    rw [matchesText, matchesText, endsWith_eq_true, endsWith_eq_true, Like.suffix_folded_iff]
    simp only [folded_eq_folded_iff hword, exists_eq_right]
  | _ => rfl

/-- A word with a letter has another text that reads the same in letters of either case. -/
theorem exists_folded_eq (hc : c ∈ word) (hletter : c.isAlpha = true) :
    ∃ s, s ≠ word ∧ folded s = folded word := by
  obtain ⟨d, hne, hlower⟩ := exists_toLower_eq hletter
  refine ⟨word.map fun e => if e = c then d else e, fun h => ?_, ?_⟩
  · have hmap := List.map_inj_left.1 (h.trans (List.map_id' word).symm) c hc
    rw [if_pos rfl] at hmap
    exact hne hmap
  · rw [folded, List.map_map]
    refine List.map_congr_left fun e _ => ?_
    rw [Function.comp_apply]
    split
    · next he => rw [hlower, he]
    · rfl

/-- A text of the length of the word satisfies no operator unless it is the word. -/
theorem Operator.matchesText_of_length_eq {operator : Operator} (hlength : s.length = word.length)
    (h : operator.matchesText s word = true) : s = word := by
  cases operator with
  | contains => exact ((holds_eq_true.1 h).eq_of_length hlength.symm).symm
  | startsWith => exact ((startsWith_eq_true.1 h).eq_of_length hlength.symm).symm
  | endsWith => exact ((endsWith_eq_true.1 h).eq_of_length hlength.symm).symm
  | _ => cases h

theorem Operator.matchesText_self {operator : Operator} (hoperator : operator.isTextMatch = true)
    (s : List Char) : operator.matchesText s s = true := by
  cases operator with
  | contains => exact holds_eq_true.2 List.infix_rfl
  | startsWith => exact startsWith_eq_true.2 List.prefix_rfl
  | endsWith => exact endsWith_eq_true.2 List.suffix_rfl
  | _ => cases hoperator

end Letters

theorem filter_eq_filter_iff {α : Type} {p q : α → Bool} {xs : List α} :
    xs.filter p = xs.filter q ↔ ∀ x ∈ xs, p x = q x := by
  refine ⟨fun h x hx => ?_, List.filter_congr⟩
  have hmem : x ∈ xs.filter p ↔ x ∈ xs.filter q := by rw [h]
  rw [Bool.eq_iff_iff]
  simpa [hx] using hmem

namespace Document

variable {f : Field} {operator : Operator} {property word : String}

/-! ## The texts of documents -/

/-- A column of texts holds a text or no value. -/
theorem holdsText_of_mem (hf : f ∈ columns) (hkind : f.kind = .string) (d : Document) :
    f.HoldsText d := by
  rcases hasEntry_of_mem hf with ⟨entry, h, -⟩ | ⟨hne, -⟩
  · refine ⟨_, h.value?_eq d, ?_⟩
    cases entry d with
    | none => exact .inl rfl
    | some s => exact .inr ⟨s, rfl⟩
  · exact absurd hkind hne

theorem heldText?_ofText (hf : f ∈ columns) (hkind : f.kind = .string) (s : String) :
    f.heldText? (ofText s) = some s := by
  rcases hasEntry_of_mem hf with ⟨entry, h, hofText⟩ | ⟨hne, -⟩
  · rw [Field.heldText?, h.value?_eq, hofText]
    rfl
  · exact absurd hkind hne

/-! ## Both ways of reading -/

/-- By a criterion that looks into texts, a table of documents gives those whose texts satisfy it
when they are read up to their first NUL and in letters of either case, and a list of the same
stored documents those whose texts satisfy it as they are. -/
theorem table_select_textMatch (connective : Connective) (documents shared : List Document)
    (hresolve : schema.resolve? property = some f)
    (hkind : f.kind = .string) (hoperator : operator.isTextMatch = true)
    (hword : '\x00' ∉ word.toList) :
    ∃ selection source,
      Selection.ofCriteria schema [⟨property, operator, .text word, connective⟩] = .ok selection ∧
      (table documents).select selection = .ok source ∧
      source.all shared = .ok ((documents.map stored).filter (f.matchesFolded operator word)) ∧
      source.count shared =
        .ok ((documents.map stored).filter (f.matchesFolded operator word)).length ∧
      (documents.map stored).filterM selection.selects =
        .ok ((documents.map stored).filter (f.matchesAsIs operator word)) := by
  have hf : f ∈ columns := List.mem_of_find?_eq_some hresolve
  have hsymbol : operator.symbol?.isSome = true := by
    cases operator with
    | contains | startsWith | endsWith => rfl
    | _ => cases hoperator
  let selection : Selection := ⟨schema.name, .compare f operator (.text word), hsymbol⟩
  have hfield : Condition.ofField f ⟨property, operator, .text word, connective⟩ =
      .ok selection.condition := by
    cases operator with
    | contains | startsWith | endsWith =>
      simp only [Condition.ofField, if_pos hkind]
      rfl
    | _ => cases hoperator
  have hcondition : Condition.ofCriteria schema [⟨property, operator, .text word, connective⟩] =
      .ok selection.condition := by
    simp only [Condition.ofCriteria, Condition.ofCriterion, Schema.require, hresolve, bind,
      Except.bind, hfield]
    rfl
  have hselection : Selection.ofCriteria schema [⟨property, operator, .text word, connective⟩] =
      .ok selection := by
    simp only [Selection.ofCriteria, hcondition, bind, Except.bind, Selection.of?]
    rw [dif_pos selection.comparable]
    rfl
  have hrows : ∀ row ∈ documents.map stored, f.HoldsText row :=
    fun row _ => holdsText_of_mem hf hkind row
  obtain ⟨hmemory, t, hselect, hall, hcount⟩ :=
    TableSource.select_textMatch (isColumn_of_mem f hf) hrows hoperator hword
      (show selection.condition = .compare f operator (.text word) from rfl)
  refine ⟨selection, .table t, hselection, ?_, hall, hcount, hmemory⟩
  rw [table, Source.select, hselect]
  rfl

/-- A table of documents and a list of the same stored documents give the same documents for a
criterion that looks into texts if and only if every stored text satisfies it as it is exactly where
it does up to its first NUL and in letters of either case. -/
theorem table_select_textMatch_iff (connective : Connective) (documents shared : List Document)
    (hresolve : schema.resolve? property = some f)
    (hkind : f.kind = .string) (hoperator : operator.isTextMatch = true)
    (hword : '\x00' ∉ word.toList) :
    ∃ selection source,
      Selection.ofCriteria schema [⟨property, operator, .text word, connective⟩] = .ok selection ∧
      (table documents).select selection = .ok source ∧
      source.all shared = .ok ((documents.map stored).filter (f.matchesFolded operator word)) ∧
      source.count shared =
        .ok ((documents.map stored).filter (f.matchesFolded operator word)).length ∧
      (documents.map stored).filterM selection.selects =
        .ok ((documents.map stored).filter (f.matchesAsIs operator word)) ∧
      (source.all shared = (documents.map stored).filterM selection.selects ↔
        ∀ d ∈ documents.map stored, ∀ s ∈ f.heldText? d,
          operator.matchesText (folded (Like.upToNul s.toList)) (folded word.toList) =
            operator.matchesText s.toList word.toList) := by
  obtain ⟨selection, source, hselection, hsource, hall, hcount, hmemory⟩ :=
    table_select_textMatch connective documents shared hresolve hkind hoperator hword
  refine ⟨selection, source, hselection, hsource, hall, hcount, hmemory, ?_⟩
  rw [hall, hmemory, Except.ok.injEq, filter_eq_filter_iff]
  refine forall₂_congr fun d _ => ?_
  rw [Field.matchesFolded, Field.matchesAsIs]
  cases f.heldText? d <;> simp

/-- A word of digits, wildcards and the slash finds the same documents in a table as in a list. -/
theorem table_select_textMatch_wildcards :
    let documents := [ofText "10%_/x", ofText "10AAAx", { ofText "" with url := none }]
    let word := "0%_/"
    let f := column "url" (some .text) true
    (schema.resolve? "URL" = some f ∧ f.kind = .string ∧ Operator.contains.isTextMatch = true ∧
        '\x00' ∉ word.toList) ∧
      ∃ selection source,
        Selection.ofCriteria schema [⟨"URL", .contains, .text word, .none⟩] = .ok selection ∧
        (table documents).select selection = .ok source ∧
        source.all [] = (documents.map stored).filterM selection.selects := by
  intro documents word f
  have hresolve : schema.resolve? "URL" = some f := by decide
  have hword : '\x00' ∉ word.toList := by decide
  obtain ⟨selection, source, hselection, hsource, -, -, -, hiff⟩ :=
    table_select_textMatch_iff .none documents [] hresolve rfl
      (rfl : Operator.contains.isTextMatch = true) hword
  exact ⟨⟨hresolve, rfl, rfl, hword⟩, selection, source, hselection, hsource,
    hiff.2 (by decide)⟩

/-- A table finds a capital letter by the small one, and a list does not. -/
theorem table_select_textMatch_capital :
    ∃ selection source,
      Selection.ofCriteria schema [⟨"filename", .contains, .text "a", .none⟩] = .ok selection ∧
      (table [ofText "A"]).select selection = .ok source ∧
      source.all [] = .ok [ofText "A"] ∧
      ([ofText "A"].map stored).filterM selection.selects = .ok [] :=
  ⟨_, _, rfl, rfl, by decide +kernel, by decide⟩

/-! ## Words that every table finds as a list does -/

/-- Where no text holds a NUL, a word finds the same documents in letters of either case as it finds
as it is, whatever the documents, if and only if it has no letter of A to Z. -/
theorem filter_matchesFolded_eq_iff (hf : f ∈ columns) (hkind : f.kind = .string)
    (hoperator : operator.isTextMatch = true) (hword : '\x00' ∉ word.toList) :
    (∀ documents : List Document,
      (∀ d ∈ documents, ∀ s ∈ f.heldText? d, '\x00' ∉ s.toList) →
        documents.filter (f.matchesFolded operator word) =
          documents.filter (f.matchesAsIs operator word)) ↔
      ∀ c ∈ word.toList, c.isAlpha = false := by
  constructor
  · intro h c hc
    by_contra hletter
    -- the document of another spelling of the word is found in either case, but not as it is
    obtain ⟨s, hne, hfolded⟩ := exists_folded_eq hc (by simpa using hletter)
    have hnul : '\x00' ∉ s := by
      intro hs
      have hmem : '\x00' ∈ folded word.toList := hfolded ▸ List.mem_map_of_mem (f := Char.toLower) hs
      obtain ⟨e, he, hlower⟩ := List.mem_map.1 hmem
      exact hword (eq_of_toLower_eq (c := '\x00') rfl hlower ▸ he)
    have hheld : f.heldText? (ofText (String.ofList s)) = some (String.ofList s) :=
      heldText?_ofText hf hkind _
    have hfound := filter_eq_filter_iff.1 (h [ofText (String.ofList s)] (by simpa [hheld]))
      (ofText (String.ofList s)) (by simp)
    simp only [Field.matchesFolded, Field.matchesAsIs, hheld, Option.any_some, String.toList_ofList,
      Like.upToNul_eq_self hnul, hfolded, Operator.matchesText_self hoperator] at hfound
    have hlength : s.length = word.toList.length := by
      simpa [folded] using congrArg List.length hfolded
    exact hne (Operator.matchesText_of_length_eq hlength hfound.symm)
  · intro hletters documents hnul
    refine List.filter_congr fun d hd => ?_
    rw [Field.matchesFolded, Field.matchesAsIs]
    cases hs : f.heldText? d with
    | none => rfl
    | some s =>
      show operator.matchesText _ _ = operator.matchesText _ _
      rw [Like.upToNul_eq_self (hnul d hd s hs), operator.matchesText_folded hletters]

end Document

end RecordQuery
