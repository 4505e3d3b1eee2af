import RecordQuery.Filter.Basic
import RecordQuery.Proofs.Filter.Written
import RecordQuery.Proofs.Text.Percent

/-!
# Reading a written filter

`FilterWritten` relates a list of criteria to the texts that write it: the terms of the criteria,
the first without a connective and each other behind its own, in letters of either case and between
blanks. `ofText_of_filterWritten` is the round trip: every such text, percent-encoded, is read as
the criteria that it writes, and nothing of it is dropped.

The walk along the text is put together from the lemmas on its pieces: a term gives its characters
and no connective (`from?_of_termWritten`), whatever stands in its quotes, so the connectives that
remain are those between the terms (`marks_of_restWritten`).
-/

namespace RecordQuery.Filter

open Text

/-- Further terms, each behind its connective. -/
inductive RestWritten : List Criterion → List Char → Prop
  | nil : RestWritten [] []
  | cons {c : Criterion} {cs : List Criterion} {g w g' x y : List Char} : IsGap g →
      Connective.ofWord? (w.map Char.toLower) = some c.connective → IsGap g' → TermWritten c x →
      RestWritten cs y → RestWritten (c :: cs) (g ++ (w ++ (g' ++ (x ++ y))))

/-- A row of terms with their connectives between them. -/
inductive FilterWritten : List Criterion → List Char → Prop
  | intro {c : Criterion} {cs : List Criterion} {x y : List Char} : c.connective = .none →
      TermWritten c x → RestWritten cs y → FilterWritten (c :: cs) (x ++ y)

/-! ## The marks of a term -/

/-- A word character is no quote. -/
theorem isQuote_of_isWord {c : Char} (hc : isWord c = true) : isQuote c = false := by
  rw [← Bool.not_eq_true]
  intro hq
  rcases isQuote_cases hq with rfl | rfl <;> revert hc <;> decide

/-- A quote closes at an edge. -/
theorem closesBefore_of_isEdge {c? : Option Char} (h : isEdge c? = true) :
    closesBefore c? = true := by
  cases c? with
  | none => rfl
  | some c => simp only [isEdge] at h; simp [closesBefore, h]

variable {before : Option Char} {t : List Char}

/-- A gap belongs to the term, and a quote may open behind it. -/
theorem from?_gap {quotes : Bool} {g : List Char} (hg : IsGap g) :
    Mark.from? quotes ⟨before, none, 0⟩ (g ++ t) =
      (Mark.from? quotes ⟨g.getLast?, none, 0⟩ t).map (letters g ++ ·) := by
  obtain ⟨c, hc, -⟩ := hg.getLast?
  rw [from?_blanks hg.2, hc, Option.some_or]

/-- A text between quotes belongs to the term. -/
theorem from?_of_quotedText {s x : List Char} (h : QuotedText s x)
    (hopen : opensBehind before = true) (ht : closesBefore t.head? = true) :
    Mark.from? true ⟨before, none, 0⟩ (x ++ t) =
      (Mark.from? true ⟨x.getLast?, none, 0⟩ t).map (letters x ++ ·) := by
  cases h with
  | @intro q _ hq hs =>
    have := from?_quoted hq hs hopen ht
    simpa [List.getLast?_cons] using this

/-- A list of items belongs to the term. -/
theorem from?_of_listedItems {ss : List (List Char)} {x : List Char} (h : ListedItems ss x)
    (hopen : opensBehind before = true) (ht : closesBefore t.head? = true) :
    Mark.from? true ⟨before, none, 0⟩ (x ++ t) =
      (Mark.from? true ⟨x.getLast?, none, 0⟩ t).map (letters x ++ ·) := by
  have hspace (k : Nat) : ∀ c ∈ List.replicate k ' ', isBlank c = true := by
    intro c hc
    rw [List.eq_of_mem_replicate hc]
    decide
  induction h generalizing before with
  | one _ hx => exact from?_of_quotedText hx hopen ht
  | @cons s x y items m n _ hx hy ih =>
    obtain ⟨-, r, -, hlast⟩ := hy.ends
    have hclose (u : List Char) :
        closesBefore (List.replicate m ' ' ++ ',' :: u).head? = true := by
      cases m <;> simp [List.replicate_succ, closesBefore]; decide
    have hopen' : opensBehind ((List.replicate n ' ').getLast?.or (some ',')) = true := by
      cases n <;> simp [List.getLast?_replicate, opensBehind]; decide
    rw [List.append_assoc, List.append_assoc, List.cons_append, List.append_assoc,
      from?_of_quotedText hx hopen (hclose _), from?_blanks (hspace m),
      from?_letter (by simp [isQuote]) (connectiveAt?_cons (by decide) _ _),
      from?_blanks (hspace n), ih hopen']
    simp [Function.comp_def, List.getLast?_append, List.getLast?_cons, hlast]

/-- An operation belongs to the term. -/
theorem from?_of_operationWritten {operator : Operator} {o : Operand} {x : List Char}
    (h : OperationWritten operator o x) (ht : isEdge t.head? = true) :
    Mark.from? true ⟨before, none, 0⟩ (x ++ t) =
      (Mark.from? true ⟨x.getLast?, none, 0⟩ t).map (letters x ++ ·) := by
  have hword {w u : List Char} (hw : Names w operator) (hu : isEdge u.head? = true) :
      Mark.from? true ⟨before, none, 0⟩ (w ++ u) =
        (Mark.from? true ⟨w.getLast?, none, 0⟩ u).map (letters w ++ ·) :=
    from?_word hw.ne_nil
      (fun c hc => ⟨hw.isBlank c hc, isQuote_of_isLower_toLower (hw.isLower c hc)⟩)
      hw.no_connective hu
  have hopen {g : List Char} (hg : IsGap g) : opensBehind g.getLast? = true := by
    obtain ⟨c, hc, hblank⟩ := hg.getLast?
    simp [hc, opensBehind, hblank]
  cases h with
  | check _ hw => exact hword hw ht
  | text _ _ hw hg hx =>
    obtain ⟨q, -, -, hlast⟩ := hx.ends
    rw [List.append_assoc, List.append_assoc, hword hw (hg.isEdge _), from?_gap hg,
      from?_of_quotedText hx (hopen hg) (closesBefore_of_isEdge ht)]
    simp [Function.comp_def, List.getLast?_append, hlast]
  | list hw hg hx =>
    rw [List.append_assoc, List.append_assoc, List.cons_append, List.append_assoc,
      hword hw (hg.isEdge _), from?_gap hg,
      from?_letter (by simp [isQuote]) (connectiveAt?_cons (by decide) _ _),
      from?_of_listedItems hx rfl (by rfl), List.singleton_append,
      from?_letter (by simp [isQuote]) (connectiveAt?_cons (by decide) _ _)]
    simp [Function.comp_def, List.getLast?_append, List.getLast?_cons]

/-- A term gives its characters and no connective. -/
theorem from?_of_termWritten {c : Criterion} {x : List Char} (h : TermWritten c x)
    (ht : isEdge t.head? = true) :
    Mark.from? true ⟨before, none, 0⟩ (x ++ t) =
      (Mark.from? true ⟨x.getLast?, none, 0⟩ t).map (letters x ++ ·) := by
  cases h with
  | @intro p g y operator o k hp hg hy =>
    obtain ⟨-, b, hb, -⟩ := hy.ends
    rw [List.append_assoc, List.append_assoc,
      from?_word hp.ne_nil
        (fun c hc => ⟨isBlank_of_isWord (hp.isWord c hc), isQuote_of_isWord (hp.isWord c hc)⟩)
        hp.no_connective (hg.isEdge _),
      from?_gap hg, from?_of_operationWritten hy ht]
    simp [Function.comp_def, List.getLast?_append, hb]

/-! ## The parts of a row of terms -/

/-- A term among blanks is a part. -/
theorem consTerm_of_termWritten {c : Criterion} {x g g' : List Char} (h : TermWritten c x)
    (hg : ∀ d ∈ g, isBlank d = true) (hg' : ∀ d ∈ g', isBlank d = true) (parts : List Part) :
    Part.consTerm (g ++ x ++ g') parts = .term x :: parts := by
  obtain ⟨⟨a, ha, hblank⟩, b, hb, hblank'⟩ := h.ends
  have htrim : trim (g ++ x ++ g') = x := by
    rw [trim, trimBy_append hg hg',
      trimBy_eq_self (by simpa [ha] using hblank) (by simpa [hb] using hblank')]
  have hne : x ≠ [] := by rintro rfl; simp at ha
  simp only [Part.consTerm, htrim]
  simp [hne]

/-- A part that is a term in front of parts gives its criterion, joined by the connective. -/
theorem ofParts_term {c : Criterion} {x : List Char} (h : TermWritten c x) (first : Bool)
    (joint : Connective) (parts : List Part) :
    ofParts first joint (.term x :: parts) =
      cons { c with connective := if first then .none else joint } (ofParts false .and parts) := by
  rw [ofParts, criterion?_of_termWritten h]

/-- Behind a term, the marks of further terms give blanks and then, behind their connectives, the
criteria of the terms. -/
theorem marks_of_restWritten {cs : List Criterion} {y : List Char} (h : RestWritten cs y) :
    isEdge y.head? = true ∧ ∃ marks, (∀ before, Mark.from? true ⟨before, none, 0⟩ y = some marks) ∧
      (∀ c ∈ (Part.gather marks).1, isBlank c = true) ∧
      ∀ joint, ofParts false joint (Part.gather marks).2 = ⟨cs, []⟩ := by
  induction h with
  | nil => exact ⟨rfl, [], fun _ => rfl, by simp [Part.gather], fun _ => rfl⟩
  | @cons c cs g w g' x y hg hw hg' hx _ ih =>
    obtain ⟨hedge, marks, hmarks, hblank, hparts⟩ := ih
    refine ⟨hg.isEdge _,
      letters g ++ .connective c.connective :: (letters g' ++ (letters x ++ marks)),
      fun before => ?_, ?_, fun joint => ?_⟩
    · obtain ⟨b, hb, hb'⟩ := hg.getLast?
      rw [from?_gap hg, from?_connective hw (by rw [hb]; exact hb') (hg'.isEdge _), from?_gap hg',
        from?_of_termWritten hx hedge, hmarks]
      rfl
    · rw [gather_letters_append]
      simpa [Part.gather] using hg.2
    · simp only [gather_letters_append, Part.gather]
      rw [← List.append_assoc, consTerm_of_termWritten hx hg'.2 hblank, ofParts, ofParts_term hx,
        hparts]
      rfl

/-- The parts of a text that writes criteria give these criteria, and no part is dropped. -/
theorem ofParts_of_filterWritten {cs : List Criterion} {s : List Char} (h : FilterWritten cs s) :
    ofParts true .and (Part.ofText true s) = ⟨cs, []⟩ := by
  cases h with
  | @intro c cs x y hc hx hy =>
    obtain ⟨hedge, marks, hmarks, hblank, hparts⟩ := marks_of_restWritten hy
    have hfrom : Mark.ofText? true (x ++ y) = some (letters x ++ marks) := by
      rw [Mark.ofText?, Position.front, from?_of_termWritten hx hedge, hmarks, Option.map_some]
    have hterm := consTerm_of_termWritten hx (g := []) (by simp) hblank (Part.gather marks).2
    rw [List.nil_append] at hterm
    rw [Part.ofText, hfrom, Option.some_or, Option.getD_some, Part.ofMarks, gather_letters_append,
      hterm, ofParts_term hx, hparts, if_pos rfl, ← hc]
    rfl

/-- A percent-encoded text that writes criteria is read as these criteria, and nothing of it is
dropped. -/
theorem ofText_of_filterWritten {cs : List Criterion} {s : List Char} (h : FilterWritten cs s) :
    ofText (String.ofList (percentEncode s)) = ⟨cs, []⟩ := by
  rw [ofText, String.toList_ofList, percentDecode_percentEncode]
  exact ofParts_of_filterWritten h

/-- A null check, a text with a connective, a plus sign and the other quote in it, and a list whose
items hold a connective and a parenthesis. -/
theorem ofText_mixed_terms :
    FilterWritten
      [⟨"url", .isNull, .absent, .none⟩, ⟨"name", .contains, .text "it's a+b or (c", .or⟩,
        ⟨"status", .oneOf, .list ["a and b", "c)"], .and⟩]
      "url IsNull OR name\tCONTAINS \"it's a+b or (c\" and status in ('a and b',  \"c)\")".toList ∧
    ofText (String.ofList (percentEncode
      "url IsNull OR name\tCONTAINS \"it's a+b or (c\" and status in ('a and b',  \"c)\")".toList)) =
      ⟨[⟨"url", .isNull, .absent, .none⟩, ⟨"name", .contains, .text "it's a+b or (c", .or⟩,
        ⟨"status", .oneOf, .list ["a and b", "c)"], .and⟩], []⟩ := by
  have hspace : IsGap [' '] := by decide
  have htab : IsGap ['\t'] := by decide
  have hurl : TermWritten ⟨"url", .isNull, .absent, .none⟩ "url IsNull".toList :=
    .intro (p := "url".toList) (by decide) hspace
      (.check rfl ⟨("isnull", .isNull), by decide, rfl, by decide⟩)
  have hname : TermWritten ⟨"name", .contains, .text "it's a+b or (c", .or⟩
      "name\tCONTAINS \"it's a+b or (c\"".toList :=
    .intro (p := "name".toList) (by decide) htab
      (.text (w := "CONTAINS".toList) (s := "it's a+b or (c".toList) rfl (by decide)
        ⟨("contains", .contains), by decide, rfl, by decide⟩ hspace
        (.intro (q := '\x22') rfl (by decide)))
  have hitems : ListedItems ["a and b".toList, "c)".toList] "'a and b',  \"c)\"".toList :=
    .cons 0 2 (by decide)
      (.intro (q := '\x27') rfl (by decide))
      (.one (by decide) (.intro rfl (by decide)))
  have hstatus : TermWritten ⟨"status", .oneOf, .list ["a and b", "c)"], .and⟩
      "status in ('a and b',  \"c)\")".toList :=
    .intro (p := "status".toList) (by decide) hspace
      (.list (w := "in".toList) ⟨("in", .oneOf), by decide, rfl, by decide⟩ hspace hitems)
  have hwritten := FilterWritten.intro rfl hurl
    (.cons (w := "OR".toList) hspace rfl hspace hname
      (.cons (w := "and".toList) hspace rfl hspace hstatus .nil))
  have htext :
      "url IsNull OR name\tCONTAINS \"it's a+b or (c\" and status in ('a and b',  \"c)\")".toList =
        "url IsNull".toList ++ ([' '] ++ ("OR".toList ++ ([' '] ++
          ("name\tCONTAINS \"it's a+b or (c\"".toList ++ ([' '] ++ ("and".toList ++ ([' '] ++
            ("status in ('a and b',  \"c)\")".toList ++ [])))))))) := by simp
  rw [htext]
  exact ⟨hwritten, ofText_of_filterWritten hwritten⟩

end RecordQuery.Filter
