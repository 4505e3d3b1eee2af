import RecordQuery.Proofs.Filter.Cut

/-!
# The parts of a filter

Cutting a filter into parts loses nothing of it and invents nothing. What stands in the text for
a part is the term itself, or the word of the connective in letters of either case
(`Part.WrittenAs`), and the words of what stands for the parts, one after the other, are the words
of the text (`Cut.exists_written`). No two terms stand side by side (`Cut.isChain`), and no term is
a connective (`Cut.no_connective_of_term`); where quotes do not count, no word of a term is one
either (`Cut.no_connective_of_mem_words`).
-/

namespace RecordQuery.Filter

open Text

namespace Part

/-- The part is a term. -/
def IsTerm (p : Part) : Prop := ∃ s, p = term s

/-- What stands in a text for a part: a term as it is, and a connective as its word, in letters of
either case. -/
inductive WrittenAs : Part → List Char → Prop
  | term (s : List Char) : WrittenAs (term s) s
  | connective {k : Connective} {w : List Char}
    (hword : w.map Char.toLower = (connective k).text) : WrittenAs (connective k) w

variable {p : Part} {parts : List Part} {x : List Char} {k : Connective} {marks : List Mark}

/-! ## The parts of a cut -/

/-- A section that is not blank is a term in front of the parts behind it. -/
theorem consTerm_of_trim_ne_nil (h : trim x ≠ []) :
    consTerm x parts = .term (trim x) :: parts := by
  simp [consTerm, h]

theorem consTerm_of_trim_eq_nil (h : trim x = []) : consTerm x parts = parts := by
  simp [consTerm, h]

theorem ofMarks_letters : ofMarks (letters x) = consTerm x [] := by
  have := gather_letters_append x []
  rw [List.append_nil] at this
  rw [ofMarks, this]
  simp [gather]

theorem ofMarks_letters_append :
    ofMarks (letters x ++ .connective k :: marks) =
      consTerm x (.connective k :: ofMarks marks) := by
  rw [ofMarks, gather_letters_append]
  simp [gather, ofMarks]

/-- A part behind a section is the section, trimmed, or one of the parts behind it. -/
theorem mem_consTerm (h : p ∈ consTerm x parts) :
    p = term (trim x) ∧ trim x ≠ [] ∨ p ∈ parts := by
  by_cases hx : trim x = []
  · rw [consTerm_of_trim_eq_nil hx] at h
    exact .inr h
  · rw [consTerm_of_trim_ne_nil hx] at h
    exact (List.mem_cons.1 h).imp_left fun hp => ⟨hp, hx⟩

/-- What stands for a section and for the parts behind it has the words of both. -/
theorem exists_written_consTerm {written : List (List Char)}
    (h : List.Forall₂ WrittenAs parts written) :
    ∃ written', List.Forall₂ WrittenAs (consTerm x parts) written' ∧
      written'.flatMap words = words x ++ written.flatMap words := by
  by_cases hx : trim x = []
  · rw [consTerm_of_trim_eq_nil hx, words_eq_nil_of_trim hx]
    exact ⟨written, h, rfl⟩
  · rw [consTerm_of_trim_ne_nil hx]
    exact ⟨trim x :: written, .cons (.term _) h, by rw [List.flatMap_cons, words_trim]⟩

theorem not_isTerm_connective (k : Connective) : ¬ (connective k).IsTerm := by
  rintro ⟨s, hs⟩
  cases hs

/-- A section stands beside no other term than itself if the parts behind it begin with none. -/
theorem isChain_consTerm (h : parts.IsChain fun p q => ¬ (p.IsTerm ∧ q.IsTerm))
    (hhead : ∀ q ∈ parts.head?, ¬ q.IsTerm) :
    (consTerm x parts).IsChain fun p q => ¬ (p.IsTerm ∧ q.IsTerm) := by
  by_cases hx : trim x = []
  · rwa [consTerm_of_trim_eq_nil hx]
  · rw [consTerm_of_trim_ne_nil hx]
    exact h.cons fun q hq hpq => hhead q hq hpq.2

end Part

open RecordQuery.Filter.Part

variable {quotes : Bool} {before : Option Char} {s t : List Char} {k : Connective}
  {marks : List Mark}

namespace Cut

/-- A term is a section of the cut, trimmed. -/
theorem exists_section (h : Cut quotes before s marks) (ht : .term t ∈ Part.ofMarks marks) :
    ∃ before' x rest, IsSection quotes before' x rest ∧ t = trim x ∧ t ≠ [] := by
  have hfirst {before : Option Char} {x rest : List Char} (hx : IsSection quotes before x rest)
      (hterm : Part.term t = .term (trim x) ∧ trim x ≠ []) :
      ∃ before' x rest, IsSection quotes before' x rest ∧ t = trim x ∧ t ≠ [] := by
    obtain ⟨heq, hne⟩ := hterm
    cases heq
    exact ⟨_, _, _, hx, rfl, hne⟩
  induction h with
  | last hx =>
    rw [ofMarks_letters] at ht
    rcases mem_consTerm ht with hterm | hnil
    · exact hfirst hx hterm
    · cases hnil
  | next hx _ _ _ ih =>
    rw [ofMarks_letters_append] at ht
    rcases mem_consTerm ht with hterm | hrest
    · exact hfirst hx hterm
    · rcases List.mem_cons.1 hrest with heq | hrest
      · cases heq
      · exact ih hrest

/-- What stands for the parts of a cut has the words of the text. -/
theorem exists_written (h : Cut quotes before s marks) :
    ∃ written, List.Forall₂ WrittenAs (Part.ofMarks marks) written ∧
      written.flatMap words = words s := by
  induction h with
  | @last before x hx =>
    obtain ⟨written, hwritten, hwords⟩ := exists_written_consTerm (x := x) .nil
    refine ⟨written, by rwa [ofMarks_letters], ?_⟩
    rw [hwords, List.flatMap_nil, List.append_nil]
  | @next before x w t k marks hx hword ht _ ih =>
    obtain ⟨rest, hrest, hwords⟩ := ih
    obtain ⟨written, hwritten, hwords'⟩ :=
      exists_written_consTerm (x := x)
        (.cons (.connective (connectiveWord_of_ofWord? hword).1.symm) hrest)
    refine ⟨written, by rwa [ofMarks_letters_append], ?_⟩
    have hw := words_eq_singleton (ne_nil_of_ofWord? hword) (isBlank_of_ofWord? hword)
    have hfront : words (w ++ t) = words w ++ words t := words_append (.inr (isEdge_iff.1 ht))
    have hsection : words (x ++ (w ++ t)) = words x ++ words (w ++ t) := by
      rcases hx.back with hnil | hlast
      · rw [hnil, List.append_nil, words_nil, List.append_nil]
      · exact words_append (.inl (isEdge_iff.1 hlast))
    rw [hwords', List.flatMap_cons, hwords, hsection, hfront]

/-- No two terms of a cut stand side by side. -/
theorem isChain (h : Cut quotes before s marks) :
    (Part.ofMarks marks).IsChain fun p q => ¬ (p.IsTerm ∧ q.IsTerm) := by
  induction h with
  | last =>
    rw [ofMarks_letters]
    exact isChain_consTerm .nil (by simp)
  | @next _ _ _ _ k _ _ _ _ _ ih =>
    rw [ofMarks_letters_append]
    exact isChain_consTerm (ih.cons fun q _ hpq => not_isTerm_connective k hpq.1)
      (by simpa using not_isTerm_connective k)

/-- The connectives of a cut join. -/
theorem ne_none_of_connective (h : Cut quotes before s marks)
    (hk : .connective k ∈ Part.ofMarks marks) : k ≠ .none := by
  induction h with
  | last =>
    rw [ofMarks_letters] at hk
    rcases mem_consTerm hk with ⟨heq, -⟩ | hnil
    · cases heq
    · cases hnil
  | next _ hword _ _ ih =>
    rw [ofMarks_letters_append] at hk
    rcases mem_consTerm hk with ⟨heq, -⟩ | hrest
    · cases heq
    · rcases List.mem_cons.1 hrest with heq | hrest
      · cases heq
        exact (connectiveWord_of_ofWord? hword).2
      · exact ih hrest

/-- No part of a cut is blank or has blanks at its ends. -/
theorem ends_of_mem {p : Part} (h : Cut quotes before s marks) (hp : p ∈ Part.ofMarks marks) :
    p.text ≠ [] ∧ (∀ c ∈ p.text.head?, isBlank c = false) ∧
      ∀ c ∈ p.text.getLast?, isBlank c = false := by
  cases p with
  | term t =>
    obtain ⟨-, x, -, -, rfl, hne⟩ := h.exists_section hp
    exact ⟨hne, head?_trimBy, getLast?_trimEndBy⟩
  | connective k =>
    have hword : connectiveWord k ≠ [] ∧ (connectiveWord k).all (!isBlank ·) = true := by
      cases k with
      | none => exact absurd rfl (h.ne_none_of_connective hp)
      | and => decide
      | or => decide
    have hblank : ∀ c ∈ connectiveWord k, isBlank c = false := by simpa using hword.2
    exact ⟨hword.1, fun c hc => hblank c (List.mem_of_head? hc),
      fun c hc => hblank c (List.mem_of_getLast? hc)⟩

/-- A term is not the word of a connective. -/
theorem no_connective_of_term (h : Cut quotes before s marks) (ht : .term t ∈ Part.ofMarks marks) :
    Connective.ofWord? (t.map Char.toLower) = none := by
  obtain ⟨before', x, rest, hx, rfl, -⟩ := h.exists_section ht
  obtain ⟨a, b, hsplit, ha, hb⟩ := exists_append_trimBy isBlank x
  rw [hsplit] at hx
  exact hx.no_connective (.inl ha) (isEdge_iff.2 fun c hc => ha c (List.mem_of_getLast? hc))
    (isEdge_iff.2 fun c hc => hb c (List.mem_of_head? hc))

/-- Where quotes do not count, no word of a term is that of a connective. -/
theorem no_connective_of_mem_words (h : Cut false before s marks)
    (ht : .term t ∈ Part.ofMarks marks) {w : List Char} (hw : w ∈ words t) :
    Connective.ofWord? (w.map Char.toLower) = none := by
  obtain ⟨before', x, rest, hx, rfl, -⟩ := h.exists_section ht
  rw [words_trim] at hw
  obtain ⟨-, a, b, rfl, ha, hb⟩ := exists_of_mem_words hw
  exact hx.no_connective (.inr rfl) (isEdge_iff.2 ha) (isEdge_iff.2 hb)

end Cut

/-! ## The parts of a text -/

/-- The parts of a text are those of a cut, in which quotes do not count if they are not to or one
of them stays open. -/
theorem exists_cut_ofText (quotes : Bool) (s : List Char) :
    ∃ counted marks, Cut counted none s marks ∧ Part.ofText quotes s = Part.ofMarks marks ∧
      (quotes = false ∨ Mark.ofText? true s = none → counted = false) := by
  cases hmarks : Mark.ofText? quotes s with
  | some marks =>
    refine ⟨quotes, marks, cut_of_from? (.inl rfl) hmarks, ?_, ?_⟩
    · rw [Part.ofText, hmarks, Option.some_or, Option.getD_some]
    · rintro (hquotes | hnone)
      · exact hquotes
      · cases quotes with
        | false => rfl
        | true => cases hmarks.symm.trans hnone
  | none =>
    obtain ⟨marks, hplain⟩ := Option.isSome_iff_exists.1 (isSome_from?_false s none 0)
    refine ⟨false, marks, cut_of_from? (.inl rfl) hplain, ?_, fun _ => rfl⟩
    rw [Part.ofText, hmarks, Option.none_or, Mark.ofText?, Position.front, hplain, Option.getD_some]

/-- The parts of a text hold what the text holds. None of them is blank or has blanks at its ends;
what stands for them in the text has the characters of the text that are no blanks, and its words;
no two terms stand side by side, and no term is a connective. Where quotes do not count, no word of
a term is a connective either. -/
theorem ofText_keeps_words (quotes : Bool) (s : List Char) :
    (∀ p ∈ Part.ofText quotes s, p.text ≠ [] ∧ (∀ c ∈ p.text.head?, isBlank c = false) ∧
      ∀ c ∈ p.text.getLast?, isBlank c = false) ∧
    (∃ written, List.Forall₂ Part.WrittenAs (Part.ofText quotes s) written ∧
      written.flatten.filter (!isBlank ·) = s.filter (!isBlank ·) ∧
      written.flatMap words = words s) ∧
    ((Part.ofText quotes s).IsChain fun p q => ¬ (p.IsTerm ∧ q.IsTerm)) ∧
    (∀ t, .term t ∈ Part.ofText quotes s → Connective.ofWord? (t.map Char.toLower) = none) ∧
    (quotes = false ∨ Mark.ofText? true s = none → ∀ t, .term t ∈ Part.ofText quotes s →
      ∀ w ∈ words t, Connective.ofWord? (w.map Char.toLower) = none) := by
  obtain ⟨counted, marks, hcut, hparts, hcounted⟩ := exists_cut_ofText quotes s
  obtain ⟨written, hwritten, hwords⟩ := hcut.exists_written
  rw [hparts]
  refine ⟨fun p => hcut.ends_of_mem, ⟨written, hwritten, ?_, hwords⟩, hcut.isChain,
    fun t => hcut.no_connective_of_term, fun hplain t ht w hw => ?_⟩
  · rw [← flatten_flatMap_words, hwords, flatten_words]
  · obtain rfl := hcounted hplain
    exact hcut.no_connective_of_mem_words ht hw

end RecordQuery.Filter
