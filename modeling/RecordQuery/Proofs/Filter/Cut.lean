import RecordQuery.Proofs.Filter.Mark
import RecordQuery.Proofs.Text.Words

/-!
# Cutting a filter at its connectives

The walk along a text that ends outside quotes cuts it at the words of connectives into sections.
`Cut` is that: a section without a connective, or a section, the word of a connective between edges
and the cut of what stands behind it. `cut_of_from?` finds it, so that a fact about all parts of
a filter is an induction over `Cut`, with one case for the last section and one for the others.

A section holds no word of a connective between edges that the walk could have met:
`IsSection.no_connective`, behind blanks alone or where quotes do not count.
-/

namespace RecordQuery.Filter

open Text

/-- The last character of a text, or the one before it where it is empty. -/
theorem getLast?_cons_or (before : Option Char) (c : Char) (s : List Char) :
    (c :: s).getLast?.or before = s.getLast?.or (some c) := by
  rw [List.getLast?_cons]
  cases s.getLast? <;> rfl

/-- At an edge stands a blank or nothing. -/
theorem isEdge_iff {c? : Option Char} : isEdge c? = true ↔ ∀ c ∈ c?, isBlank c = true := by
  cases c? <;> simp [isEdge]

/-! ## Words of connectives -/

/-- The word of a connective is in letters, so it has no blanks. -/
theorem isBlank_of_ofWord? {w : List Char} {k : Connective}
    (hk : Connective.ofWord? (w.map Char.toLower) = some k) : ∀ c ∈ w, isBlank c = false := by
  intro c hc
  obtain ⟨entry, hentry, -⟩ := Option.map_eq_some_iff.1 hk
  have hword : entry.1 = w.map Char.toLower := by simpa using List.find?_some hentry
  exact isBlank_of_isLower_toLower (isLower_of_mem_words (List.mem_of_find?_eq_some hentry) _
    (hword ▸ List.mem_map_of_mem hc))

/-- The word of a connective is not empty. -/
theorem ne_nil_of_ofWord? {w : List Char} {k : Connective}
    (hk : Connective.ofWord? (w.map Char.toLower) = some k) : w ≠ [] := by
  rintro rfl
  simp [Connective.ofWord?, Connective.words] at hk

/-- A connective that has a word is written by it, and joins. -/
theorem connectiveWord_of_ofWord? {word : List Char} {k : Connective}
    (hk : Connective.ofWord? word = some k) : connectiveWord k = word ∧ k ≠ .none := by
  obtain ⟨entry, hentry, rfl⟩ := Option.map_eq_some_iff.1 hk
  obtain rfl : entry.1 = word := by simpa using List.find?_some hentry
  have hwords : ∀ e ∈ Connective.words, connectiveWord e.2 = e.1 ∧ e.2 ≠ .none := by decide
  exact hwords entry (List.mem_of_find?_eq_some hentry)

/-- Where a connective stands, its word does, between edges. -/
theorem eq_append_of_connectiveAt? {before : Option Char} {s : List Char} {k : Connective} {n : Nat}
    (h : connectiveAt? before s = some (k, n)) :
    ∃ w t, s = w ++ t ∧ w.length = n ∧ Connective.ofWord? (w.map Char.toLower) = some k ∧
      isEdge before = true ∧ isEdge t.head? = true := by
  obtain ⟨entry, hentry, heq⟩ := Option.map_eq_some_iff.1 h
  cases heq
  have hstands := List.find?_some hentry
  simp only [standsAt, Bool.and_eq_true, decide_eq_true_eq] at hstands
  obtain ⟨⟨htake, hbefore⟩, hbehind⟩ := hstands
  have hlength : (s.take entry.1.length).length = entry.1.length := by
    rw [← List.length_map (f := Char.toLower), htake]
  refine ⟨_, _, (List.take_append_drop _ s).symm, hlength, ?_, hbefore, hbehind⟩
  have hfirst : ∀ e ∈ Connective.words, Connective.ofWord? e.1 = some e.2 := by decide
  rw [htake, hfirst entry (List.mem_of_find?_eq_some hentry)]

/-! ## Sections -/

variable {quotes : Bool} {before : Option Char} {s t x : List Char} {marks : List Mark}

/-- The characters of the text are marks of a term in the walk, from an edge to an edge. -/
structure IsSection (quotes : Bool) (before : Option Char) (x rest : List Char) : Prop where
  walk : ∃ marks, Mark.from? quotes ⟨before, none, 0⟩ (x ++ rest) = some (letters x ++ marks)
  front : isEdge before = true ∨ isEdge (x ++ rest).head? = true
  back : rest = [] ∨ isEdge x.getLast? = true

/-- A text as the walk behind a character cuts it, with its marks. -/
inductive Cut (quotes : Bool) : Option Char → List Char → List Mark → Prop
  | last {before : Option Char} {x : List Char} (hx : IsSection quotes before x []) :
    Cut quotes before x (letters x)
  | next {before : Option Char} {x w t : List Char} {k : Connective} {marks : List Mark}
    (hx : IsSection quotes before x (w ++ t))
    (hword : Connective.ofWord? (w.map Char.toLower) = some k) (ht : isEdge t.head? = true)
    (hrest : Cut quotes w.getLast? t marks) :
    Cut quotes before (x ++ (w ++ t)) (letters x ++ .connective k :: marks)

/-- A walk that ends outside quotes meets no connective, or a first one between edges, behind which
it goes on outside quotes. -/
theorem exists_connective_of_from? {quote : Option Char}
    (h : Mark.from? quotes ⟨before, quote, 0⟩ s = some marks) :
    marks = letters s ∨ ∃ x w t k rest, s = x ++ (w ++ t) ∧
      marks = letters x ++ .connective k :: rest ∧
      Connective.ofWord? (w.map Char.toLower) = some k ∧ isEdge (x.getLast?.or before) = true ∧
      isEdge t.head? = true ∧ Mark.from? quotes ⟨w.getLast?, none, 0⟩ t = some rest := by
  induction s generalizing before quote marks with
  | nil =>
    rw [Mark.from?] at h
    split at h
    · cases h
    · cases h
      exact .inl rfl
  | cons c s ih =>
    have hletter {q : Option Char}
        (h : (Mark.from? quotes ⟨some c, q, 0⟩ s).map (.letter c :: ·) = some marks) :
        marks = letters (c :: s) ∨ ∃ x w t k rest, c :: s = x ++ (w ++ t) ∧
          marks = letters x ++ .connective k :: rest ∧
          Connective.ofWord? (w.map Char.toLower) = some k ∧ isEdge (x.getLast?.or before) = true ∧
          isEdge t.head? = true ∧ Mark.from? quotes ⟨w.getLast?, none, 0⟩ t = some rest := by
      obtain ⟨ms, hms, rfl⟩ := Option.map_eq_some_iff.1 h
      rcases ih hms with rfl | ⟨x, w, t, k, rest, rfl, rfl, hword, hbefore, ht, hrest⟩
      · exact .inl rfl
      · refine .inr ⟨c :: x, w, t, k, rest, rfl, rfl, hword, ?_, ht, hrest⟩
        rwa [getLast?_cons_or]
    cases quote with
    | some q => exact hletter h
    | none =>
      rw [Mark.from?] at h
      split at h
      · exact hletter h
      · split at h
        · next k n hat =>
          obtain ⟨rest, hrest, rfl⟩ := Option.map_eq_some_iff.1 h
          obtain ⟨w, t, hs, rfl, hword, hbefore, ht⟩ := eq_append_of_connectiveAt? hat
          obtain ⟨d, w, rfl⟩ := List.exists_cons_of_ne_nil (ne_nil_of_ofWord? hword)
          obtain ⟨rfl, htail⟩ : c = d ∧ s = w ++ t := List.cons.inj hs
          refine .inr ⟨[], c :: w, t, k, rest, hs, rfl, hword, hbefore, ht, ?_⟩
          rwa [htail, List.length_cons, Nat.add_sub_cancel, from?_ahead, ← getLast?_cons_or none,
            Option.or_none] at hrest
        · exact hletter h

/-- Every walk that begins at an edge and ends outside quotes cuts its text. -/
theorem cut_of_from? (hfront : isEdge before = true ∨ isEdge s.head? = true)
    (h : Mark.from? quotes ⟨before, none, 0⟩ s = some marks) : Cut quotes before s marks := by
  -- by the length of the text: what stands behind a connective is shorter
  induction hn : s.length using Nat.strong_induction_on generalizing s before marks with
  | _ n ih =>
  subst hn
  rcases exists_connective_of_from? h with
    rfl | ⟨x, w, t, k, rest, rfl, rfl, hword, hbefore, ht, hrest⟩
  · refine .last ⟨⟨[], ?_⟩, ?_, .inl rfl⟩
    · rwa [List.append_nil, List.append_nil]
    · rwa [List.append_nil]
  · have hlt : t.length < (x ++ (w ++ t)).length :=
      Nat.lt_of_lt_of_le (length_lt_append (ne_nil_of_ofWord? hword) t)
        (List.sublist_append_right x (w ++ t)).length_le
    refine .next ⟨⟨_, h⟩, hfront, .inr ?_⟩ hword ht (ih _ hlt (.inr ht) hrest rfl)
    cases hx : x.getLast? with
    | none => rfl
    | some c => simpa [hx] using hbefore

/-- Characters of a term that are blanks, or where quotes do not count, leave the walk outside
quotes. -/
theorem from?_of_letters_append (hs : (∀ c ∈ s, isBlank c = true) ∨ quotes = false)
    (h : Mark.from? quotes ⟨before, none, 0⟩ (s ++ t) = some (letters s ++ marks)) :
    Mark.from? quotes ⟨s.getLast?.or before, none, 0⟩ t = some marks := by
  rcases hs with hblank | rfl
  · rw [from?_blanks hblank] at h
    obtain ⟨ms, hms, heq⟩ := Option.map_eq_some_iff.1 h
    rwa [List.append_cancel_left heq] at hms
  · induction s generalizing before with
    | nil => simpa using h
    | cons c s ih =>
      have hstep : Mark.from? false ⟨some c, none, 0⟩ (s ++ t) = some (letters s ++ marks) := by
        rw [List.cons_append, Mark.from?, if_neg (by simp)] at h
        split at h
        · obtain ⟨ms, -, heq⟩ := Option.map_eq_some_iff.1 h
          simp at heq
        · obtain ⟨ms, hms, heq⟩ := Option.map_eq_some_iff.1 h
          rwa [(List.cons.inj heq).2] at hms
      rw [getLast?_cons_or]
      exact ih hstep

/-- No word between edges of a section is that of a connective, if the walk comes to it outside
quotes. -/
theorem IsSection.no_connective {rest a w b : List Char}
    (h : IsSection quotes before (a ++ (w ++ b)) rest)
    (hquotes : (∀ c ∈ a, isBlank c = true) ∨ quotes = false) (ha : isEdge a.getLast? = true)
    (hb : isEdge b.head? = true) : Connective.ofWord? (w.map Char.toLower) = none := by
  cases hword : Connective.ofWord? (w.map Char.toLower) with
  | none => rfl
  | some k =>
    have hblank := isBlank_of_ofWord? hword
    obtain ⟨c, w, rfl⟩ := List.exists_cons_of_ne_nil (ne_nil_of_ofWord? hword)
    obtain ⟨marks, hwalk⟩ := h.walk
    have hfrom : Mark.from? quotes ⟨a.getLast?.or before, none, 0⟩ (c :: w ++ (b ++ rest)) =
        some (letters (c :: w ++ b) ++ marks) :=
      from?_of_letters_append hquotes (by simpa using hwalk)
    have hfront : isEdge (a.getLast?.or before) = true := by
      cases hlast : a.getLast? with
      | some d => rwa [hlast] at ha
      | none =>
        rcases h.front with hbefore | hhead
        · exact hbefore
        · rw [List.getLast?_eq_none_iff.1 hlast] at hhead
          exact absurd hhead (by simp [isEdge, hblank c (by simp)])
    have hback : isEdge (b ++ rest).head? = true := by
      cases b with
      | cons d b => exact hb
      | nil =>
        rcases h.back with rfl | hlast
        · rfl
        · refine absurd hlast ?_
          have : (a ++ (c :: w ++ [])).getLast? = some ((c :: w).getLast (by simp)) := by
            simp [List.getLast?_eq_some_getLast]
          rw [this]
          simp [isEdge, hblank _ (List.getLast_mem _)]
    rw [from?_connective hword hfront hback] at hfrom
    obtain ⟨ms, -, heq⟩ := Option.map_eq_some_iff.1 hfrom
    simp at heq

end RecordQuery.Filter
