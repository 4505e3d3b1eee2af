import Mathlib.Data.List.Chain
import Mathlib.Data.List.Find
import RecordQuery.Filter.Part
import RecordQuery.Proofs.Text.Blank

/-!
# Walking along a filter

What `Mark.from?` makes of the pieces of a filter, one lemma for each kind of piece: a word, blanks,
a connective, a text between quotes. Each says which marks the piece gives and where the walk stands
behind it, so that a walk along a row of pieces is read off piece by piece. What follows a piece
matters only through its first character.

A text stays enclosed by a quote (`Enclosable`) if no such quote in it stands before a blank, a
closing parenthesis or a comma.
-/

namespace RecordQuery.Filter

open Text

/-- The characters as marks. -/
abbrev letters (s : List Char) : List Mark := s.map .letter

/-- No quote of this kind in the text stands before a character that lets it close. -/
def Enclosable (q : Char) (s : List Char) : Prop :=
  s.IsChain fun c next => c = q → closesBefore (some next) = false

instance (q : Char) (s : List Char) : Decidable (Enclosable q s) :=
  inferInstanceAs (Decidable (List.IsChain _ s))

/-- A quote encloses every text that does not hold it. -/
theorem Enclosable.of_notMem {q : Char} {s : List Char} (h : q ∉ s) : Enclosable q s := by
  refine List.isChain_iff_forall_rel_of_append_cons_cons.2 fun {c d l₁ l₂} heq hc => ?_
  exact absurd (by simp [heq, hc]) h

/-! ## Quotes -/

theorem isBlank_of_isQuote {q : Char} (hq : isQuote q = true) : isBlank q = false := by
  simp only [isQuote, Bool.or_eq_true, decide_eq_true_eq] at hq
  rcases hq with rfl | rfl <;> decide

/-- A quote does not let a quote before it close. -/
theorem closesBefore_isQuote {q : Char} (hq : isQuote q = true) :
    closesBefore (some q) = false := by
  simp only [isQuote, Bool.or_eq_true, decide_eq_true_eq] at hq
  rcases hq with rfl | rfl <;> decide

/-- A character with a small letter as its small form is no quote. -/
theorem isQuote_of_isLower_toLower {c : Char} (hc : c.toLower.isLower = true) :
    isQuote c = false := by
  rw [← Bool.not_eq_true]
  intro hq
  simp only [isQuote, Bool.or_eq_true, decide_eq_true_eq] at hq
  rcases hq with rfl | rfl <;> revert hc <;> decide

/-! ## Connectives -/

/-- The words of connectives are in small letters. -/
theorem isLower_of_mem_words {entry : List Char × Connective} (h : entry ∈ Connective.words) :
    ∀ d ∈ entry.1, d.isLower = true := by
  have hwords : Connective.words.all (fun e => e.1.all Char.isLower) = true := by decide
  exact List.all_eq_true.1 (List.all_eq_true.1 hwords entry h)

/-- A word of small letters does not reach over a character that is no letter. -/
theorem standsAt_append_cons {before : Option Char} {c : Char} {s t word : List Char}
    (hword : ∀ d ∈ word, d.isLower = true) (hc : c.toLower.isLower = false)
    (hlt : s.length < word.length) : standsAt before (s ++ c :: t) word = false := by
  rw [← Bool.not_eq_true]
  intro h
  simp only [standsAt, Bool.and_eq_true, decide_eq_true_eq] at h
  obtain ⟨k, hk⟩ := Nat.exists_eq_add_of_lt hlt
  have hmem : c.toLower ∈ word := by
    rw [← h.1.1, List.take_append, hk, Nat.add_assoc, Nat.add_sub_cancel_left, List.take_succ_cons]
    simp
  exact Bool.false_ne_true (hc.symm.trans (hword _ hmem))

/-- In front of a row of characters without blanks that ends at an edge, a word stands only if it is
the whole row. -/
theorem standsAt_append {before : Option Char} {w t word : List Char}
    (hw : ∀ c ∈ w, isBlank c = false) (ht : isEdge t.head? = true)
    (hword : ∀ d ∈ word, d.isLower = true) :
    standsAt before (w ++ t) word = (decide (w.map Char.toLower = word) && isEdge before) := by
  by_cases heq : w.map Char.toLower = word
  · have hlen : word.length = w.length := by rw [← heq, List.length_map]
    simp [standsAt, hlen, heq, ht]
  · suffices h : standsAt before (w ++ t) word = false by simp [h, heq]
    rw [← Bool.not_eq_true]
    intro hstands
    have h := hstands
    simp only [standsAt, Bool.and_eq_true, decide_eq_true_eq] at h
    obtain ⟨⟨htake, -⟩, hedge⟩ := h
    rcases lt_trichotomy word.length w.length with hlt | hlen | hgt
    · -- the character behind the word is one of the row
      obtain ⟨c, rest, hdrop⟩ : ∃ c rest, w.drop word.length = c :: rest := by
        rw [← List.ne_nil_iff_exists_cons, Ne, List.drop_eq_nil_iff]
        omega
      have hc : c ∈ w := List.mem_of_mem_drop (hdrop ▸ List.mem_cons_self ..)
      rw [List.drop_append_of_le_length hlt.le, hdrop] at hedge
      simp [isEdge, hw c hc] at hedge
    · rw [hlen, List.take_left] at htake
      exact heq htake
    · -- the word reaches over the edge, where a blank stands or nothing
      cases t with
      | nil =>
        have := congrArg List.length htake
        simp at this
        omega
      | cons c t =>
        rw [standsAt_append_cons hword (isLower_toLower_of_isBlank ht) hgt] at hstands
        cases hstands

/-- The connective in front of a row of characters without blanks that ends at an edge is the one of
which the row is the word. -/
theorem connectiveAt?_append {before : Option Char} {w t : List Char}
    (hw : ∀ c ∈ w, isBlank c = false) (ht : isEdge t.head? = true)
    (hbefore : isEdge before = true) :
    connectiveAt? before (w ++ t) =
      (Connective.ofWord? (w.map Char.toLower)).map fun k => (k, w.length) := by
  have hfind : Connective.words.find? (fun entry => standsAt before (w ++ t) entry.1) =
      Connective.words.find? (·.1 = w.map Char.toLower) := by
    refine List.find?_congr fun entry hentry => ?_
    rw [standsAt_append hw ht (isLower_of_mem_words hentry), hbefore, Bool.and_true]
    exact decide_eq_decide.2 eq_comm
  rw [connectiveAt?, hfind, Connective.ofWord?, Option.map_map]
  cases h : Connective.words.find? (·.1 = w.map Char.toLower) with
  | none => rfl
  | some entry =>
    have hword : entry.1 = w.map Char.toLower := by simpa using List.find?_some h
    simp [hword]

/-- No connective stands behind a character that is no blank. -/
theorem connectiveAt?_of_not_isEdge {before : Option Char} (h : isEdge before = false)
    (s : List Char) : connectiveAt? before s = none := by
  simp [connectiveAt?, standsAt, h]

/-- A connective begins with a letter. -/
theorem connectiveAt?_cons {c : Char} (hc : c.toLower.isLower = false) (before : Option Char)
    (s : List Char) : connectiveAt? before (c :: s) = none := by
  have hne (d : Char) (hd : d.isLower = true) : c.toLower ≠ d := by
    rintro rfl
    simp [hd] at hc
  simp [connectiveAt?, Connective.words, standsAt, hne 'a' (by decide), hne 'o' (by decide)]

/-! ## Pieces outside quotes -/

variable {quotes : Bool} {before : Option Char} {c : Char} {s t w : List Char}

/-- A character that neither opens a quote nor begins a connective is a character of a term. -/
theorem from?_letter (hopen : ¬(quotes = true ∧ isQuote c = true ∧ opensBehind before = true))
    (hconn : connectiveAt? before (c :: s) = none) :
    Mark.from? quotes ⟨before, none, 0⟩ (c :: s) =
      (Mark.from? quotes ⟨some c, none, 0⟩ s).map (.letter c :: ·) := by
  rw [Mark.from?, if_neg hopen, hconn]

/-- Blanks are characters of a term. -/
theorem from?_blanks (hs : ∀ c ∈ s, isBlank c = true) :
    Mark.from? quotes ⟨before, none, 0⟩ (s ++ t) =
      (Mark.from? quotes ⟨s.getLast?.or before, none, 0⟩ t).map (letters s ++ ·) := by
  induction s generalizing before with
  | nil => simp
  | cons c s ih =>
    have hc : isBlank c = true := hs c (by simp)
    have hquote : isQuote c = false := by
      rw [← Bool.not_eq_true]
      intro hq
      simp [isBlank_of_isQuote hq] at hc
    have hlower : c.toLower.isLower = false := by
      rw [← Bool.not_eq_true]
      intro hl
      simp [isBlank_of_isLower_toLower hl] at hc
    rw [List.cons_append, from?_letter (by simp [hquote]) (connectiveAt?_cons hlower before _),
      ih fun d hd => hs d (by simp [hd]), Option.map_map]
    simp [Function.comp_def, List.getLast?_cons]

/-- Behind a character that is no blank, characters that are neither blanks nor quotes belong to
a term. -/
theorem from?_run {b : Char} (hb : isBlank b = false)
    (hw : ∀ c ∈ w, isBlank c = false ∧ isQuote c = false) :
    Mark.from? quotes ⟨some b, none, 0⟩ (w ++ t) =
      (Mark.from? quotes ⟨w.getLast?.or (some b), none, 0⟩ t).map (letters w ++ ·) := by
  induction w generalizing b with
  | nil => simp
  | cons c w ih =>
    obtain ⟨hc, hquote⟩ := hw c (by simp)
    rw [List.cons_append, from?_letter (by simp [hquote])
      (connectiveAt?_of_not_isEdge (by simpa [isEdge] using hb) _),
      ih hc fun d hd => hw d (by simp [hd]), Option.map_map]
    simp [Function.comp_def, List.getLast?_cons]

/-- A word that is no connective belongs to a term. -/
theorem from?_word (hne : w ≠ []) (hw : ∀ c ∈ w, isBlank c = false ∧ isQuote c = false)
    (hconn : Connective.ofWord? (w.map Char.toLower) = none) (ht : isEdge t.head? = true) :
    Mark.from? quotes ⟨before, none, 0⟩ (w ++ t) =
      (Mark.from? quotes ⟨w.getLast?, none, 0⟩ t).map (letters w ++ ·) := by
  obtain ⟨c, w, rfl⟩ := List.exists_cons_of_ne_nil hne
  obtain ⟨hc, hquote⟩ := hw c (by simp)
  have hnone : connectiveAt? before (c :: w ++ t) = none := by
    cases hedge : isEdge before with
    | false => exact connectiveAt?_of_not_isEdge hedge _
    | true => rw [connectiveAt?_append (fun d hd => (hw d hd).1) ht hedge, hconn, Option.map_none]
  rw [List.cons_append] at hnone ⊢
  rw [from?_letter (by simp [hquote]) hnone, from?_run hc fun d hd => hw d (by simp [hd]),
    Option.map_map]
  simp [Function.comp_def, List.getLast?_cons]

/-- The characters that belong to a connective are passed over. -/
theorem from?_ahead {quote : Option Char} :
    Mark.from? quotes ⟨before, quote, s.length⟩ (s ++ t) =
      Mark.from? quotes ⟨s.getLast?.or before, quote, 0⟩ t := by
  induction s generalizing before with
  | nil => simp
  | cons c s ih =>
    rw [List.cons_append, List.length_cons, Mark.from?, ih]
    simp [List.getLast?_cons]

/-- The word of a connective between edges is the connective. -/
theorem from?_connective {k : Connective}
    (hk : Connective.ofWord? (w.map Char.toLower) = some k) (hbefore : isEdge before = true)
    (ht : isEdge t.head? = true) :
    Mark.from? quotes ⟨before, none, 0⟩ (w ++ t) =
      (Mark.from? quotes ⟨w.getLast?, none, 0⟩ t).map (.connective k :: ·) := by
  have hlower : ∀ c ∈ w, c.toLower.isLower = true := by
    intro c hc
    obtain ⟨entry, hentry, -⟩ := Option.map_eq_some_iff.1 hk
    have hword : entry.1 = w.map Char.toLower := by simpa using List.find?_some hentry
    exact isLower_of_mem_words (List.mem_of_find?_eq_some hentry) _
      (hword ▸ List.mem_map_of_mem hc)
  obtain ⟨c, w, rfl⟩ : ∃ c w', w = c :: w' := by
    cases w with
    | nil => simp [Connective.ofWord?, Connective.words] at hk
    | cons c w => exact ⟨c, w, rfl⟩
  have hat : connectiveAt? before (c :: w ++ t) = some (k, (c :: w).length) := by
    rw [connectiveAt?_append (fun d hd => isBlank_of_isLower_toLower (hlower d hd)) ht hbefore, hk,
      Option.map_some]
  rw [List.cons_append, Mark.from?, if_neg (by simp [isQuote_of_isLower_toLower (hlower c _)]),
    ← List.cons_append, hat]
  simp [from?_ahead, List.getLast?_cons]

/-- Where no quote counts, every text has marks. -/
theorem isSome_from?_false (s : List Char) (before : Option Char) (n : Nat) :
    (Mark.from? false ⟨before, none, n⟩ s).isSome = true := by
  induction s generalizing before n with
  | nil => rfl
  | cons c s ih =>
    cases n with
    | succ n => exact ih (some c) n
    | zero =>
      rw [Mark.from?, if_neg (by simp)]
      cases connectiveAt? before (c :: s) <;> simp [ih]

/-! ## Text between quotes -/

/-- From inside a quote, a text that stays enclosed and the quote behind it belong to a term. -/
theorem from?_enclosed {q : Char} (hq : isQuote q = true) (hs : Enclosable q s)
    (ht : closesBefore t.head? = true) :
    Mark.from? quotes ⟨before, some q, 0⟩ (s ++ q :: t) =
      (Mark.from? quotes ⟨some q, none, 0⟩ t).map (letters (s ++ [q]) ++ ·) := by
  induction s generalizing before with
  | nil => simp [Mark.from?, ht]
  | cons c s ih =>
    have hopen : ¬(c = q ∧ closesBefore (s ++ q :: t).head? = true) := by
      rintro ⟨rfl, hclose⟩
      cases s with
      | nil => simp [closesBefore_isQuote hq] at hclose
      | cons d s => simp [(List.isChain_cons_cons.1 hs).1 rfl] at hclose
    rw [List.cons_append, Mark.from?, if_neg hopen, ih hs.tail, Option.map_map]
    simp [Function.comp_def]

/-- A text that stays enclosed by its quotes belongs to a term. -/
theorem from?_quoted {q : Char} (hq : isQuote q = true) (hs : Enclosable q s)
    (hopen : opensBehind before = true) (ht : closesBefore t.head? = true) :
    Mark.from? true ⟨before, none, 0⟩ (q :: s ++ q :: t) =
      (Mark.from? true ⟨some q, none, 0⟩ t).map (letters (q :: s ++ [q]) ++ ·) := by
  rw [List.cons_append, Mark.from?, if_pos ⟨rfl, hq, hopen⟩, from?_enclosed hq hs ht,
    Option.map_map]
  simp [Function.comp_def]

/-! ## Gathering marks to parts -/

/-- Characters in front of a row of marks belong to its first term. -/
theorem gather_letters_append (s : List Char) (marks : List Mark) :
    Part.gather (letters s ++ marks) = (s ++ (Part.gather marks).1, (Part.gather marks).2) := by
  induction s with
  | nil => rfl
  | cons c s ih => rw [letters, List.map_cons, List.cons_append, Part.gather, ih]; rfl

end RecordQuery.Filter
