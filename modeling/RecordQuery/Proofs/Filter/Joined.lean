import RecordQuery.Proofs.Filter.Cut

/-!
# Joining filters

A blank behind a text is to the walk along it what its end is: the same connectives stand before it
and the same quotes close (`from?_append_of_isBlank`). An edge in front of a text is as good as any
other (`from?_of_isEdge`). So two texts that end outside quotes, joined by a connective between
spaces, have the parts of the one, the connective and the parts of the other
(`ofText_append_connective`).
-/

namespace RecordQuery.Filter

open Text

variable {quotes : Bool} {before : Option Char} {c : Char} {s t word : List Char} {k : Connective}
  {marks rest : List Mark}

/-! ## The walk up to a blank -/

/-- Whether a word stands in front of a text is the same with a blank behind the text. -/
theorem standsAt_append_of_isBlank (hc : isBlank c = true)
    (hword : ∀ d ∈ word, d.isLower = true) (before : Option Char) (s t : List Char) :
    standsAt before (s ++ c :: t) word = standsAt before s word := by
  rcases Nat.lt_or_ge s.length word.length with hlt | hle
  · -- the word would hold the blank, or the text is too short for it
    have hblank : standsAt before (s ++ c :: t) word = false :=
      standsAt_append_cons hword (isLower_toLower_of_isBlank hc) hlt
    have hshort : standsAt before s word = false := by
      rw [← Bool.not_eq_true]
      intro h
      simp only [standsAt, Bool.and_eq_true, decide_eq_true_eq] at h
      have := congrArg List.length h.1.1
      rw [List.length_map, List.length_take] at this
      omega
    rw [hblank, hshort]
  · have hedge : isEdge ((s ++ c :: t).drop word.length).head? =
        isEdge (s.drop word.length).head? := by
      rw [List.drop_append_of_le_length hle]
      cases s.drop word.length with
      | nil => exact hc
      | cons d u => rfl
    simp only [standsAt, List.take_append_of_le_length hle, hedge]

/-- The connective in front of a text is the same with a blank behind the text. -/
theorem connectiveAt?_append_of_isBlank (hc : isBlank c = true) (before : Option Char)
    (s t : List Char) : connectiveAt? before (s ++ c :: t) = connectiveAt? before s := by
  unfold connectiveAt?
  congr 1
  exact List.find?_congr fun entry hentry =>
    standsAt_append_of_isBlank hc (isLower_of_mem_words hentry) before s t

/-- A quote closes before a blank as it does at the end. -/
theorem closesBefore_append_of_isBlank (hc : isBlank c = true) (s t : List Char) :
    closesBefore (s ++ c :: t).head? = closesBefore s.head? := by
  cases s with
  | nil => simp [closesBefore, hc]
  | cons d s => rfl

/-- A walk that ends outside quotes gives the same marks with a blank behind its text, and goes on
from there. -/
theorem from?_append_of_isBlank (hc : isBlank c = true) {p : Position}
    (hahead : p.ahead ≤ s.length) (h : Mark.from? quotes p s = some marks) (t : List Char) :
    Mark.from? quotes p (s ++ c :: t) =
      (Mark.from? quotes ⟨s.getLast?.or p.before, none, 0⟩ (c :: t)).map (marks ++ ·) := by
  induction s generalizing p marks with
  | nil =>
    obtain ⟨before, quote, ahead⟩ := p
    obtain rfl : ahead = 0 := Nat.le_zero.1 hahead
    rw [Mark.from?] at h
    cases quote with
    | some q => cases h
    | none =>
      cases h
      simp
  | cons d s ih =>
    have hletter {p' : Position} (hbefore : p'.before = some d) (hahead : p'.ahead = 0)
        (h : (Mark.from? quotes p' s).map (.letter d :: ·) = some marks) :
        (Mark.from? quotes p' (s ++ c :: t)).map (.letter d :: ·) =
          (Mark.from? quotes ⟨(d :: s).getLast?.or p.before, none, 0⟩ (c :: t)).map
            (marks ++ ·) := by
      obtain ⟨ms, hms, rfl⟩ := Option.map_eq_some_iff.1 h
      rw [ih (by omega) hms, hbefore, getLast?_cons_or, Option.map_map]
      rfl
    obtain ⟨before, quote, ahead⟩ := p
    cases ahead with
    | succ n =>
      rw [Mark.from?] at h
      rw [List.cons_append, Mark.from?, ih (by simpa using hahead) h, getLast?_cons_or]
    | zero =>
      rw [List.cons_append]
      cases quote with
      | some q =>
        rw [Mark.from?] at h ⊢
        rw [closesBefore_append_of_isBlank hc]
        exact hletter rfl rfl h
      | none =>
        have hat := connectiveAt?_append_of_isBlank hc before (d :: s) t
        rw [List.cons_append] at hat
        rw [Mark.from?] at h ⊢
        split at h
        · next hopen =>
          rw [if_pos hopen]
          exact hletter rfl rfl h
        · next hopen =>
          rw [if_neg hopen, hat]
          split at h
          · next k n hk =>
            obtain ⟨ms, hms, rfl⟩ := Option.map_eq_some_iff.1 h
            obtain ⟨w, u, hsplit, rfl, -⟩ := eq_append_of_connectiveAt? hk
            have hlength := congrArg List.length hsplit
            rw [List.length_append, List.length_cons] at hlength
            rw [ih (by dsimp only; omega) hms, getLast?_cons_or, Option.map_map]
            rfl
          · exact hletter rfl rfl h

/-- Outside quotes, one edge in front of a text is as good as another. -/
theorem from?_of_isEdge (other : Option Char) (hbefore : isEdge before = true)
    (hother : isEdge other = true) (s : List Char) :
    Mark.from? quotes ⟨before, none, 0⟩ s = Mark.from? quotes ⟨other, none, 0⟩ s := by
  have hopens {c? : Option Char} (h : isEdge c? = true) : opensBehind c? = true := by
    cases c? with
    | none => rfl
    | some c => simp only [isEdge] at h; simp [opensBehind, h]
  cases s with
  | nil => rfl
  | cons c s =>
    have hat : connectiveAt? before (c :: s) = connectiveAt? other (c :: s) := by
      simp only [connectiveAt?, standsAt, hbefore, hother]
    rw [Mark.from?, Mark.from?, hopens hbefore, hopens hother, hat]

/-! ## Parts around a connective -/

/-- The parts of marks with a blank and a connective behind them are theirs, the connective and the
parts of what follows. -/
theorem ofMarks_append_connective (hc : isBlank c = true) (marks rest : List Mark) :
    Part.ofMarks (marks ++ .letter c :: .connective k :: rest) =
      Part.ofMarks marks ++ .connective k :: Part.ofMarks rest := by
  -- with the characters in front of the marks that belong to their first term
  suffices h : ∀ x, Part.consTerm
      (x ++ (Part.gather (marks ++ .letter c :: .connective k :: rest)).1)
      (Part.gather (marks ++ .letter c :: .connective k :: rest)).2 =
        Part.consTerm (x ++ (Part.gather marks).1) (Part.gather marks).2 ++
          .connective k :: Part.ofMarks rest from h []
  have happend (x : List Char) (parts more : List Part) :
      Part.consTerm x (parts ++ more) = Part.consTerm x parts ++ more := by
    unfold Part.consTerm
    dsimp only
    split <;> rfl
  induction marks with
  | nil =>
    intro x
    have htrim : trim (x ++ [c]) = trim x :=
      trimBy_append (a := []) (by simp) (by simpa using hc)
    rw [List.nil_append, Part.gather, Part.gather, Part.gather, List.append_nil, ← happend,
      List.nil_append]
    unfold Part.consTerm
    rw [htrim]
    rfl
  | cons m marks ih =>
    intro x
    cases m with
    | letter d => simpa [Part.gather] using ih (x ++ [d])
    | connective k' =>
      rw [List.cons_append, Part.gather, Part.gather, ← happend, List.cons_append]
      have := ih []
      rw [List.nil_append, List.nil_append] at this
      rw [this]

/-- Two texts whose walks end outside quotes, joined by the word of a connective in letters of
either case between spaces, have the parts of the first one, the connective in small letters and
the parts of the second one. -/
theorem ofText_append_connective {f g w : List Char} (hf : (Mark.ofText? quotes f).isSome = true)
    (hg : (Mark.ofText? quotes g).isSome = true)
    (hw : Connective.ofWord? (w.map Char.toLower) = some k) :
    Part.ofText quotes (f ++ (' ' :: w ++ ' ' :: g)) =
        Part.ofText quotes f ++ .connective k :: Part.ofText quotes g ∧
      (Part.connective k).text = w.map Char.toLower := by
  refine ⟨?_, (connectiveWord_of_ofWord? hw).1⟩
  obtain ⟨marks, hmarks⟩ := Option.isSome_iff_exists.1 hf
  obtain ⟨rest, hrest⟩ := Option.isSome_iff_exists.1 hg
  have hspace : ∀ c ∈ [' '], isBlank c = true := List.forall_mem_singleton.2 rfl
  have hwalk : Mark.ofText? quotes (f ++ (' ' :: w ++ ' ' :: g)) =
      some (marks ++ .letter ' ' :: .connective k :: .letter ' ' :: rest) := by
    have hbehind : Mark.from? quotes ⟨w.getLast?, none, 0⟩ (' ' :: g) =
        some (.letter ' ' :: rest) := by
      rw [← List.singleton_append, from?_blanks hspace, List.getLast?_singleton, Option.some_or,
        from?_of_isEdge none rfl rfl, ← Position.front, ← Mark.ofText?, hrest]
      rfl
    rw [Mark.ofText?, Position.front, List.cons_append,
      from?_append_of_isBlank (p := ⟨none, none, 0⟩) (by decide) (Nat.zero_le _) hmarks,
      ← List.singleton_append, from?_blanks hspace, List.getLast?_singleton, Option.some_or,
      from?_connective hw rfl rfl, hbehind]
    rfl
  have hparts : Part.ofMarks (.letter ' ' :: rest) = Part.ofMarks rest := by
    rw [Part.ofMarks, Part.gather, Part.consTerm, trim_cons_of_isBlank (by decide)]
    rfl
  rw [Part.ofText, Part.ofText, Part.ofText, hwalk, hmarks, hrest, Option.some_or, Option.some_or,
    Option.some_or, Option.getD_some, Option.getD_some, Option.getD_some,
    ofMarks_append_connective (by decide), hparts]

/-- A text with a connective at either end and one between quotes, joined to another one that begins
with a connective. -/
theorem ofText_append_connective_quoted :
    let f := "or name eq 'salt and pepper' and".toList
    let g := "Or size gt 1".toList
    (Mark.ofText? true f).isSome = true ∧ (Mark.ofText? true g).isSome = true ∧
      Connective.ofWord? ("AnD".toList.map Char.toLower) = some .and ∧
      Part.ofText true (f ++ (' ' :: "AnD".toList ++ ' ' :: g)) =
        Part.ofText true f ++ .connective .and :: Part.ofText true g ∧
      (Part.connective .and).text = "AnD".toList.map Char.toLower := by
  intro f g
  have hf : (Mark.ofText? true f).isSome = true := by decide
  have hg : (Mark.ofText? true g).isSome = true := by decide
  exact ⟨hf, hg, rfl, ofText_append_connective hf hg rfl⟩

end RecordQuery.Filter
