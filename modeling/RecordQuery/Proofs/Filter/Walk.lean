import RecordQuery.Proofs.Filter.RoundTrip

/-!
# Texts between quotes that do not enclose them

A text may be put between single quotes without any care for the quotes in it. `StaysWhole` says
when that does no harm: the walk from behind the opening quote to behind the closing one meets no
connective and ends outside quotes. How a walk goes through such a text depends on the text alone
(`exists_walksText`), and so does whether what is read behind the opening quote is the text
(`readBehindQuote`).
-/

namespace RecordQuery.Filter

open Text

/-- The position behind the quote in front of a text. -/
def Position.behindQuote (quotes : Bool) : Position :=
  ⟨some singleQuote, if quotes then some singleQuote else none, 0⟩

/-- On the way from the opening quote of a text to behind the closing one there is no connective,
and no quote is open in the end. Without `quotes`, none ever is. -/
def StaysWhole (quotes : Bool) (s : List Char) : Prop :=
  Mark.from? quotes (.behindQuote quotes) (s ++ [singleQuote]) =
    some (letters (s ++ [singleQuote]))

instance (quotes : Bool) (s : List Char) : Decidable (StaysWhole quotes s) :=
  inferInstanceAs (Decidable (_ = _))

/-- A text that its quotes enclose stays whole. -/
theorem StaysWhole.of_enclosable {s : List Char} (h : Enclosable singleQuote s) :
    StaysWhole true s := by
  have hfrom : Mark.from? true ⟨some singleQuote, some singleQuote, 0⟩ (s ++ [singleQuote]) =
      (Mark.from? true ⟨some singleQuote, none, 0⟩ []).map (letters (s ++ [singleQuote]) ++ ·) :=
    from?_enclosed rfl h rfl
  rw [StaysWhole, Position.behindQuote, if_pos rfl, hfrom]
  simp [Mark.from?]

/-! ## The walk through one text -/

variable {quotes : Bool} {before : Option Char} {s t : List Char}

/-- Whether a word stands in front of a text with a quote behind it does not depend on what follows
the quote, and if it does, then it stands in the text. -/
theorem standsAt_append_quote {word : List Char} (hword : ∀ d ∈ word, d.isLower = true)
    (before : Option Char) (s t : List Char) :
    standsAt before (s ++ singleQuote :: t) word = standsAt before (s ++ [singleQuote]) word ∧
      (standsAt before (s ++ singleQuote :: t) word = true → word.length ≤ s.length) := by
  rcases Nat.lt_or_ge s.length word.length with hlt | hle
  · -- the word would hold the quote
    have hfalse (u : List Char) : standsAt before (s ++ singleQuote :: u) word = false :=
      standsAt_append_cons hword (by decide) hlt
    rw [hfalse, hfalse]
    exact ⟨rfl, by simp⟩
  · have hhead (u : List Char) : ((s ++ singleQuote :: u).drop word.length).head? =
        ((s.drop word.length) ++ [singleQuote]).head? := by
      rw [List.drop_append_of_le_length hle]
      cases s.drop word.length <;> rfl
    have htake (u : List Char) : (s ++ singleQuote :: u).take word.length = s.take word.length :=
      List.take_append_of_le_length hle
    exact ⟨by simp only [standsAt, hhead, htake], fun _ => hle⟩

/-- The connective in front of a text with a quote behind it does not depend on what follows the
quote. It has at least two characters, all of them in the text. -/
theorem connectiveAt?_append_quote (before : Option Char) (s t : List Char) :
    connectiveAt? before (s ++ singleQuote :: t) = connectiveAt? before (s ++ [singleQuote]) ∧
      ∀ k n, connectiveAt? before (s ++ [singleQuote]) = some (k, n) → 2 ≤ n ∧ n ≤ s.length := by
  constructor
  · unfold connectiveAt?
    congr 1
    exact List.find?_congr fun entry hentry =>
      (standsAt_append_quote (isLower_of_mem_words hentry) before s t).1
  · intro k n h
    obtain ⟨entry, hentry, heq⟩ := Option.map_eq_some_iff.1 h
    have hmem := List.mem_of_find?_eq_some hentry
    have hlen : ∀ e ∈ Connective.words, 2 ≤ e.1.length := by decide
    have hstands := (standsAt_append_quote (isLower_of_mem_words hmem) before s []).2
      (by simpa using List.find?_some hentry)
    cases heq
    exact ⟨hlen entry hmem, hstands⟩

/-- The walk through a text and the quote behind it, whatever follows at an edge: it gives `marks`
and leaves `quote` open. Unless the marks are the characters, a connective in the text ends the term
two characters or more before the text ends. -/
structure WalksText (quotes : Bool) (p : Position) (s : List Char) (marks : List Mark)
    (quote : Option Char) : Prop where
  isQuote : ∀ q ∈ quote, isQuote q = true
  whole_or_cut : marks = letters (s ++ [singleQuote]) ∨
    (Part.gather marks).1.length + 2 ≤ s.length ∧ (Part.gather marks).2 ≠ []
  walk : ∀ t, isEdge t.head? = true → Mark.from? quotes p (s ++ singleQuote :: t) =
    (Mark.from? quotes ⟨some singleQuote, quote, 0⟩ t).map (marks ++ ·)

/-- A character of the term goes in front of a walk. -/
theorem WalksText.cons {p : Position} {c : Char} {quote quote' : Option Char} {marks : List Mark}
    (h : WalksText quotes ⟨some c, quote, 0⟩ s marks quote')
    (hp : ∀ t, Mark.from? quotes p (c :: (s ++ singleQuote :: t)) =
      (Mark.from? quotes ⟨some c, quote, 0⟩ (s ++ singleQuote :: t)).map (.letter c :: ·)) :
    WalksText quotes p (c :: s) (.letter c :: marks) quote' where
  isQuote := h.isQuote
  whole_or_cut := by
    rcases h.whole_or_cut with rfl | ⟨hlen, hne⟩
    · exact .inl rfl
    · exact .inr ⟨by simp only [Part.gather, List.length_cons]; omega, hne⟩
  walk t ht := by
    rw [List.cons_append, hp, h.walk t ht, Option.map_map]
    rfl

/-- There is a walk through the empty text: the closing quote closes its own kind, and opens if
nothing is open. -/
theorem exists_walksText_nil (quotes : Bool) (before quote : Option Char)
    (hquote : ∀ q ∈ quote, isQuote q = true) :
    ∃ marks quote', WalksText quotes ⟨before, quote, 0⟩ [] marks quote' := by
  cases quote with
  | some q =>
    refine ⟨[.letter singleQuote], if singleQuote = q then none else some q, ?_, .inl rfl, ?_⟩
    · split <;> simp_all
    · intro t ht
      simp [Mark.from?, closesBefore_of_isEdge ht]
  | none =>
    by_cases hopen : quotes = true ∧ isQuote singleQuote = true ∧ opensBehind before = true
    · refine ⟨[.letter singleQuote], some singleQuote, by simp [hopen.2.1], .inl rfl, ?_⟩
      intro t _
      rw [List.nil_append, Mark.from?, if_pos hopen]
      rfl
    · refine ⟨[.letter singleQuote], none, by simp, .inl rfl, fun t _ => ?_⟩
      rw [List.nil_append, from?_letter hopen (connectiveAt?_cons (by decide) _ _)]
      rfl

/-- A connective goes in front of a walk through the text behind it, and is part of the text. -/
theorem WalksText.connective {c : Char} {x : List Char} {k : Connective} {marks : List Mark}
    {quote : Option Char}
    (hopen : ¬(quotes = true ∧ Filter.isQuote c = true ∧ opensBehind before = true))
    (hat : connectiveAt? before (c :: (x ++ s) ++ [singleQuote]) = some (k, x.length + 1))
    (h : WalksText quotes ⟨x.getLast?.or (some c), none, 0⟩ s marks quote) :
    WalksText quotes ⟨before, none, 0⟩ (c :: (x ++ s)) (.connective k :: marks) quote where
  isQuote := h.isQuote
  whole_or_cut := by
    have htwo := ((connectiveAt?_append_quote before (c :: (x ++ s)) []).2 k _ hat).1
    refine .inr ⟨?_, by simp [Part.gather]⟩
    simp only [Part.gather, List.length_nil, List.length_cons, List.length_append]
    omega
  walk t ht := by
    have hat' := (connectiveAt?_append_quote before (c :: (x ++ s)) t).1.trans hat
    rw [List.cons_append] at hat' ⊢
    rw [Mark.from?, if_neg hopen, hat']
    simp only [Nat.add_sub_cancel, List.append_assoc, from?_ahead]
    rw [h.walk t ht, Option.map_map]
    rfl

/-- There is a walk through every text. -/
theorem exists_walksText (quotes : Bool) (s : List Char) (before quote : Option Char)
    (hquote : ∀ q ∈ quote, isQuote q = true) :
    ∃ marks quote', WalksText quotes ⟨before, quote, 0⟩ s marks quote' := by
  -- by the length of the text, since behind a connective the walk goes on further ahead
  induction hn : s.length using Nat.strong_induction_on generalizing s before quote with
  | _ n ih =>
  subst hn
  cases s with
  | nil => exact exists_walksText_nil quotes before quote hquote
  | cons c s =>
    cases quote with
    | some q =>
      have hhead (t : List Char) :
          (s ++ singleQuote :: t).head? = (s ++ [singleQuote]).head? := by cases s <;> rfl
      let still := if c = q ∧ closesBefore (s ++ [singleQuote]).head? = true then none else some q
      obtain ⟨marks, quote', h⟩ := ih s.length (by simp) s (some c) still
        (by simp only [still]; split <;> simp_all) rfl
      refine ⟨_, _, h.cons fun t => ?_⟩
      rw [Mark.from?, hhead]
    | none =>
      by_cases hopen : quotes = true ∧ isQuote c = true ∧ opensBehind before = true
      · obtain ⟨marks, quote', h⟩ :=
          ih s.length (by simp) s (some c) (some c) (by simp [hopen.2.1]) rfl
        refine ⟨_, _, h.cons fun t => ?_⟩
        rw [Mark.from?, if_pos hopen]
      · cases hat : connectiveAt? before (c :: s ++ [singleQuote]) with
        | none =>
          obtain ⟨marks, quote', h⟩ := ih s.length (by simp) s (some c) none (by simp) rfl
          refine ⟨_, _, h.cons fun t => from?_letter hopen ?_⟩
          rw [← List.cons_append, (connectiveAt?_append_quote before (c :: s) t).1, hat]
        | some found =>
          obtain ⟨k, n⟩ := found
          obtain ⟨htwo, hle⟩ := (connectiveAt?_append_quote before (c :: s) []).2 k n hat
          obtain ⟨x, u, rfl, rfl⟩ : ∃ x u, s = x ++ u ∧ n = x.length + 1 :=
            ⟨s.take (n - 1), s.drop (n - 1), (List.take_append_drop ..).symm, by
              simp only [List.length_take, List.length_cons] at hle ⊢; omega⟩
          obtain ⟨marks, quote', h⟩ :=
            ih u.length (by simp only [List.length_append, List.length_cons]; omega) u
              (x.getLast?.or (some c)) none (by simp) rfl
          exact ⟨_, _, h.connective hopen hat⟩

/-! ## What is read behind an opening quote -/

/-- What is read of a term behind its opening quote. -/
def readBehindQuote (z : List Char) : List Char :=
  let s := singleQuote :: trimEndBy isBlank z
  (unquoted? s).getD s

/-- A text up to a quote that ends the term is read as it is. -/
theorem readBehindQuote_closed (s : List Char) {b : List Char} (hb : ∀ c ∈ b, isBlank c = true) :
    readBehindQuote (s ++ singleQuote :: b) = s := by
  have hnil : trimEndBy isBlank b = [] := trimEndBy_append (s := []) hb
  have htrim : trimEndBy isBlank (s ++ singleQuote :: b) = s ++ [singleQuote] := by
    rw [trimEndBy_append_cons (by decide), hnil]
  simp only [readBehindQuote, htrim]
  simp [unquoted?, List.getLast?_cons, show isQuote singleQuote = true from rfl]

/-- What is read is as long as what stands there, up to the quotes and the blanks at the end. -/
theorem length_readBehindQuote (z : List Char) :
    (trimEndBy isBlank z).length ≤ (readBehindQuote z).length + 1 ∧
      (readBehindQuote z).length ≤ (trimEndBy isBlank z).length + 1 := by
  simp only [readBehindQuote, unquoted?]
  split
  · simp only [Option.getD_some, List.drop_one, List.tail_cons, List.length_dropLast]
    omega
  · simp only [Option.getD_none, List.length_cons]
    omega

end RecordQuery.Filter
