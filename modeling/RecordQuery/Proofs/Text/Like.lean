import Mathlib.Data.List.TakeWhile
import RecordQuery.Text.Like
import RecordQuery.Text.Part

/-!
# What patterns match

The pattern of a literal text consumes a front of the text that is the literal in letters of either
case (`Like.matchTokens_literal`), and a wildcard for any text is tried at every end of the text
(`Like.someEnd_eq_true`). So the patterns with a wildcard on one side or on both match the texts
that, up to their first NUL and in small letters, begin with the literal, end with it or hold it.
The pattern of a literal is also what is left when the slash and the two wildcards are escaped one
after the other (`Like.literal_eq_escaping`).
-/

namespace RecordQuery.Text

/-- The text with small letters for the letters A to Z. -/
def folded (s : List Char) : List Char := s.map Char.toLower

variable {s word : List Char}

theorem startsWith_eq_true : startsWith s word = true ↔ word <+: s := List.isPrefixOf_iff_prefix

theorem endsWith_eq_true : endsWith s word = true ↔ word <:+ s := List.isSuffixOf_iff_suffix

theorem holds_eq_true : holds s word = true ↔ word <:+: s := by
  induction s with
  | nil => simp [holds]
  | cons c s ih =>
    rw [holds, Bool.or_eq_true, ih, List.isPrefixOf_iff_prefix, List.infix_cons_iff]

namespace Like

variable {pattern rest : List Char} {ts : List Token} {p : List Char → Bool}

/-! ## Literal texts -/

/-- The text with an escape in front of the character, wherever it stands. -/
def escaping (c : Char) (s : List Char) : List Char :=
  s.flatMap fun d => if d = c then [escape, d] else [d]

theorem escaping_append (c : Char) (s t : List Char) :
    escaping c (s ++ t) = escaping c s ++ escaping c t := List.flatMap_append

/-- A literal is escaped for one special character after the other. The slash is the first, so the
slashes in front of the wildcards are not escaped in their turn. -/
theorem literal_eq_escaping (s : List Char) :
    literal s = escaping '_' (escaping '%' (escaping escape s)) := by
  induction s with
  | nil => rfl
  | cons c s ih =>
    have hcons : literal ([c] ++ s) = literal [c] ++ literal s := List.flatMap_append
    have hone : literal [c] = escaping '_' (escaping '%' (escaping escape [c])) := by
      by_cases hescape : c = escape
      · subst hescape
        rfl
      by_cases hall : c = '%'
      · subst hall
        rfl
      by_cases hone : c = '_'
      · subst hone
        rfl
      simp [literal, escaping, isSpecial, hescape, hall, hone]
    rw [← List.singleton_append, hcons, hone, ih, ← escaping_append, ← escaping_append,
      ← escaping_append]

theorem nul_notMem_literal (h : '\x00' ∉ word) : '\x00' ∉ literal word := by
  intro hmem
  obtain ⟨c, hc, hmem⟩ := List.mem_flatMap.1 hmem
  split at hmem
  · rcases List.mem_cons.1 hmem with he | hmem
    · exact absurd he (by decide)
    · exact h (List.mem_singleton.1 hmem ▸ hc)
  · exact h (List.mem_singleton.1 hmem ▸ hc)

theorem upToNul_eq_self (h : '\x00' ∉ s) : upToNul s = s := by
  refine List.takeWhile_eq_self_iff.2 fun c hc => decide_eq_true ?_
  rintro rfl
  exact h hc

theorem tokens_nil : tokens [] = [] := by
  rw [tokens.eq_def]

theorem tokens_percent (rest : List Char) : tokens ('%' :: rest) = .anyText :: tokens rest := by
  rw [tokens.eq_def]
  rfl

/-- The pieces of a literal are its characters. -/
theorem tokens_literal_append (word rest : List Char) :
    tokens (literal word ++ rest) = word.map .exactly ++ tokens rest := by
  induction word with
  | nil => rfl
  | cons c word ih =>
    have hcons : literal (c :: word) = (if isSpecial c then [escape, c] else [c]) ++ literal word :=
      rfl
    rw [hcons]
    cases hc : isSpecial c with
    | true => simp [tokens, ih]
    | false =>
      -- an ordinary character is neither a wildcard nor what makes one ordinary
      simp only [isSpecial, Bool.or_eq_false_iff, decide_eq_false_iff_not] at hc
      obtain ⟨⟨hall, hone⟩, hescape⟩ := hc
      rw [if_neg (by decide), List.cons_append, List.nil_append, List.cons_append, tokens.eq_def]
      simp only [if_neg hescape, if_neg hall, if_neg hone, ih, List.map_cons, List.cons_append]

/-! ## Matching -/

theorem someEnd_eq_true : someEnd p s = true ↔ ∃ t, t <:+ s ∧ p t = true := by
  induction s with
  | nil => simp [someEnd]
  | cons c s ih =>
    rw [someEnd, Bool.or_eq_true, ih]
    constructor
    · rintro (h | ⟨t, ht, h⟩)
      · exact ⟨c :: s, List.suffix_rfl, h⟩
      · exact ⟨t, ht.trans (List.suffix_cons c s), h⟩
    · rintro ⟨t, ht, h⟩
      rcases List.suffix_cons_iff.1 ht with rfl | ht
      · exact .inl h
      · exact .inr ⟨t, ht, h⟩

theorem matchTokens_anyText (s : List Char) : matchTokens [.anyText] s = true :=
  someEnd_eq_true.2 ⟨[], List.nil_suffix, rfl⟩

/-- A literal matches a front of the text that is the literal in letters of either case. -/
theorem matchTokens_literal : matchTokens (word.map .exactly ++ ts) s = true ↔
    ∃ t u, s = t ++ u ∧ folded t = folded word ∧ matchTokens ts u = true := by
  induction word generalizing s with
  | nil =>
    constructor
    · exact fun h => ⟨[], s, rfl, rfl, h⟩
    · rintro ⟨t, u, rfl, ht, hu⟩
      rwa [List.map_eq_nil_iff.1 ht]
  | cons c word ih =>
    cases s with
    | nil => simp [matchTokens, folded]
    | cons d s =>
      rw [List.map_cons, List.cons_append, matchTokens, Bool.and_eq_true, ih, sameLetter,
        decide_eq_true_eq]
      constructor
      · rintro ⟨hletter, t, u, rfl, ht, hu⟩
        refine ⟨d :: t, u, rfl, ?_, hu⟩
        rw [folded, List.map_cons, folded, List.map_cons, hletter]
        exact congrArg _ ht
      · rintro ⟨t, u, hs, ht, hu⟩
        cases t with
        | nil => simp [folded] at ht
        | cons e t =>
          rw [List.cons_append, List.cons.injEq] at hs
          obtain ⟨rfl, rfl⟩ := hs
          rw [folded, List.map_cons, folded, List.map_cons, List.cons.injEq] at ht
          exact ⟨ht.1.symm, t, u, rfl, ht.2, hu⟩

theorem prefix_folded_iff :
    folded word <+: folded s ↔ ∃ t u, s = t ++ u ∧ folded t = folded word := by
  constructor
  · rintro ⟨v, hv⟩
    obtain ⟨t, u, rfl, ht, -⟩ := List.map_eq_append_iff.1 hv.symm
    exact ⟨t, u, rfl, ht⟩
  · rintro ⟨t, u, rfl, ht⟩
    refine ⟨folded u, ?_⟩
    rw [← ht, folded, folded, folded, List.map_append]

theorem suffix_folded_iff : folded word <:+ folded s ↔ ∃ t, t <:+ s ∧ folded t = folded word := by
  constructor
  · rintro ⟨v, hv⟩
    obtain ⟨t, u, rfl, -, hu⟩ := List.map_eq_append_iff.1 hv.symm
    exact ⟨u, List.suffix_append t u, hu⟩
  · rintro ⟨t, ht, hfolded⟩
    exact hfolded ▸ ht.map _

theorem infix_folded_iff : folded word <:+: folded s ↔ ∃ t, t <:+ s ∧ folded word <+: folded t := by
  rw [List.infix_iff_prefix_suffix]
  constructor
  · rintro ⟨v, hword, u, hu⟩
    obtain ⟨t, e, rfl, -, he⟩ := List.map_eq_append_iff.1 hu.symm
    refine ⟨e, List.suffix_append t e, ?_⟩
    show folded word <+: e.map Char.toLower
    rwa [he]
  · rintro ⟨t, ht, hword⟩
    exact ⟨folded t, hword, ht.map _⟩

end Like

end RecordQuery.Text
