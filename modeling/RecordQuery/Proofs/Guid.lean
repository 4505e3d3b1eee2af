import RecordQuery.Guid
import RecordQuery.Proofs.Text.Digit
import RecordQuery.Proofs.Text.Lower

/-!
# Reading an identifier back

`Guid.ofText?_of_spelling`: an identifier is read back from its text, with or without the hyphens,
in letters of either case and perhaps in braces.

Reading takes out `urn:` and `uuid:` and admits signs, underscores and the marker `0x` of numerals.
None of this touches a spelling, which beside braces and hyphens has nothing but hexadecimal digits
(`IsHexChar`).
-/

namespace RecordQuery

open Text

/-! ## Hexadecimal digits -/

namespace Text

/-- A hexadecimal digit in letters of either case. -/
def IsHexChar (c : Char) : Prop := ∃ d < 16, c.toLower = hexDigit d

/-- The characters beside digits and letters that may stand in a filter, in a numeral or around an
identifier, and the letters of the marker of numerals. -/
def signs : List Char :=
  ['-', '+', '_', ':', '%', 'x', 'X', '\x27', '\x7b', '\x7d']

namespace IsHexChar

variable {c : Char} {s : List Char}

/-- A hexadecimal digit is read as its value; it is no blank and none of the other characters. -/
theorem spec (h : IsHexChar c) :
    (∃ d, Guid.digit? c = some d ∧ Guid.digit? c.toLower = some d) ∧ isBlank c = false ∧
      c ∉ signs := by
  obtain ⟨d, hd, hc⟩ := h
  have hdigit : ∀ d < 16, (hexDigit d).toNat < 0x80 ∧ Guid.digit? (hexDigit d) = some d := by
    decide
  have hascii : c.toNat < 0x80 := toNat_lt_of_toLower (hc ▸ (hdigit d hd).1)
  have hread := forall_ascii (p := fun c => ∀ d : Fin 16, c.toLower = hexDigit d →
    Guid.digit? c = some d.1 ∧ isBlank c = false ∧ c ∉ signs) (by decide +kernel) hascii ⟨d, hd⟩ hc
  exact ⟨⟨d, hread.1, hc ▸ (hdigit d hd).2⟩, hread.2⟩

theorem isBlank (h : IsHexChar c) : isBlank c = false := h.spec.2.1

/-- A hexadecimal digit is none of the other characters. -/
theorem ne {d : Char} (h : IsHexChar c) (hd : d ∈ signs) : c ≠ d :=
  fun hcd => h.spec.2.2 (hcd ▸ hd)

/-- Hexadecimal digits are read as their small forms are. -/
theorem mapM_digit? (hs : ∀ c ∈ s, IsHexChar c) :
    s.mapM Guid.digit? = (s.map Char.toLower).mapM Guid.digit? := by
  induction s with
  | nil => rfl
  | cons c s ih =>
    obtain ⟨hc, hs⟩ := List.forall_mem_cons.1 hs
    obtain ⟨⟨d, hread, hlower⟩, -⟩ := hc.spec
    simp [hread, hlower, ih hs]

end IsHexChar

/-- A hyphen is the small form of a hyphen alone. -/
theorem toLower_eq_hyphen {c : Char} : c.toLower = '-' ↔ c = '-' :=
  ⟨fun h => eq_of_toLower_eq (c := '-') rfl h, by rintro rfl; rfl⟩

/-- Where a character of a word is missing there is no such word to take out. -/
theorem removeAll_eq_self {word s : List Char} {c : Char} (hc : c ∈ word) (hs : c ∉ s) :
    removeAll word s = s := by
  rw [removeAll]
  induction s with
  | nil => rfl
  | cons d s ih =>
    have hprefix : word.isPrefixOf (d :: s) = false := by
      rw [← Bool.not_eq_true, List.isPrefixOf_iff_prefix]
      exact fun h => hs (h.subset hc)
    rw [removeAfter, hprefix, if_neg Bool.false_ne_true, ih fun h => hs (List.mem_cons_of_mem d h)]

end Text

namespace Guid

variable {g : Guid} {s : List Char}

/-! ## The digits of an identifier -/

/-- The digits of an identifier are its 32 last ones. -/
theorem hex_eq (g : Guid) : g.hex = fixedText hexDigit 16 digitCount g.value := hexText_eq

theorem length_hex (g : Guid) : g.hex.length = digitCount := by rw [hex_eq, length_fixedText]

/-- A text is written with the digits of the identifier, in letters of either case. -/
theorem isHexChar_of_map_toLower (hs : s.map Char.toLower = g.hex) : ∀ c ∈ s, IsHexChar c := by
  intro c hc
  have hmem : c.toLower ∈ g.hex := hs ▸ List.mem_map_of_mem hc
  rw [hex_eq] at hmem
  exact exists_of_mem_fixedText (by decide) hmem

/-- The digits of an identifier are read as its number. -/
theorem digits?_of_map_toLower (hs : s.map Char.toLower = g.hex) : digits? s = some g.value := by
  have hchars := isHexChar_of_map_toLower hs
  have hvalue : g.value < 16 ^ digitCount := g.value_lt
  have hread : ∀ d < 16, digit? (hexDigit d) = some d := by decide
  obtain ⟨ds, hds, hfold⟩ := mapM_fixedText (by decide) hread hvalue
  have hsingle : s.splitOn '_' = [s] :=
    List.splitOn_eq_singleton fun h => (hchars '_' h).ne (by decide) rfl
  have hne : s.isEmpty = false := by
    cases s with
    | nil =>
      have := congrArg List.length hs
      rw [length_hex] at this
      cases this
    | cons => rfl
  have hgroup : group? s = some ds := by
    rw [group?, hne, if_neg Bool.false_ne_true, IsHexChar.mapM_digit? hchars, hs, hex_eq, hds]
  simp [digits?, hsingle, hgroup, hfold]

/-- The digits of an identifier are a numeral without a sign and without the marker. -/
theorem numeral?_of_map_toLower (hs : s.map Char.toLower = g.hex) : numeral? s = some g.value := by
  have hchars := isHexChar_of_map_toLower hs
  have htrim : trimBy isWhiteSpace s = s := trimBy_of_forall fun c hc => by
    rw [isWhiteSpace, (hchars c hc).isBlank, Bool.false_and]
  have hmarker : dropMarker s = s := by
    unfold dropMarker
    split
    · next x rest =>
      have hx : IsHexChar x := hchars x (by simp)
      rw [if_neg fun h => h.elim (hx.ne (by decide)) (hx.ne (by decide))]
    · rfl
  have hdigits := digits?_of_map_toLower hs
  rw [numeral?, htrim]
  split
  · exact absurd rfl ((hchars '-' (by simp)).ne (by decide))
  · exact absurd rfl ((hchars '+' (by simp)).ne (by decide))
  · rw [hmarker, hdigits]

/-! ## Spellings -/

/-- The texts that spell an identifier: its text, or its digits alone, in letters of either case,
also in braces. -/
inductive Spelling (g : Guid) : List Char → Prop
  | bare {s : List Char} : s.map Char.toLower = g.text ∨ s.map Char.toLower = g.hex → Spelling g s
  | braced {s : List Char} : Spelling g s → Spelling g ('\x7b' :: (s ++ ['\x7d']))

/-- Among the digits of an identifier there is no hyphen. -/
theorem filter_of_sublist_hex {t : List Char} (ht : t.Sublist g.hex) :
    t.filter (· ≠ '-') = t := by
  refine List.filter_eq_self.2 fun c hc => decide_eq_true ?_
  have hmem := ht.subset hc
  rw [hex_eq] at hmem
  obtain ⟨d, hd, rfl⟩ := exists_of_mem_fixedText (by decide) hmem
  exact (by decide : ∀ d < 16, hexDigit d ≠ '-') d hd

/-- Without its hyphens, the text of an identifier is its digits. -/
theorem filter_text (g : Guid) : g.text.filter (· ≠ '-') = g.hex := by
  have hgroup (n k : Nat) : ((g.hex.drop n).take k).filter (· ≠ '-') = (g.hex.drop n).take k :=
    filter_of_sublist_hex ((List.take_sublist ..).trans (List.drop_sublist ..))
  have hjoin (n k : Nat) : (g.hex.drop n).take k ++ g.hex.drop (n + k) = g.hex.drop n := by
    rw [← List.drop_drop, List.take_append_drop]
  have hhyphen (t : List Char) : ('-' :: t).filter (· ≠ '-') = t.filter (· ≠ '-') := rfl
  simp only [text, List.append_assoc, List.cons_append, List.filter_append, hhyphen, hgroup,
    filter_of_sublist_hex (List.take_sublist ..), filter_of_sublist_hex (List.drop_sublist ..)]
  rw [hjoin 16 4, hjoin 12 4, hjoin 8 4, List.take_append_drop]

/-- The text of an identifier is written in small letters. -/
theorem map_toLower_text (g : Guid) : g.text.map Char.toLower = g.text := by
  have hchar : ∀ c ∈ g.text, c ∈ g.hex ∨ c = '-' := by
    intro c hc
    by_cases hyphen : c = '-'
    · exact .inr hyphen
    · refine .inl ?_
      rw [← filter_text]
      exact List.mem_filter.2 ⟨hc, decide_eq_true hyphen⟩
  have hlower : ∀ c ∈ g.text, c.toLower = c := by
    intro c hc
    rcases hchar c hc with hc | rfl
    · rw [hex_eq] at hc
      obtain ⟨d, hd, rfl⟩ := exists_of_mem_fixedText (by decide) hc
      exact (by decide : ∀ d < 16, (hexDigit d).toLower = hexDigit d) d hd
    · rfl
  rw [List.map_congr_left hlower, List.map_id']

/-- Small forms keep their places around hyphens. -/
theorem filter_map_toLower (s : List Char) :
    (s.map Char.toLower).filter (· ≠ '-') = (s.filter (· ≠ '-')).map Char.toLower := by
  rw [List.filter_map]
  congr 2
  funext c
  simp [toLower_eq_hyphen]

/-- With hyphens or without, the digits of the identifier are left. -/
theorem filter_of_bare (hs : s.map Char.toLower = g.text ∨ s.map Char.toLower = g.hex) :
    (s.map Char.toLower).filter (· ≠ '-') = g.hex := by
  rcases hs with hs | hs
  · rw [hs, filter_text]
  · rw [hs, filter_of_sublist_hex (List.Sublist.refl _)]

/-- A text with the digits of the identifier beside hyphens has nothing else in it. -/
theorem isHexChar_of_filter (hs : (s.map Char.toLower).filter (· ≠ '-') = g.hex) {c : Char}
    (hc : c ∈ s) : IsHexChar c ∨ c = '-' := by
  rw [filter_map_toLower] at hs
  by_cases hyphen : c = '-'
  · exact .inr hyphen
  · exact .inl (isHexChar_of_map_toLower hs c (List.mem_filter.2 ⟨hc, decide_eq_true hyphen⟩))

/-- Such a text has no braces at its ends. -/
theorem trimBy_isBrace_of_filter (hs : (s.map Char.toLower).filter (· ≠ '-') = g.hex) :
    trimBy isBrace s = s := by
  refine trimBy_of_forall fun c hc => ?_
  rcases isHexChar_of_filter hs hc with h | rfl
  · simp [isBrace, h.ne (by decide : '\x7b' ∈ signs), h.ne (by decide : '\x7d' ∈ signs)]
  · decide

namespace Spelling

/-- The braces around a spelling aside, it has the digits of the identifier beside hyphens. -/
theorem filter_trimBy (h : Spelling g s) :
    ((trimBy isBrace s).map Char.toLower).filter (· ≠ '-') = g.hex := by
  induction h with
  | bare hs => rw [trimBy_isBrace_of_filter (filter_of_bare hs), filter_of_bare hs]
  | @braced s _ ih =>
    have hbraces : trimBy isBrace ('\x7b' :: (s ++ ['\x7d'])) = trimBy isBrace s :=
      trimBy_append (a := ['\x7b']) (b := ['\x7d']) (List.forall_mem_singleton.2 rfl)
        (List.forall_mem_singleton.2 rfl)
    rw [hbraces, ih]

/-- A spelling has nothing but hexadecimal digits, hyphens and braces. -/
theorem of_mem (h : Spelling g s) {c : Char} (hc : c ∈ s) :
    IsHexChar c ∨ c = '-' ∨ c = '\x7b' ∨ c = '\x7d' := by
  induction h with
  | bare hs => exact (isHexChar_of_filter (filter_of_bare hs) hc).imp_right .inl
  | braced _ ih =>
    rcases List.mem_cons.1 hc with rfl | hc
    · simp
    · rcases List.mem_append.1 hc with hc | hc
      · exact ih hc
      · simp [List.mem_singleton.1 hc]

/-- No blank stands in a spelling. -/
theorem isBlank (h : Spelling g s) : ∀ c ∈ s, isBlank c = false := by
  intro c hc
  rcases h.of_mem hc with h | rfl | rfl | rfl
  · exact h.isBlank
  all_goals decide

/-- What hexadecimal digits, hyphens and braces are not does not stand in a spelling. -/
theorem notMem (h : Spelling g s) {c : Char} (hc : c ∈ signs)
    (hother : ¬(c = '-' ∨ c = '\x7b' ∨ c = '\x7d')) : c ∉ s :=
  fun hmem => (h.of_mem hmem).elim (fun h => h.ne hc rfl) hother

end Spelling

/-- The text of an identifier is one of its spellings. -/
theorem spelling_text (g : Guid) : g.Spelling g.text := .bare (.inl g.map_toLower_text)

/-- An identifier is read back from its spellings. -/
theorem ofText?_of_spelling (h : Spelling g s) : ofText? s = some g := by
  have hcolon : ':' ∉ s := h.notMem (by decide) (by decide)
  have hcore : core s = (trimBy isBrace s).filter (· ≠ '-') := by
    rw [core, removeAll_eq_self (by decide) hcolon, removeAll_eq_self (by decide) hcolon]
  have hdigits : (core s).map Char.toLower = g.hex := by
    rw [hcore, ← filter_map_toLower, h.filter_trimBy]
  have hlength : (core s).length = digitCount := by
    rw [← List.length_map, hdigits, length_hex]
  simp only [ofText?, hlength, if_true, numeral?_of_map_toLower hdigits, Option.bind_some, ofNat?]
  rw [dif_pos g.value_lt]

end Guid

end RecordQuery
