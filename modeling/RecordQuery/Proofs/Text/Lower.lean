import RecordQuery.Proofs.Text.Blank
import RecordQuery.Text.Lower

/-!
# Lower case and ASCII

Only the letters A to Z have two cases, so what is said of the cases of a character is checked on
them (`forall_cased`).

The lower case of an ASCII text is made letter by letter (`lowerAfter_of_ascii`). Beyond ASCII, the
Kelvin sign alone has an ASCII character as its lower case, so a text whose lower case is ASCII
without a small k is ASCII itself (`lower_eq_iff`).
-/

namespace RecordQuery.Text

/-- A code point keeps its lower case, or a run of capitals shifts it. -/
theorem lowerCode_cases (runs : List CaseRun) (n : Nat) :
    lowerCode runs n = n ∨
      ∃ r ∈ runs, r.first ≤ n ∧ n ≤ r.last ∧ lowerCode runs n = (n + r.shift).toNat := by
  induction runs with
  | nil => exact .inl rfl
  | cons r runs ih =>
    rw [lowerCode]
    split
    · exact .inl rfl
    · next hfirst =>
      split
      · next hlast => exact .inr ⟨r, by simp, by omega, hlast.1, rfl⟩
      · refine ih.imp_right ?_
        rintro ⟨s, hs, hrun⟩
        exact ⟨s, by simp [hs], hrun⟩

/-- The code point of the Kelvin sign, whose lower case is the letter k. -/
def kelvinSign : Nat := 0x212A

variable {c : Char} {s t before : List Char}

/-- The lower case of a character beyond ASCII is beyond ASCII, but for the Kelvin sign. -/
theorem le_lowerCode (hc : 0x80 ≤ c.toNat) (hkelvin : c.toNat ≠ kelvinSign) :
    0x80 ≤ (Char.ofNat (lowerCode caseRuns c.toNat)).toNat := by
  rcases lowerCode_cases caseRuns c.toNat with h | ⟨r, hr, hfirst, hlast, h⟩
  · rwa [h, Char.ofNat_toNat]
  · -- no run leads into the surrogates, which are no characters
    have hruns : ∀ r ∈ caseRuns, r.last < 0x80 ∨ r.first = kelvinSign ∧ r.last = kelvinSign ∨
        0x80 ≤ r.first + r.shift ∧ r.last + r.shift < 0xD800 ∨
        0xE000 ≤ r.first + r.shift ∧ r.last + r.shift < 0x110000 := by
      decide +kernel
    have hvalid {n : Nat} (hn : n < 0xD800 ∨ 0xDFFF < n ∧ n < 0x110000) :
        (Char.ofNat n).toNat = n := by
      rw [Char.ofNat, dif_pos hn]
      rfl
    rw [h]
    rcases hruns r hr with hascii | hkelvin' | hlow | hhigh
    · omega
    · omega
    · rw [hvalid (.inl (by omega))]
      omega
    · rw [hvalid (.inr (by omega))]
      omega

/-- A property of the ASCII code points holds of the ASCII characters. -/
theorem forall_ascii {p : Char → Prop} (h : ∀ n < 0x80, p (Char.ofNat n)) (hc : c.toNat < 0x80) :
    p c := by
  have := h c.toNat hc
  rwa [Char.ofNat_toNat] at this

/-- What holds of the letters, and of any character that is no letter and has no other case, holds
of all characters. -/
theorem forall_cased {p : Char → Prop}
    (hletters : ∀ n < 26, p (Char.ofNat (0x41 + n)) ∧ p (Char.ofNat (0x61 + n)))
    (hothers : ∀ c : Char, c.toLower = c → c.toUpper = c → c.isAlpha = false → p c) (c : Char) :
    p c := by
  by_cases hcapital : 0x41 ≤ c.toNat ∧ c.toNat ≤ 0x5A
  · have hc := (hletters (c.toNat - 0x41) (by omega)).1
    rwa [Nat.add_sub_cancel' hcapital.1, Char.ofNat_toNat] at hc
  by_cases hsmall : 0x61 ≤ c.toNat ∧ c.toNat ≤ 0x7A
  · have hc := (hletters (c.toNat - 0x61) (by omega)).2
    rwa [Nat.add_sub_cancel' hsmall.1, Char.ofNat_toNat] at hc
  · have hupper : c.isUpper = false := decide_eq_false hcapital
    have hlower : (decide (0x61 ≤ c.toNat) && decide (c.toNat ≤ 0x7A)) = false := by
      rw [← Bool.decide_and]
      exact decide_eq_false hsmall
    exact hothers c (toLower_eq_self hcapital) (dif_neg hsmall)
      (Bool.or_eq_false_iff.2 ⟨hupper, hlower⟩)

theorem isAlpha_toLower (c : Char) : c.toLower.isAlpha = c.isAlpha :=
  forall_cased (p := fun c => c.toLower.isAlpha = c.isAlpha) (by decide)
    (fun c hlower _ _ => by rw [hlower]) c

/-- A character that is no letter has no other case. -/
theorem eq_of_toLower_eq {d : Char} (hc : c.isAlpha = false) (h : d.toLower = c.toLower) :
    d = c := by
  have hself (e : Char) : e.isAlpha = false → e.toLower = e :=
    forall_cased (p := fun e => e.isAlpha = false → e.toLower = e) (by decide)
      (fun _ hlower _ _ _ => hlower) e
  have hd : d.isAlpha = false := by
    rw [← isAlpha_toLower, h, isAlpha_toLower, hc]
  rwa [hself c hc, hself d hd] at h

/-- A letter has another case. -/
theorem exists_toLower_eq (hc : c.isAlpha = true) : ∃ d, d ≠ c ∧ d.toLower = c.toLower := by
  let other (c : Char) : Char := if c.isLower then c.toUpper else c.toLower
  have hother : ∀ c : Char, c.isAlpha = true → other c ≠ c ∧ (other c).toLower = c.toLower :=
    forall_cased (p := fun c => c.isAlpha = true → other c ≠ c ∧ (other c).toLower = c.toLower)
      (by decide) fun _ _ _ hnone hc => absurd (hnone.symm.trans hc) Bool.false_ne_true
  exact ⟨other c, hother c hc⟩

/-- The lower case of an ASCII character is its small letter. -/
theorem lowerChar_of_ascii (hc : c.toNat < 0x80) :
    lowerChar c = [c.toLower] ∧ c.toLower.toNat < 0x80 :=
  forall_ascii (p := fun c => lowerChar c = [c.toLower] ∧ c.toLower.toNat < 0x80)
    (by decide) hc

/-- The small form of a character is a blank if the character is one. -/
theorem isBlank_toLower (c : Char) : isBlank c.toLower = isBlank c :=
  forall_cased (p := fun c => isBlank c.toLower = isBlank c) (by decide)
    (fun c hlower _ _ => by rw [hlower]) c

/-- Trimming does not look at the case of letters. -/
theorem trim_map_toLower (s : List Char) :
    trim (s.map Char.toLower) = (trim s).map Char.toLower := by
  have hblank : isBlank ∘ Char.toLower = isBlank := funext isBlank_toLower
  rw [trim, trimBy, trimEndBy, List.dropWhile_map, hblank, ← List.map_reverse, List.dropWhile_map,
    hblank, ← List.map_reverse]
  rfl

/-- The lower case of an ASCII text is made letter by letter, whatever stands before it. -/
theorem lowerAfter_of_ascii (hs : ∀ c ∈ s, c.toNat < 0x80) :
    lowerAfter before s = s.map Char.toLower := by
  induction s generalizing before with
  | nil => rfl
  | cons c s ih =>
    obtain ⟨hc, hs⟩ := List.forall_mem_cons.1 hs
    have hsigma : c.toNat ≠ 0x3A3 := by omega
    rw [lowerAfter, if_neg hsigma, (lowerChar_of_ascii hc).1, ih hs]
    rfl

/-- The lower case of a text with a character beyond ASCII is not ASCII without a small k. -/
theorem exists_mem_lowerAfter (before : List Char) (hc : c ∈ s) (hbeyond : 0x80 ≤ c.toNat) :
    ∃ d ∈ lowerAfter before s, 0x80 ≤ d.toNat ∨ d = 'k' := by
  induction s generalizing before with
  | nil => cases hc
  | cons e s ih =>
    rw [lowerAfter]
    rcases List.mem_cons.1 hc with rfl | hc
    · by_cases hsigma : c.toNat = 0x3A3
      · rw [if_pos hsigma]
        refine ⟨_, List.mem_append_left _ (List.mem_singleton_self _), .inl ?_⟩
        split <;> decide
      · rw [if_neg hsigma, lowerChar]
        by_cases hdotted : c.toNat = 0x130
        · rw [if_pos hdotted]
          exact ⟨Char.ofNat 0x307, by simp, .inl (by decide)⟩
        · rw [if_neg hdotted]
          refine ⟨_, List.mem_append_left _ (List.mem_singleton_self _), ?_⟩
          by_cases hkelvin : c.toNat = kelvinSign
          · right
            rw [hkelvin]
            decide
          · exact .inl (le_lowerCode hbeyond hkelvin)
    · obtain ⟨d, hd, h⟩ := ih (e :: before) hc
      exact ⟨d, List.mem_append_right _ hd, h⟩

/-- A small form that is ASCII is that of an ASCII character. -/
theorem toNat_lt_of_toLower (hc : c.toLower.toNat < 0x80) : c.toNat < 0x80 := by
  by_cases hcapital : 0x41 ≤ c.toNat ∧ c.toNat ≤ 0x5A
  · omega
  · rwa [toLower_eq_self hcapital] at hc

/-- A text has an ASCII text without a small k as its lower case if and only if the small forms of
its characters are that text. -/
theorem lower_eq_iff (ht : ∀ c ∈ t, c.toNat < 0x80 ∧ c ≠ 'k') :
    lower s = t ↔ s.map Char.toLower = t := by
  have hascii (h : ∀ c ∈ s, c.toNat < 0x80) : lower s = s.map Char.toLower :=
    lowerAfter_of_ascii h
  constructor
  · rintro rfl
    refine (hascii fun c hc => ?_).symm
    by_contra hbeyond
    obtain ⟨d, hd, hbeyond | rfl⟩ := exists_mem_lowerAfter [] hc (Nat.not_lt.1 hbeyond)
    · exact absurd (ht d hd).1 (Nat.not_lt.2 hbeyond)
    · exact (ht _ hd).2 rfl
  · rintro rfl
    exact hascii fun c hc => toNat_lt_of_toLower (ht _ (List.mem_map_of_mem hc)).1

end RecordQuery.Text
