import Mathlib.Data.List.TakeWhile
import RecordQuery.Text.Blank
import RecordQuery.Text.Word

/-!
# Blanks, words and trimming

A blank is no word character and has no other case, and trimming takes off what it may and no more:
`trimBy_append` drops padding on either side of a text, `trimBy_eq_self` leaves a text alone that
neither begins nor ends with a character of the class.
-/

namespace RecordQuery.Text

/-! ## Character classes -/

/-- A member of a list of ranges lies in one of the ranges. -/
theorem exists_of_inRanges {ranges : List (Nat × Nat)} {n : Nat} (h : inRanges ranges n = true) :
    ∃ r ∈ ranges, r.1 ≤ n ∧ n ≤ r.2 := by
  induction ranges with
  | nil => simp [inRanges] at h
  | cons r ranges ih =>
    simp only [inRanges] at h
    split at h
    · simp at h
    · next hlow =>
      split at h
      · next hhigh => exact ⟨r, by simp, by omega, hhigh⟩
      · obtain ⟨s, hs, hn⟩ := ih h
        exact ⟨s, by simp [hs], hn⟩

/-- A decidable property that holds throughout the ranges of blanks holds of every blank. -/
theorem forall_blank {p : Nat → Prop}
    (h : ∀ r ∈ blankRanges, ∀ k < r.2 + 1 - r.1, p (r.1 + k)) {c : Char} (hc : isBlank c = true) :
    p c.toNat := by
  obtain ⟨r, hr, hlow, hhigh⟩ := exists_of_inRanges hc
  have := h r hr (c.toNat - r.1) (by omega)
  rwa [Nat.add_sub_cancel' hlow] at this

/-- A blank is no word character. -/
theorem isWord_of_isBlank {c : Char} (hc : isBlank c = true) : isWord c = false := by
  have hrange : inRanges alphanumericRanges c.toNat = false :=
    forall_blank (p := fun n => inRanges alphanumericRanges n = false) (by decide +kernel) hc
  have hne : c ≠ '_' := by rintro rfl; revert hc; decide
  simp [isWord, hrange, hne]

/-- A word character is no blank. -/
theorem isBlank_of_isWord {c : Char} (hc : isWord c = true) : isBlank c = false := by
  rw [← Bool.not_eq_true]
  intro hb
  simp [isWord_of_isBlank hb] at hc

/-- A character that is no capital letter is its own small form. -/
theorem toLower_eq_self {c : Char} (hc : ¬(0x41 ≤ c.toNat ∧ c.toNat ≤ 0x5A)) : c.toLower = c := by
  have hval : ¬('A'.val ≤ c.val ∧ c.val ≤ 'Z'.val) := hc
  unfold Char.toLower
  rw [dif_neg hval]

/-- A blank is its own small form. -/
theorem toLower_of_isBlank {c : Char} (hc : isBlank c = true) : c.toLower = c :=
  toLower_eq_self (forall_blank (p := fun n => ¬(0x41 ≤ n ∧ n ≤ 0x5A)) (by decide) hc)

/-- A character with a small letter as its small form is no blank. -/
theorem isBlank_of_isLower_toLower {c : Char} (hc : c.toLower.isLower = true) :
    isBlank c = false := by
  rw [← Bool.not_eq_true]
  intro hb
  rw [toLower_of_isBlank hb] at hc
  have hn : ¬(0x61 ≤ c.toNat ∧ c.toNat ≤ 0x7A) :=
    forall_blank (p := fun n => ¬(0x61 ≤ n ∧ n ≤ 0x7A)) (by decide) hb
  have hc : (decide (0x61 ≤ c.toNat) && decide (c.toNat ≤ 0x7A)) = true := hc
  rw [Bool.and_eq_true, decide_eq_true_eq, decide_eq_true_eq] at hc
  exact hn hc

theorem isLower_toLower_of_isBlank {c : Char} (hc : isBlank c = true) :
    c.toLower.isLower = false :=
  Bool.eq_false_iff.2 fun hlower =>
    Bool.false_ne_true ((isBlank_of_isLower_toLower hlower).symm.trans hc)

/-- A digit is no blank. -/
theorem isBlank_of_isDigit {c : Char} (hc : c.isDigit = true) : isBlank c = false := by
  rw [← Bool.not_eq_true]
  intro hb
  have hn : ¬(0x30 ≤ c.toNat ∧ c.toNat ≤ 0x39) :=
    forall_blank (p := fun n => ¬(0x30 ≤ n ∧ n ≤ 0x39)) (by decide) hb
  simp only [Char.isDigit, Bool.and_eq_true, decide_eq_true_eq] at hc
  exact hn hc

/-! ## Trimming -/

variable {p : Char → Bool} {s : List Char}

/-- Padding behind a text is taken off. -/
theorem trimEndBy_append {b : List Char} (hb : ∀ c ∈ b, p c = true) :
    trimEndBy p (s ++ b) = trimEndBy p s := by
  have hrev : ∀ c ∈ b.reverse, p c = true := by simpa using hb
  rw [trimEndBy, List.reverse_append, List.dropWhile_append_of_pos hrev, trimEndBy]

/-- Nothing is taken off up to a character outside the class. -/
theorem trimEndBy_append_cons {c : Char} (hc : p c = false) (s t : List Char) :
    trimEndBy p (s ++ c :: t) = s ++ c :: trimEndBy p t := by
  have hrest : (c :: s.reverse).dropWhile p = c :: s.reverse :=
    List.dropWhile_cons_of_neg (by simp [hc])
  simp only [trimEndBy, List.reverse_append, List.reverse_cons, List.append_assoc,
    List.singleton_append, List.dropWhile_append, hrest]
  split
  · next h => simp [List.isEmpty_iff.1 h]
  · simp

/-- What is left of a text does not end with a character of the class. -/
theorem getLast?_trimEndBy : ∀ c ∈ (trimEndBy p s).getLast?, p c = false := by
  intro c hc
  rw [trimEndBy, List.getLast?_reverse] at hc
  have := List.head?_dropWhile_not p s.reverse
  rw [hc] at this
  simpa using this

/-- What is taken off the end of a text are characters of the class. -/
theorem exists_append_trimEndBy (p : Char → Bool) (s : List Char) :
    ∃ b, s = trimEndBy p s ++ b ∧ ∀ c ∈ b, p c = true := by
  refine ⟨(s.reverse.takeWhile p).reverse, ?_,
    fun c hc => List.mem_takeWhile_imp (List.mem_reverse.1 hc)⟩
  rw [trimEndBy, ← List.reverse_append, List.takeWhile_append_dropWhile, List.reverse_reverse]

/-- Trimming makes no text longer. -/
theorem length_trimEndBy_le : (trimEndBy p s).length ≤ s.length := by
  have hle : (s.reverse.dropWhile p).length ≤ s.reverse.length :=
    (List.dropWhile_suffix p).length_le
  rw [trimEndBy, List.length_reverse]
  rwa [List.length_reverse] at hle

/-- A text that ends with no character of the class has nothing to take off its end. -/
theorem trimEndBy_eq_self (h : ∀ c ∈ s.getLast?, p c = false) : trimEndBy p s = s := by
  rcases List.eq_nil_or_concat s with rfl | ⟨t, c, rfl⟩
  · rfl
  · have hc : p c = false := h c (by simp)
    simp [trimEndBy, hc]

/-- A text that begins with no character of the class has nothing to drop at its front. -/
theorem dropWhile_eq_self (h : ∀ c ∈ s.head?, p c = false) : s.dropWhile p = s := by
  cases s with
  | nil => rfl
  | cons c t => rw [List.dropWhile_cons_of_neg (by simp [h c (by simp)])]

/-- A text that neither begins nor ends with a character of the class has nothing to trim. -/
theorem trimBy_eq_self (hhead : ∀ c ∈ s.head?, p c = false)
    (hlast : ∀ c ∈ s.getLast?, p c = false) : trimBy p s = s := by
  rw [trimBy, dropWhile_eq_self hhead, trimEndBy_eq_self hlast]

/-- A text without characters of the class has nothing to trim. -/
theorem trimBy_of_forall (h : ∀ c ∈ s, p c = false) : trimBy p s = s :=
  trimBy_eq_self (fun c hc => h c (List.mem_of_head? hc)) fun c hc => h c (List.mem_of_getLast? hc)

/-- What is trimmed off a text are characters of the class on either side of what is left. -/
theorem exists_append_trimBy (p : Char → Bool) (s : List Char) :
    ∃ a b, s = a ++ (trimBy p s ++ b) ∧ (∀ c ∈ a, p c = true) ∧ ∀ c ∈ b, p c = true := by
  obtain ⟨b, hs, hb⟩ := exists_append_trimEndBy p (s.dropWhile p)
  refine ⟨s.takeWhile p, b, ?_, fun c hc => List.mem_takeWhile_imp hc, hb⟩
  rw [trimBy, ← hs, List.takeWhile_append_dropWhile]

/-- What is left of a trimmed text was in it. -/
theorem mem_of_mem_trim {c : Char} (hc : c ∈ trim s) : c ∈ s := by
  obtain ⟨a, b, hs, -, -⟩ := exists_append_trimBy isBlank s
  rw [hs]
  exact List.mem_append_right _ (List.mem_append_left _ hc)

/-- What is left of a text does not begin with a character of the class. -/
theorem head?_trimBy : ∀ c ∈ (trimBy p s).head?, p c = false := by
  obtain ⟨b, hs, -⟩ := exists_append_trimEndBy p (s.dropWhile p)
  intro c hc
  have hhead : (s.dropWhile p).head? = some c := by
    rw [hs, List.head?_append, ← trimBy, Option.mem_def.1 hc, Option.some_or]
  have := List.head?_dropWhile_not p s
  rwa [hhead] at this

/-- Padding on either side of a text is trimmed. -/
theorem trimBy_append {a b : List Char} (ha : ∀ c ∈ a, p c = true) (hb : ∀ c ∈ b, p c = true) :
    trimBy p (a ++ s ++ b) = trimBy p s := by
  have hbnil : b.dropWhile p = [] := List.dropWhile_eq_nil_iff.2 hb
  rw [trimBy, List.append_assoc, List.dropWhile_append_of_pos ha, List.dropWhile_append, trimBy]
  split
  · next h =>
    rw [List.isEmpty_iff] at h
    rw [hbnil, h]
  · exact trimEndBy_append hb

/-- Padding with a character outside the class is not trimmed off the front of a text: a character
of the padding is left in front. -/
theorem exists_head?_trimBy_append {a : List Char} (h : ¬ ∀ c ∈ a, p c = true) :
    ∃ c ∈ a, (trimBy p (a ++ s)).head? = some c := by
  have hrest : a.dropWhile p ≠ [] := fun hnil => h (List.dropWhile_eq_nil_iff.1 hnil)
  obtain ⟨c, rest, hcons⟩ := List.exists_cons_of_ne_nil hrest
  have hc : p c = false := by
    have := List.head?_dropWhile_not p a
    rw [hcons] at this
    simpa using this
  have hmem : c ∈ a := by
    refine (List.dropWhile_suffix p).subset ?_
    rw [hcons]
    exact List.mem_cons_self
  refine ⟨c, hmem, ?_⟩
  rw [trimBy, List.dropWhile_append, hcons, if_neg (by simp), List.cons_append,
    ← List.nil_append (c :: _), trimEndBy_append_cons hc]
  rfl

/-- Padding with a character outside the class is not trimmed off the end of a text: a character of
the padding is left at the end. -/
theorem exists_getLast?_trimBy_append {b : List Char} (h : ¬ ∀ c ∈ b, p c = true) :
    ∃ c ∈ b, (trimBy p (s ++ b)).getLast? = some c := by
  obtain ⟨pad, hb, hpad⟩ := exists_append_trimEndBy p b
  have hend : trimEndBy p b ≠ [] := by
    intro hnil
    rw [hnil, List.nil_append] at hb
    exact h (hb ▸ hpad)
  obtain ⟨rest, c, hconcat⟩ := (List.eq_nil_or_concat _).resolve_left hend
  have hc : p c = false := getLast?_trimEndBy c (by rw [hconcat]; simp)
  rw [hconcat, List.concat_eq_append, List.append_assoc, List.singleton_append] at hb
  refine ⟨c, by rw [hb]; simp, ?_⟩
  have hdrop : (s ++ b).dropWhile p = (s ++ rest).dropWhile p ++ c :: pad := by
    rw [hb, ← List.append_assoc, List.dropWhile_append]
    split
    · next hnil =>
      rw [List.isEmpty_iff.1 hnil, List.dropWhile_cons_of_neg (by simp [hc]), List.nil_append]
    · rfl
  have hnil : trimEndBy p pad = [] := by
    have := trimEndBy_append (s := []) hpad
    rwa [List.nil_append] at this
  rw [trimBy, hdrop, trimEndBy_append_cons hc, hnil, List.getLast?_append]
  rfl

/-- A text without blanks is trimmed to itself. -/
theorem trim_eq_self (h : ∀ c ∈ s, isBlank c = false) : trim s = s := trimBy_of_forall h

/-- A text without blanks is what is left of it between blanks. -/
theorem trim_between {before after : List Char} (hbefore : ∀ c ∈ before, isBlank c = true)
    (hafter : ∀ c ∈ after, isBlank c = true) (hs : ∀ c ∈ s, isBlank c = false) :
    trim (before ++ s ++ after) = s := by
  rw [trim, trimBy_append hbefore hafter, ← trim, trim_eq_self hs]

/-- A blank in front of a text is trimmed. -/
theorem trim_cons_of_isBlank {c : Char} (hc : isBlank c = true) (s : List Char) :
    trim (c :: s) = trim s := by
  rw [trim, trimBy, List.dropWhile_cons_of_pos hc]
  rfl

end RecordQuery.Text
