import RecordQuery.Proofs.Text.Blank

/-!
# The words of a text

The words of a text are its longest runs of characters that are no blanks. A text falls into two
halves with its words where a blank stands on either side of the cut (`words_append`), and trimming
takes no word away (`words_trim`). Where a word stands in its text is `exists_of_mem_words`.
-/

namespace RecordQuery.Text

/-- The words of a text, in their order. -/
def words (s : List Char) : List (List Char) := (s.splitOnP isBlank).filter fun w => !w.isEmpty

variable {s t w : List Char} {c : Char}

@[simp]
theorem words_nil : words [] = [] := rfl

/-- A blank parts the words on its sides. -/
theorem words_append_cons (hc : isBlank c = true) (s t : List Char) :
    words (s ++ c :: t) = words s ++ words t := by
  rw [words, List.splitOnP_append_cons s t hc, List.filter_append]
  rfl

theorem words_cons (hc : isBlank c = true) (s : List Char) : words (c :: s) = words s :=
  words_append_cons hc [] s

/-- Characters without blanks are one word. -/
theorem words_eq_singleton (hne : w ≠ []) (hw : ∀ c ∈ w, isBlank c = false) : words w = [w] := by
  rw [words, List.splitOnP_eq_singleton hw]
  simp [hne]

/-- A cut beside a blank, or at an end, parts no word. -/
theorem words_append (h : (∀ c ∈ s.getLast?, isBlank c = true) ∨ ∀ c ∈ t.head?, isBlank c = true) :
    words (s ++ t) = words s ++ words t := by
  rcases h with hs | ht
  · rcases List.eq_nil_or_concat s with rfl | ⟨s, c, rfl⟩
    · rfl
    · rw [List.concat_eq_append] at hs ⊢
      have hc : isBlank c = true := hs c (by simp)
      rw [List.append_assoc, List.singleton_append, words_append_cons hc, words_append_cons hc,
        words_nil, List.append_nil]
  · cases t with
    | nil => simp
    | cons c t =>
      have hc : isBlank c = true := ht c (by simp)
      rw [words_append_cons hc, words_cons hc]

/-- Blanks alone hold no word. -/
theorem words_eq_nil (hs : ∀ c ∈ s, isBlank c = true) : words s = [] := by
  induction s with
  | nil => rfl
  | cons c s ih => rw [words_cons (hs c (by simp)), ih fun d hd => hs d (by simp [hd])]

/-- Every text is empty, or begins with a blank or with a word. -/
theorem eq_nil_or_blank_or_word (s : List Char) :
    s = [] ∨ (∃ c t, s = c :: t ∧ isBlank c = true) ∨
      ∃ w t, s = w ++ t ∧ w ≠ [] ∧ (∀ c ∈ w, isBlank c = false) ∧
        ∀ c ∈ t.head?, isBlank c = true := by
  cases s with
  | nil => exact .inl rfl
  | cons c s =>
    cases hc : isBlank c with
    | true => exact .inr (.inl ⟨c, s, rfl, hc⟩)
    | false =>
      refine .inr (.inr ⟨(c :: s).takeWhile fun d => !isBlank d,
        (c :: s).dropWhile fun d => !isBlank d, List.takeWhile_append_dropWhile.symm, ?_, ?_, ?_⟩)
      · simp [hc]
      · intro d hd
        simpa using List.mem_takeWhile_imp hd
      · intro d hd
        have := List.head?_dropWhile_not (fun d => !isBlank d) (c :: s)
        rw [hd] at this
        simpa using this

/-- What stands behind a word is shorter than the text. -/
theorem length_lt_append (hne : w ≠ []) (t : List Char) : t.length < (w ++ t).length := by
  have := List.length_pos_iff.2 hne
  rw [List.length_append]
  omega

/-- The characters of the words are those of the text that are no blanks. -/
theorem flatten_words (s : List Char) : (words s).flatten = s.filter fun c => !isBlank c := by
  induction hn : s.length using Nat.strong_induction_on generalizing s with
  | _ n ih =>
  subst hn
  rcases eq_nil_or_blank_or_word s with rfl | ⟨c, t, rfl, hc⟩ | ⟨w, t, rfl, hne, hw, ht⟩
  · rfl
  · rw [words_cons hc, ih t.length (by simp) t rfl, List.filter_cons_of_neg (by simp [hc])]
  · have hkept : w.filter (fun c => !isBlank c) = w :=
      List.filter_eq_self.2 fun c hc => by simp [hw c hc]
    rw [words_append (.inr ht), words_eq_singleton hne hw, List.singleton_append,
      List.flatten_cons, ih _ (length_lt_append hne t) t rfl, List.filter_append, hkept]

/-- The characters of the words of several texts are those of the texts that are no blanks. -/
theorem flatten_flatMap_words (ss : List (List Char)) :
    (ss.flatMap words).flatten = ss.flatten.filter fun c => !isBlank c := by
  induction ss with
  | nil => rfl
  | cons s ss ih =>
    rw [List.flatMap_cons, List.flatten_append, ih, flatten_words, List.flatten_cons,
      List.filter_append]

/-- A word has characters, none of which is a blank, and stands in its text between blanks or
ends. -/
theorem exists_of_mem_words (h : w ∈ words s) :
    (w ≠ [] ∧ ∀ c ∈ w, isBlank c = false) ∧ ∃ a b, s = a ++ (w ++ b) ∧
      (∀ c ∈ a.getLast?, isBlank c = true) ∧ ∀ c ∈ b.head?, isBlank c = true := by
  induction hn : s.length using Nat.strong_induction_on generalizing s with
  | _ n ih =>
  subst hn
  rcases eq_nil_or_blank_or_word s with rfl | ⟨c, t, rfl, hc⟩ | ⟨v, t, rfl, hne, hv, ht⟩
  · cases h
  · rw [words_cons hc] at h
    obtain ⟨hw, a, b, rfl, ha, hb⟩ := ih t.length (by simp) h rfl
    refine ⟨hw, c :: a, b, rfl, ?_, hb⟩
    cases a with
    | nil => simpa using hc
    | cons d a => simpa [List.getLast?_cons_cons] using ha
  · rw [words_append (.inr ht), words_eq_singleton hne hv, List.singleton_append] at h
    rcases List.mem_cons.1 h with rfl | h
    · exact ⟨⟨hne, hv⟩, [], t, rfl, by simp, ht⟩
    · obtain ⟨hw, a, b, rfl, ha, hb⟩ := ih _ (length_lt_append hne t) h rfl
      refine ⟨hw, v ++ a, b, (List.append_assoc ..).symm, ?_, hb⟩
      -- `a` is not empty, since what is behind the first word does not begin with another one
      cases a with
      | nil =>
        obtain ⟨c, w, rfl⟩ := List.exists_cons_of_ne_nil hw.1
        have hblank : isBlank c = true := ht c rfl
        rw [hw.2 c (by simp)] at hblank
        cases hblank
      | cons d a => simpa [List.getLast?_append, List.getLast?_cons] using ha

/-! ## Words and trimming -/

/-- Trimming takes no word away. -/
theorem words_trim (s : List Char) : words (trim s) = words s := by
  obtain ⟨a, b, hs, ha, hb⟩ := exists_append_trimBy isBlank s
  calc words (trim s) = words (trim s) ++ words b := by rw [words_eq_nil hb, List.append_nil]
    _ = words (trim s ++ b) := (words_append (.inr fun c hc => hb c (List.mem_of_head? hc))).symm
    _ = words a ++ words (trim s ++ b) := by rw [words_eq_nil ha, List.nil_append]
    _ = words (a ++ (trim s ++ b)) :=
      (words_append (.inl fun c hc => ha c (List.mem_of_getLast? hc))).symm
    _ = words s := congrArg words hs.symm

/-- A text that is trimmed to nothing holds no word. -/
theorem words_eq_nil_of_trim (h : trim s = []) : words s = [] := by
  rw [← words_trim, h, words_nil]

end RecordQuery.Text
