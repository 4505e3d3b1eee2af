import RecordQuery.Proofs.Filter.Grammar

/-!
# Terms by patterns

A term can be read by two patterns as well, first the one of null checks and then the one of the
other operators. A pattern goes through all ways in which its pieces take characters off a text,
longer runs first and longer words first, and the first way that takes the whole text counts. The
letters of a word match in a wider sense than by their small forms, so a word that was matched is
looked up again. A text has at most one way as far as the criterion can tell
(`readByPatterns_eq`), so the readings agree and both follow the grammar (`criterion?_grammar`).
-/

namespace RecordQuery.Filter

open Text

/-! ## Pieces of patterns -/

/-- The code point of a character, apart from its case. The capital i with a dot goes with i. -/
def foldedCode (c : Char) : Nat := if c.toNat = 0x130 then 0x69 else lowerCode caseRuns c.toNat

/-- The character stands for the small letter, in either case. The dotless i stands for i as well,
and the long s for s. -/
def standsFor (c letter : Char) : Bool :=
  foldedCode c = letter.toNat || letter = 'i' && foldedCode c = 0x131 ||
    letter = 's' && foldedCode c = 0x17F

/-- The ways to take one or more characters of the class off a text, with the longest first. -/
def runs (p : Char → Bool) : List Char → List (List Char × List Char)
  | [] => []
  | c :: s => if p c then (runs p s).map (fun way => (c :: way.1, way.2)) ++ [([c], s)] else []

/-- The characters that stand for the letters of a word, and the rest. -/
def takeWord? : List Char → List Char → Option (List Char × List Char)
  | [], s => some ([], s)
  | _ :: _, [] => none
  | letter :: word, c :: s =>
    if standsFor c letter then (takeWord? word s).map fun way => (c :: way.1, way.2) else none

/-- The words of the null checks, or those of the other operators, with the longest first. -/
def patternWords (nullChecks : Bool) : List (List Char) :=
  ((Operator.tokens.filter (·.2.isNullCheck = nullChecks)).map (·.1.toList)).mergeSort
    fun v w => w.length ≤ v.length

/-! ## Patterns -/

/-- The ways to take a property, a gap and one of the words off a text: the property, the word and
what is left. -/
def wordMatches (nullChecks : Bool) (s : List Char) : List (List Char × List Char × List Char) :=
  (runs isWord s).flatMap fun property => (runs isBlank property.2).flatMap fun gap =>
    ((patternWords nullChecks).filterMap (takeWord? · gap.2)).map fun word => (property.1, word)

/-- The ways in which the whole text is a null check: the property and the word. -/
def nullCheckMatches (s : List Char) : List (List Char × List Char) :=
  (wordMatches true s).filterMap fun way =>
    if way.2.2.isEmpty then some (way.1, way.2.1) else none

/-- The ways in which the whole text is a comparison: the property, the word and the value. -/
def valueMatches (s : List Char) : List (List Char × List Char × List Char) :=
  (wordMatches false s).flatMap fun way => (runs isBlank way.2.2).filterMap fun gap =>
    if gap.2.isEmpty then none else some (way.1, way.2.1, gap.2)

/-- The criterion of a null check by the first way in which the whole text is one. -/
def nullCheckCriterion? (s : List Char) : Option Criterion := do
  let (property, word) ← (nullCheckMatches s).head?
  let operator ← Operator.ofToken? (lower (trim word))
  some (Criterion.mk (String.ofList property) operator .absent .none)

/-- The criterion of a comparison by the first way in which the whole text is one. -/
def valueCriterion? (s : List Char) : Option Criterion := do
  let (property, word, value) ← (valueMatches s).head?
  let operator ← Operator.ofToken? (lower (trim word))
  some (Criterion.mk (String.ofList property) operator (operand value) .none)

/-- The criterion of a term by the first pattern, or else by the second one. -/
def readByPatterns (term : List Char) : Option Criterion :=
  (nullCheckCriterion? (trim term)).or (valueCriterion? (trim term))

/-! ## Letters -/

variable {c letter : Char} {p : Char → Bool} {s a b word w property gap value behind : List Char}
  {operator : Operator} {nullChecks : Bool}

/-- An ASCII character stands for its small form alone. -/
theorem standsFor_iff_of_ascii (hc : c.toNat < 0x80) :
    standsFor c letter = true ↔ c.toLower = letter := by
  obtain ⟨hfolded, hlt⟩ := forall_ascii
    (p := fun c => foldedCode c = c.toLower.toNat ∧ c.toLower.toNat < 0x80) (by decide) hc
  have hi : c.toLower.toNat ≠ 0x131 := by omega
  have hs : c.toLower.toNat ≠ 0x17F := by omega
  simp [standsFor, hfolded, hi, hs, Char.toNat_inj]

/-- A blank stands for no letter. -/
theorem standsFor_of_isBlank (hc : isBlank c = true) (hletter : letter.isLower = true) :
    standsFor c letter = false := by
  have hfolded : (if c.toNat = 0x130 then 0x69 else lowerCode caseRuns c.toNat) = c.toNat ∧
      ¬(0x61 ≤ c.toNat ∧ c.toNat ≤ 0x7A) ∧ c.toNat ≠ 0x131 ∧ c.toNat ≠ 0x17F :=
    forall_blank (p := fun n => (if n = 0x130 then 0x69 else lowerCode caseRuns n) = n ∧
      ¬(0x61 ≤ n ∧ n ≤ 0x7A) ∧ n ≠ 0x131 ∧ n ≠ 0x17F) (by decide +kernel) hc
  obtain ⟨hfolded, hsmall, hi, hs⟩ := hfolded
  have hletter : 0x61 ≤ letter.toNat ∧ letter.toNat ≤ 0x7A := by
    have : (decide (0x61 ≤ letter.toNat) && decide (letter.toNat ≤ 0x7A)) = true := hletter
    simpa using this
  have hne : c.toNat ≠ letter.toNat := by omega
  simp [standsFor, foldedCode, hfolded, hi, hs, hne]

/-! ## The ways of the pieces -/

/-- The ways to take a run off a text are the beginnings of the text in the class. -/
theorem mem_runs_iff : (a, b) ∈ runs p s ↔ s = a ++ b ∧ a ≠ [] ∧ ∀ c ∈ a, p c = true := by
  induction s generalizing a with
  | nil => simpa [runs] using fun hnil _ hne => absurd hnil hne
  | cons c s ih =>
    rw [runs]
    constructor
    · intro h
      split at h
      · next hc =>
        rcases List.mem_append.1 h with h | h
        · obtain ⟨⟨a', b'⟩, hway, ⟨⟩⟩ := List.mem_map.1 h
          obtain ⟨rfl, -, ha'⟩ := ih.1 hway
          exact ⟨rfl, by simp, List.forall_mem_cons.2 ⟨hc, ha'⟩⟩
        · obtain ⟨rfl, rfl⟩ := Prod.mk.inj (List.mem_singleton.1 h)
          exact ⟨rfl, by simp, by simpa using hc⟩
      · cases h
    · rintro ⟨happend, hne, ha⟩
      obtain ⟨d, a, rfl⟩ := List.exists_cons_of_ne_nil hne
      obtain ⟨rfl, rfl⟩ := List.cons_eq_cons.1 happend
      obtain ⟨hc, ha⟩ := List.forall_mem_cons.1 ha
      rw [if_pos hc]
      refine List.mem_append.2 ?_
      by_cases hnil : a = []
      · exact .inr (by simp [hnil])
      · exact .inl (List.mem_map.2 ⟨(a, b), ih.2 ⟨rfl, hnil, ha⟩, rfl⟩)

/-- A word is taken off a text if characters that stand for its letters begin the text. -/
theorem takeWord?_eq_some_iff : takeWord? w s = some (a, b) ↔
    s = a ++ b ∧ List.Forall₂ (fun c letter => standsFor c letter = true) a w := by
  induction w generalizing s a with
  | nil =>
    rw [takeWord?, Option.some.injEq, Prod.mk.injEq, List.forall₂_nil_right_iff]
    constructor
    · rintro ⟨rfl, rfl⟩
      exact ⟨rfl, rfl⟩
    · rintro ⟨rfl, rfl⟩
      exact ⟨rfl, rfl⟩
  | cons letter w ih =>
    cases s with
    | nil =>
      rw [takeWord?]
      refine ⟨nofun, fun ⟨happend, hforall⟩ => ?_⟩
      rw [(List.append_eq_nil_iff.1 happend.symm).1] at hforall
      cases hforall
    | cons c s =>
      rw [takeWord?]
      constructor
      · intro h
        split at h
        · next hc =>
          obtain ⟨⟨a', b'⟩, hway, ⟨⟩⟩ := Option.map_eq_some_iff.1 h
          obtain ⟨rfl, ha'⟩ := ih.1 hway
          exact ⟨rfl, .cons hc ha'⟩
        · cases h
      · rintro ⟨happend, hforall⟩
        cases hforall with
        | cons hc ha =>
          obtain ⟨rfl, hs⟩ := List.cons_eq_cons.1 happend
          rw [if_pos hc, ih.2 ⟨hs, ha⟩]
          rfl

/-! ## Words -/

/-- The characters stand for the letters of one of the words of a pattern. -/
def IsMatch (nullChecks : Bool) (word : List Char) : Prop :=
  ∃ w ∈ patternWords nullChecks, List.Forall₂ (fun c letter => standsFor c letter = true) word w

/-- The words of a pattern are those of the table. -/
theorem mem_patternWords_iff : w ∈ patternWords nullChecks ↔
    ∃ entry ∈ Operator.tokens, entry.2.isNullCheck = nullChecks ∧ entry.1.toList = w := by
  simp [patternWords, and_assoc]

/-- What stands for small letters holds no blank. -/
theorem isBlank_of_forall₂ (h : List.Forall₂ (fun c letter => standsFor c letter = true) word w)
    (hw : ∀ letter ∈ w, letter.isLower = true) : ∀ c ∈ word, isBlank c = false := by
  induction h with
  | nil => exact nofun
  | cons hc _ ih =>
    obtain ⟨hletter, hw⟩ := List.forall_mem_cons.1 hw
    refine List.forall_mem_cons.2 ⟨Bool.eq_false_iff.2 fun hblank => ?_, ih hw⟩
    rw [standsFor_of_isBlank hblank hletter] at hc
    cases hc

/-- ASCII characters stand for their small forms alone. -/
theorem forall₂_standsFor_iff (hword : ∀ c ∈ word, c.toNat < 0x80) :
    List.Forall₂ (fun c letter => standsFor c letter = true) word w ↔
      word.map Char.toLower = w := by
  induction word generalizing w with
  | nil => rw [List.forall₂_nil_left_iff, List.map_nil, eq_comm]
  | cons c word ih =>
    obtain ⟨hc, hword⟩ := List.forall_mem_cons.1 hword
    cases w with
    | nil => simp
    | cons letter w =>
      rw [List.forall₂_cons, standsFor_iff_of_ascii hc, ih hword, List.map_cons,
        List.cons_eq_cons]

/-- What matches a word is not empty and holds no blank. -/
theorem IsMatch.ne_nil_and_isBlank (h : IsMatch nullChecks word) :
    word ≠ [] ∧ ∀ c ∈ word, isBlank c = false := by
  obtain ⟨w, hw, hforall⟩ := h
  obtain ⟨entry, hentry, -, rfl⟩ := mem_patternWords_iff.1 hw
  obtain ⟨hne, hletters⟩ := Operator.forall_tokens entry hentry
  refine ⟨?_, isBlank_of_forall₂ hforall fun letter hletter => (hletters letter hletter).1⟩
  rintro rfl
  exact hne (List.forall₂_nil_left_iff.1 hforall)

/-- A word of an operator is ASCII. -/
theorem toNat_lt_of_names (h : Names word operator) : ∀ c ∈ word, c.toNat < 0x80 := by
  obtain ⟨entry, hentry, -, hword⟩ := h
  intro c hc
  refine toNat_lt_of_toLower ((Operator.forall_tokens entry hentry).2 c.toLower ?_).2.1
  exact hword ▸ List.mem_map_of_mem hc

/-- A word of an operator matches the pattern that the operator belongs to and no other. -/
theorem isMatch_iff_of_names (h : Names word operator) :
    IsMatch nullChecks word ↔ operator.isNullCheck = nullChecks := by
  constructor
  · rintro ⟨w, hw, hforall⟩
    obtain ⟨entry, hentry, rfl, rfl⟩ := mem_patternWords_iff.1 hw
    have hnames : Names word entry.2 :=
      ⟨entry, hentry, rfl, (forall₂_standsFor_iff (toNat_lt_of_names h)).1 hforall⟩
    rw [Option.some.inj (h.ofToken?.symm.trans hnames.ofToken?)]
  · intro hcheck
    obtain ⟨entry, hentry, rfl, hword⟩ := id h
    exact ⟨entry.1.toList, mem_patternWords_iff.2 ⟨entry, hentry, hcheck, rfl⟩,
      (forall₂_standsFor_iff (toNat_lt_of_names h)).2 hword⟩

/-! ## The ways of the patterns -/

/-- The ways of a pattern up to its word are the ways in which a text falls into a property, a gap,
a match and a rest. -/
theorem mem_wordMatches_iff : (property, word, behind) ∈ wordMatches nullChecks s ↔
    ∃ gap, s = property ++ (gap ++ (word ++ behind)) ∧
      (property ≠ [] ∧ ∀ c ∈ property, isWord c = true) ∧ IsGap gap ∧ IsMatch nullChecks word := by
  rw [wordMatches, List.mem_flatMap]
  constructor
  · rintro ⟨⟨property', rest⟩, hproperty, h⟩
    obtain ⟨⟨gap, rest'⟩, hrun, h⟩ := List.mem_flatMap.1 h
    obtain ⟨way, hway, ⟨⟩⟩ := List.mem_map.1 h
    obtain ⟨w, hw, htake⟩ := List.mem_filterMap.1 hway
    obtain ⟨rfl, hne, hisWord⟩ := mem_runs_iff.1 hproperty
    obtain ⟨rfl, hgap⟩ := mem_runs_iff.1 hrun
    obtain ⟨rfl, hforall⟩ := takeWord?_eq_some_iff.1 htake
    exact ⟨gap, rfl, ⟨hne, hisWord⟩, hgap, w, hw, hforall⟩
  · rintro ⟨gap, rfl, hproperty, hgap, w, hw, hforall⟩
    refine ⟨(property, gap ++ (word ++ behind)), mem_runs_iff.2 ⟨rfl, hproperty⟩, ?_⟩
    refine List.mem_flatMap.2 ⟨(gap, word ++ behind), mem_runs_iff.2 ⟨rfl, hgap⟩, ?_⟩
    refine List.mem_map.2 ⟨(word, behind), List.mem_filterMap.2 ⟨w, hw, ?_⟩, rfl⟩
    exact takeWord?_eq_some_iff.2 ⟨rfl, hforall⟩

/-- The ways of the first pattern. -/
theorem mem_nullCheckMatches_iff : (property, word) ∈ nullCheckMatches s ↔
    ∃ gap, FallsInto s property gap word [] ∧ IsMatch true word := by
  constructor
  · intro h
    obtain ⟨⟨property', word', behind⟩, hway, h⟩ := List.mem_filterMap.1 h
    dsimp only at h
    split at h
    · next hnil =>
      cases h
      obtain rfl : behind = [] := List.isEmpty_iff.1 hnil
      obtain ⟨gap, rfl, hproperty, hgap, hword⟩ := mem_wordMatches_iff.1 hway
      exact ⟨gap, ⟨rfl, hproperty, hgap, hword.ne_nil_and_isBlank, nofun⟩, hword⟩
    · cases h
  · rintro ⟨gap, h, hword⟩
    exact List.mem_filterMap.2 ⟨(property, word, []),
      mem_wordMatches_iff.2 ⟨gap, h.eq_append, h.property, h.gap, hword⟩, rfl⟩

/-- The ways of the second pattern. -/
theorem mem_valueMatches_iff : (property, word, value) ∈ valueMatches s ↔
    ∃ gap gap', FallsInto s property gap word (gap' ++ value) ∧ IsMatch false word ∧ IsGap gap' ∧
      value ≠ [] := by
  constructor
  · intro h
    obtain ⟨⟨property', word', behind⟩, hway, h⟩ := List.mem_flatMap.1 h
    obtain ⟨⟨gap', value'⟩, hrun, h⟩ := List.mem_filterMap.1 h
    dsimp only at h
    split at h
    · cases h
    · next hne =>
      cases h
      obtain ⟨gap, rfl, hproperty, hgap, hword⟩ := mem_wordMatches_iff.1 hway
      obtain ⟨rfl, hgap'⟩ := mem_runs_iff.1 hrun
      refine ⟨gap, gap', ⟨rfl, hproperty, hgap, hword.ne_nil_and_isBlank, ?_⟩, hword, hgap',
        by simpa using hne⟩
      intro c hc
      have hedge := IsGap.isEdge hgap' value
      rw [Option.mem_def.1 hc] at hedge
      exact hedge
  · rintro ⟨gap, gap', h, hword, hgap', hne⟩
    refine List.mem_flatMap.2 ⟨(property, word, gap' ++ value),
      mem_wordMatches_iff.2 ⟨gap, h.eq_append, h.property, h.gap, hword⟩, ?_⟩
    refine List.mem_filterMap.2 ⟨(gap', value), mem_runs_iff.2 ⟨rfl, hgap'⟩, ?_⟩
    exact if_neg (by simpa using hne)

/-! ## Reading by patterns -/

/-- What the first pattern reads are the parts of a null check. -/
theorem exists_of_nullCheckCriterion? {c : Criterion} (h : nullCheckCriterion? s = some c) :
    ∃ t : TermParts, ∃ operator, t.Spells operator ∧ t.text = s ∧ t.criterion operator = c := by
  obtain ⟨⟨property, word⟩, hway, h⟩ := Option.bind_eq_some_iff.1 h
  obtain ⟨operator, hoperator, ⟨⟩⟩ := Option.bind_eq_some_iff.1 h
  obtain ⟨gap, hfalls, hmatch⟩ := mem_nullCheckMatches_iff.1 (List.mem_of_mem_head? hway)
  rw [trim_eq_self hfalls.word.2] at hoperator
  have hcheck := (isMatch_iff_of_names (names_of_ofToken? hoperator)).1 hmatch
  exact ⟨⟨property, gap, word, none⟩, operator,
    ⟨hfalls.property, hfalls.gap, hoperator, hcheck, nofun⟩, hfalls.eq_append.symm, rfl⟩

/-- What the second pattern reads are the parts of a comparison. -/
theorem exists_of_valueCriterion? {c : Criterion} (h : valueCriterion? s = some c) :
    ∃ t : TermParts, ∃ operator, t.Spells operator ∧ t.text = s ∧ t.criterion operator = c := by
  obtain ⟨⟨property, word, value⟩, hway, h⟩ := Option.bind_eq_some_iff.1 h
  obtain ⟨operator, hoperator, ⟨⟩⟩ := Option.bind_eq_some_iff.1 h
  obtain ⟨gap, gap', hfalls, hmatch, hgap', hne⟩ :=
    mem_valueMatches_iff.1 (List.mem_of_mem_head? hway)
  rw [trim_eq_self hfalls.word.2] at hoperator
  have hcheck := (isMatch_iff_of_names (names_of_ofToken? hoperator)).1 hmatch
  refine ⟨⟨property, gap, word, some (gap', value)⟩, operator,
    ⟨hfalls.property, hfalls.gap, hoperator, hcheck, ?_⟩, hfalls.eq_append.symm, rfl⟩
  rintro v ⟨⟩
  exact ⟨hgap', hne⟩

/-- A null check is read by the first pattern. -/
theorem nullCheckCriterion?_eq {t : TermParts} (h : t.Spells operator) (hnone : t.value? = none)
    (htext : t.text = s) : nullCheckCriterion? s = some (t.criterion operator) := by
  have hfalls : FallsInto s t.property t.gap t.word [] := by
    have := h.fallsInto
    rwa [htext, TermParts.behind, hnone] at this
  have hmatch : IsMatch true t.word := by
    rw [isMatch_iff_of_names (names_of_ofToken? h.word), h.isNullCheck, hnone]
    rfl
  have hmem := mem_nullCheckMatches_iff.2 ⟨t.gap, hfalls, hmatch⟩
  obtain ⟨⟨property, word⟩, hhead⟩ :=
    Option.isSome_iff_exists.1 (List.isSome_head?.2 (List.ne_nil_of_mem hmem))
  -- the first way is that of the parts, since a text falls into parts in one way
  obtain ⟨gap, hfalls', -⟩ := mem_nullCheckMatches_iff.1 (List.mem_of_mem_head? hhead)
  obtain ⟨rfl, -, rfl, -⟩ := hfalls'.unique hfalls
  rw [nullCheckCriterion?, hhead]
  simp only [Option.bind_eq_bind, Option.bind_some, trim_eq_self hfalls.word.2, h.word,
    TermParts.criterion, TermParts.operand, hnone]
  rfl

/-- A comparison is not read by the first pattern. -/
theorem nullCheckCriterion?_eq_none {t : TermParts} (h : t.Spells operator)
    {v : List Char × List Char} (hsome : t.value? = some v) (htext : t.text = s) :
    nullCheckCriterion? s = none := by
  cases hread : nullCheckCriterion? s with
  | none => rfl
  | some c =>
    obtain ⟨⟨property, word⟩, hway, -⟩ := Option.bind_eq_some_iff.1 hread
    obtain ⟨gap, hfalls, -⟩ := mem_nullCheckMatches_iff.1 (List.mem_of_mem_head? hway)
    have hbehind := (hfalls.unique (htext ▸ h.fallsInto)).2.2.2
    rw [TermParts.behind, hsome] at hbehind
    exact absurd (List.append_eq_nil_iff.1 hbehind.symm).1 (h.value v hsome).1.1

/-- A comparison is read by the second pattern. -/
theorem valueCriterion?_eq {t : TermParts} (h : t.Spells operator) {v : List Char × List Char}
    (hsome : t.value? = some v) (htext : t.text = s) :
    valueCriterion? s = some (t.criterion operator) := by
  obtain ⟨hgap, hne⟩ := h.value v hsome
  have hfalls : FallsInto s t.property t.gap t.word (v.1 ++ v.2) := by
    have := h.fallsInto
    rwa [htext, TermParts.behind, hsome] at this
  have hmatch : IsMatch false t.word := by
    rw [isMatch_iff_of_names (names_of_ofToken? h.word), h.isNullCheck, hsome]
    rfl
  have hmem := mem_valueMatches_iff.2 ⟨t.gap, v.1, hfalls, hmatch, hgap, hne⟩
  obtain ⟨⟨property, word, value⟩, hhead⟩ :=
    Option.isSome_iff_exists.1 (List.isSome_head?.2 (List.ne_nil_of_mem hmem))
  -- the first way may part the blanks from the value elsewhere, which its operand does not show
  obtain ⟨gap, gap', hfalls', -, hgap', -⟩ :=
    mem_valueMatches_iff.1 (List.mem_of_mem_head? hhead)
  obtain ⟨rfl, -, rfl, hbehind⟩ := hfalls'.unique hfalls
  have hoperand : operand value = operand v.2 := by
    rw [← operand_append hgap'.2, hbehind, operand_append hgap.2]
  rw [valueCriterion?, hhead]
  simp only [Option.bind_eq_bind, Option.bind_some, trim_eq_self hfalls.word.2, h.word,
    TermParts.criterion, TermParts.operand, hsome, hoperand]
  rfl

/-- The reading by patterns follows the grammar. -/
theorem readByPatterns_eq (text : List Char) : readByPatterns text = criterion? text := by
  refine Option.ext fun c => ?_
  constructor
  · intro h
    rw [readByPatterns, Option.or_eq_some_iff] at h
    refine criterion?_eq_some_iff.2 ?_
    rcases h with h | ⟨-, h⟩
    · exact exists_of_nullCheckCriterion? h
    · exact exists_of_valueCriterion? h
  · intro h
    obtain ⟨t, operator, ht, htext, rfl⟩ := criterion?_eq_some_iff.1 h
    rw [readByPatterns, Option.or_eq_some_iff]
    cases hvalue : t.value? with
    | none => exact .inl (nullCheckCriterion?_eq ht hvalue htext)
    | some v =>
      exact .inr ⟨nullCheckCriterion?_eq_none ht hvalue htext, valueCriterion?_eq ht hvalue htext⟩

/-! ## The grammar -/

/-- A term is read as a criterion if and only if it falls, without the blanks at its ends, into
a property, a gap and the word of a null check, or into a property, a gap, another word of the
table, a second gap and a value; the criterion has that property, the operator of the word and the
operand of the value. All ways to fall into such parts agree up to blanks in front of the value, and
one of them has none there. The patterns read the same. -/
theorem criterion?_grammar (text : List Char) :
    (∀ c, criterion? text = some c ↔ ∃ t : TermParts, ∃ operator, t.Spells operator ∧
      t.text = trim text ∧ t.criterion operator = c) ∧
    (∀ (t u : TermParts) (operator operator' : Operator), t.Spells operator → u.Spells operator' →
      t.text = trim text → u.text = trim text → operator = operator' ∧ t.property = u.property ∧
        t.gap = u.gap ∧ t.word = u.word ∧ t.behind = u.behind ∧ t.operand = u.operand) ∧
    ((criterion? text).isSome → ∃! t : TermParts, t.IsTight ∧ t.text = trim text ∧
      ∃ operator, t.Spells operator) ∧
    readByPatterns text = criterion? text := by
  refine ⟨fun c => criterion?_eq_some_iff, ?_, fun hsome => ?_, readByPatterns_eq text⟩
  · intro t u operator operator' ht hu htext hutext
    obtain ⟨hproperty, hgap, hword, hbehind⟩ := ht.unique hu (htext.trans hutext.symm)
    have hcriterion :=
      Option.some.inj ((ht.criterion?_eq htext).symm.trans (hu.criterion?_eq hutext))
    exact ⟨congrArg Criterion.operator hcriterion, hproperty, hgap, hword, hbehind,
      congrArg Criterion.operand hcriterion⟩
  · obtain ⟨c, hc⟩ := Option.isSome_iff_exists.1 hsome
    obtain ⟨t, operator, ht, htight, htext, -⟩ := exists_spells hc
    refine ⟨t, ⟨htight, htext, operator, ht⟩, ?_⟩
    rintro u ⟨hutight, hutext, operator', hu⟩
    exact hu.eq_of_isTight ht (hutext.trans htext.symm) hutight htight

/-- Two spaces stand in front of the value, and both belong to the gap. -/
example : criterion? "name eq  'a'".toList = some ⟨"name", .equals, .text "a", .none⟩ := by
  decide +kernel

end RecordQuery.Filter
