import RecordQuery.Proofs.Source.Agreement
import RecordQuery.Proofs.Text.Like

/-!
# Looking into stored texts

A list in memory and a table decide differently whether a text holds a word. In memory it has to
stand there as it is (`Condition.holds_textMatch`); a table reads the text up to its first NUL, and
the letters A to Z of both in either case (`Condition.outcome_textMatch`). Neither finds a row
without a text. The pattern that a table looks for stands for the characters of the word alone,
whatever wildcards and slashes these are (`Operator.isMatch_pattern_iff`).
-/

namespace RecordQuery

open Text

/-- The pattern of an operator matches the texts that satisfy the operator when they are read up to
their first NUL and in small letters. -/
theorem Operator.isMatch_pattern {operator : Operator} {word : List Char}
    (hoperator : operator.isTextMatch = true) (hword : '\x00' ∉ word) (s : List Char) :
    Like.isMatch (operator.pattern word) s =
      operator.matchesText (folded (Like.upToNul s)) (folded word) := by
  have hliteral : '\x00' ∉ Like.literal word := Like.nul_notMem_literal hword
  have hpattern : Like.upToNul (operator.pattern word) = operator.pattern word := by
    refine Like.upToNul_eq_self ?_
    cases operator <;> simp [pattern, hliteral]
  rw [Bool.eq_iff_iff, Like.isMatch, hpattern]
  cases operator with
  | contains =>
    rw [pattern, List.cons_append, Like.tokens_percent, Like.tokens_literal_append,
      Like.matchTokens, Like.someEnd_eq_true, matchesText, holds_eq_true, Like.infix_folded_iff]
    simp only [Like.matchTokens_literal, Like.prefix_folded_iff]
    simp only [Like.tokens_percent, Like.tokens_nil, Like.matchTokens_anyText, and_true]
  | startsWith =>
    rw [pattern, Like.tokens_literal_append, Like.matchTokens_literal, matchesText,
      startsWith_eq_true, Like.prefix_folded_iff]
    simp only [Like.tokens_percent, Like.tokens_nil, Like.matchTokens_anyText, and_true]
  | endsWith =>
    rw [pattern, Like.tokens_percent, ← List.append_nil (Like.literal word),
      Like.tokens_literal_append, Like.matchTokens, Like.someEnd_eq_true, matchesText,
      endsWith_eq_true, Like.suffix_folded_iff]
    simp only [Like.matchTokens_literal, Like.tokens_nil, Like.matchTokens, List.isEmpty_iff]
    -- nothing may follow the literal
    constructor
    · rintro ⟨-, ht, t, -, rfl, hfolded, rfl⟩
      exact ⟨t, by rwa [List.append_nil] at ht, hfolded⟩
    · rintro ⟨t, ht, hfolded⟩
      exact ⟨t, ht, t, [], (List.append_nil t).symm, hfolded, rfl⟩
  | _ => cases hoperator

/-- Every character of a word stands for itself in the pattern of an operator: none of them is a
wildcard, and the slashes in front of those that could be one are no characters of the word. So the
patterns match the texts that, in small letters, hold the word, begin with it and end with it. -/
theorem Operator.isMatch_pattern_iff {word s : List Char} (hword : '\x00' ∉ word)
    (hs : '\x00' ∉ s) :
    Like.literal word = Like.escaping '_' (Like.escaping '%' (Like.escaping '/' word)) ∧
      Like.tokens (Like.literal word) = word.map .exactly ∧
      (Like.isMatch (contains.pattern word) s = true ↔ folded word <:+: folded s) ∧
      (Like.isMatch (startsWith.pattern word) s = true ↔ folded word <+: folded s) ∧
      (Like.isMatch (endsWith.pattern word) s = true ↔ folded word <:+ folded s) := by
  have htokens : Like.tokens (Like.literal word) = word.map .exactly := by
    rw [← List.append_nil (Like.literal word), Like.tokens_literal_append, Like.tokens_nil,
      List.append_nil]
  have hmatch {operator : Operator} (hoperator : operator.isTextMatch = true) :
      Like.isMatch (operator.pattern word) s =
        operator.matchesText (folded s) (folded word) := by
    rw [isMatch_pattern hoperator hword, Like.upToNul_eq_self hs]
  refine ⟨Like.literal_eq_escaping word, htokens, ?_, ?_, ?_⟩
  · rw [hmatch rfl, matchesText, holds_eq_true]
  · rw [hmatch rfl, matchesText, startsWith_eq_true]
  · rw [hmatch rfl, matchesText, endsWith_eq_true]

/-- A slash in front of both wildcards is found behind a slash of the text, in letters of either
case, and is not found where other characters stand for the wildcards. -/
theorem Operator.isMatch_pattern_slashes :
    let word := ['/', '%', '_', 'a']
    let s := ['x', '/', '/', '%', '_', 'A']
    let other := ['x', '/', '/', 'y', 'z', 'A']
    ('\x00' ∉ word ∧ '\x00' ∉ s ∧ '\x00' ∉ other) ∧
      Like.isMatch (contains.pattern word) s = true ∧
      Like.isMatch (startsWith.pattern word) s = false ∧
      Like.isMatch (endsWith.pattern word) s = true ∧
      Like.isMatch (contains.pattern word) other = false := by
  intro word s other
  have hword : '\x00' ∉ word := by decide
  have hs : '\x00' ∉ s := by decide
  have hother : '\x00' ∉ other := by decide
  obtain ⟨-, -, hcontains, hstarts, hends⟩ := isMatch_pattern_iff hword hs
  refine ⟨⟨hword, hs, hother⟩, hcontains.2 (by decide), ?_, hends.2 (by decide), ?_⟩
  · exact Bool.eq_false_iff.2 fun h => absurd (hstarts.1 h) (by decide)
  · exact Bool.eq_false_iff.2 fun h =>
      absurd ((isMatch_pattern_iff hword hother).2.2.1.1 h) (by decide)

variable {α : Type} [Readable α] {row : α} {rows : List α} {f : Field} {operator : Operator}
  {word : String}

namespace Field

/-- The row holds a text in the column, or no value. -/
def HoldsText (f : Field) (row : α) : Prop :=
  ∃ v, Readable.value? row f.name = some v ∧ (v = .null ∨ ∃ s, v = .text s)

/-- The text that the row holds in the column. -/
def heldText? (f : Field) (row : α) : Option String :=
  (Readable.value? row f.name).bind Value.text?

/-- The text of the row satisfies the operator as it is. -/
def matchesAsIs (f : Field) (operator : Operator) (word : String) (row : α) : Bool :=
  (f.heldText? row).any fun s => operator.matchesText s.toList word.toList

/-- The text of the row satisfies the operator when it is read up to its first NUL and the letters
A to Z are read in either case. -/
def matchesFolded (f : Field) (operator : Operator) (word : String) (row : α) : Bool :=
  (f.heldText? row).any fun s =>
    operator.matchesText (folded (Like.upToNul s.toList)) (folded word.toList)

end Field

namespace Condition

/-- In memory a text is compared as it is. -/
theorem holds_textMatch (hf : f.isColumn = true) (hrow : f.HoldsText row)
    (hoperator : operator.isTextMatch = true) :
    (compare f operator (.text word)).holds row = .ok (f.matchesAsIs operator word row) := by
  obtain ⟨v, hv, hkind⟩ := hrow
  have hread : f.read row = .ok v := Field.read_of_isColumn hf hv
  have htext : (compare f operator (.text word)).holds row =
      Comparison.textHolds operator v (.text word) := by
    cases operator with
    | contains | startsWith | endsWith =>
      simp only [holds, Comparison.holds, hread, bind, Except.bind]
    | _ => cases hoperator
  rw [htext, Field.matchesAsIs, Field.heldText?, hv]
  rcases hkind with rfl | ⟨s, rfl⟩
  · rfl
  · rfl

/-- In a table a text is read up to its first NUL and in letters of either case. -/
theorem outcome_textMatch (hrow : f.HoldsText row) (hoperator : operator.isTextMatch = true)
    (hword : '\x00' ∉ word.toList) :
    decide ((compare f operator (.text word)).outcome row = some true) =
      f.matchesFolded operator word row := by
  obtain ⟨v, hv, hkind⟩ := hrow
  have hcell : (compare f operator (.text word)).outcome row =
      v.stored.ifSome (v.stored.matchesText operator (.text word.toList)) := by
    rw [outcome, Field.cell_eq hv]
    cases operator with
    | contains | startsWith | endsWith => rfl
    | _ => cases hoperator
  rw [hcell, Field.matchesFolded, Field.heldText?, hv]
  rcases hkind with rfl | ⟨s, rfl⟩
  · rfl
  · show decide (some (Like.isMatch (operator.pattern word.toList) s.toList) = some true) = _
    rw [Operator.isMatch_pattern hoperator hword]
    simp [Value.text?]

end Condition

namespace TableSource

variable {schema : Schema} {selection : Selection}

/-- By a criterion that looks into texts, a table selects the rows whose texts satisfy it in letters
of either case, and a list of the same rows those whose texts satisfy it as they are. -/
theorem select_textMatch (hf : f.isColumn = true) (hrows : ∀ row ∈ rows, f.HoldsText row)
    (hoperator : operator.isTextMatch = true) (hword : '\x00' ∉ word.toList)
    (hcondition : selection.condition = .compare f operator (.text word)) :
    rows.filterM selection.selects = .ok (rows.filter (f.matchesAsIs operator word)) ∧
      ∃ t, (ofRows schema rows).select selection = .ok t ∧
        t.all = .ok (rows.filter (f.matchesFolded operator word)) ∧
        t.count = .ok (rows.filter (f.matchesFolded operator word)).length := by
  have hstored : f.stored = true := by
    simp only [Field.isColumn, Bool.and_eq_true] at hf
    exact hf.1.1
  have hselect : (ofRows schema rows).select selection =
      .ok ⟨schema, rows, .and (.const true) selection.condition, []⟩ := by
    have hclause : selection.condition.clauseFailure? = none := by
      rw [hcondition, Condition.clauseFailure?, if_pos hstored]
      cases operator with
      | contains | startsWith | endsWith => rfl
      | _ => cases hoperator
    rw [select, hclause]
    rfl
  have hfilter : rows.filter (fun row =>
        decide ((Condition.and (.const true) selection.condition).outcome row = some true)) =
      rows.filter (f.matchesFolded operator word) := by
    refine List.filter_congr fun row hrow => ?_
    rw [Condition.outcome, Condition.outcome, bothOutcomes_true_left, hcondition]
    exact Condition.outcome_textMatch (hrows row hrow) hoperator hword
  have hliterals : ∀ v ∈ (Condition.and (.const true) selection.condition).literals,
      v.fitsWord = true := by
    intro v hv
    rw [hcondition] at hv
    rw [List.mem_singleton.1 hv]
    rfl
  refine ⟨filterM_ok fun row hrow => ?_, _, hselect, ?_, ?_⟩
  · rw [Selection.selects, hcondition]
    exact Condition.holds_textMatch hf (hrows row hrow) hoperator
  · rw [all_eq rfl hliterals, hfilter]
  · rw [count_eq hliterals, hfilter]

end TableSource

end RecordQuery
