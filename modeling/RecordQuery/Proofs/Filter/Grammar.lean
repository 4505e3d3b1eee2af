import Mathlib.Data.List.DropRight
import RecordQuery.Proofs.Filter.Written
import RecordQuery.Proofs.Text.Lower

/-!
# The grammar of terms

A term is a property, blanks and the word of a null check, or a property, blanks, another word of
the table, blanks and a value (`TermParts.Spells`). A text falls into such parts in one way at most,
up to blanks in front of the value (`FallsInto.unique`), and it is read as a criterion exactly if it
does (`criterion?_eq_some_iff`).
-/

namespace RecordQuery

open Text

/-! ## Words of the table -/

/-- The words of the table are ASCII letters without k. -/
theorem Operator.forall_tokens : ∀ entry ∈ tokens, entry.1.toList ≠ [] ∧
    ∀ c ∈ entry.1.toList, c.isLower = true ∧ c.toNat < 0x80 ∧ c ≠ 'k' := by
  have hall : (tokens.all fun entry => entry.1.toList ≠ [] ∧
      (entry.1.toList.all fun c => c.isLower ∧ c.toNat < 0x80 ∧ c ≠ 'k') = true) = true := by
    decide
  intro entry hentry
  have h := of_decide_eq_true (List.all_eq_true.1 hall entry hentry)
  exact ⟨h.1, fun c hc => of_decide_eq_true (List.all_eq_true.1 h.2 c hc)⟩

/-- A word names an operator by its lower case exactly if it does by the small forms of its
letters. -/
theorem Operator.ofToken?_lower (w : List Char) :
    ofToken? (lower w) = ofToken? (w.map Char.toLower) := by
  have hentry : ∀ entry ∈ tokens, (entry.1.toList = lower w ↔
      entry.1.toList = w.map Char.toLower) := fun entry hentry => by
    rw [eq_comm, lower_eq_iff fun c hc => ((forall_tokens entry hentry).2 c hc).2, eq_comm]
  have hfind : tokens.find? (fun entry => entry.1.toList = lower w) =
      tokens.find? fun entry => entry.1.toList = w.map Char.toLower :=
    List.find?_congr fun entry h => decide_eq_decide.2 (hentry entry h)
  rw [ofToken?, ofToken?, hfind]

namespace Filter

/-! ## Runs -/

variable {p : Char → Bool} {s a b : List Char}

/-- A run is taken off the front of a text as far as it goes. -/
theorem takeRun?_eq_some_iff : takeRun? p s = some (a, b) ↔
    s = a ++ b ∧ a ≠ [] ∧ (∀ c ∈ a, p c = true) ∧ ∀ c ∈ b.head?, p c = false := by
  constructor
  · intro h
    rw [takeRun?] at h
    split at h
    · cases h
    · next hne =>
      cases h
      refine ⟨List.takeWhile_append_dropWhile.symm, by simpa using hne,
        fun c hc => List.mem_takeWhile_imp hc, fun c hc => ?_⟩
      have := List.head?_dropWhile_not p s
      rw [hc] at this
      simpa using this
  · rintro ⟨rfl, hne, ha, hb⟩
    exact takeRun?_append hne ha hb

/-! ## The parts of a term -/

/-- The text falls into a property, a gap, a word and what stands behind the word: nothing, or
something that begins with a blank. -/
structure FallsInto (s property gap word behind : List Char) : Prop where
  eq_append : s = property ++ (gap ++ (word ++ behind))
  property : property ≠ [] ∧ ∀ c ∈ property, isWord c = true
  gap : IsGap gap
  word : word ≠ [] ∧ ∀ c ∈ word, isBlank c = false
  behind : ∀ c ∈ behind.head?, isBlank c = true

namespace FallsInto

variable {property gap word behind : List Char} (h : FallsInto s property gap word behind)

include h

theorem takeRun?_property : takeRun? isWord s = some (property, gap ++ (word ++ behind)) := by
  refine takeRun?_eq_some_iff.2 ⟨h.eq_append, h.property.1, h.property.2, fun c hc => ?_⟩
  refine isWord_of_isBlank (h.gap.2 c ?_)
  obtain ⟨d, gap, rfl⟩ := List.exists_cons_of_ne_nil h.gap.1
  cases hc
  simp

theorem takeRun?_gap :
    takeRun? isBlank (gap ++ (word ++ behind)) = some (gap, word ++ behind) := by
  refine takeRun?_eq_some_iff.2 ⟨rfl, h.gap.1, h.gap.2, fun c hc => h.word.2 c ?_⟩
  obtain ⟨d, word, rfl⟩ := List.exists_cons_of_ne_nil h.word.1
  cases hc
  simp

theorem takeRun?_word :
    takeRun? (fun c => !isBlank c) (word ++ behind) = some (word, behind) := by
  refine takeRun?_eq_some_iff.2 ⟨rfl, h.word.1, fun c hc => ?_, fun c hc => ?_⟩
  · rw [h.word.2 c hc]
    rfl
  · rw [h.behind c hc]
    rfl

/-- A text falls into parts in one way. -/
theorem unique {property' gap' word' behind' : List Char}
    (h' : FallsInto s property' gap' word' behind') :
    property = property' ∧ gap = gap' ∧ word = word' ∧ behind = behind' := by
  obtain ⟨rfl, hrest⟩ := Prod.mk.inj
    (Option.some.inj (h.takeRun?_property.symm.trans h'.takeRun?_property))
  have hgap := h'.takeRun?_gap
  rw [← hrest, h.takeRun?_gap] at hgap
  obtain ⟨rfl, hbehind⟩ := Prod.mk.inj (Option.some.inj hgap)
  have hword := h'.takeRun?_word
  rw [← hbehind, h.takeRun?_word] at hword
  obtain ⟨rfl, rfl⟩ := Prod.mk.inj (Option.some.inj hword)
  exact ⟨rfl, rfl, rfl, rfl⟩

/-- A text with these parts is read as its operation behind the gap. -/
theorem criterion?_eq {text : List Char} (hs : trim text = s) :
    criterion? text = (operation? (word ++ behind)).map fun operation =>
      ⟨String.ofList property, operation.1, operation.2, .none⟩ := by
  rw [criterion?, hs, h.takeRun?_property]
  show (takeRun? isBlank (gap ++ (word ++ behind)) >>= _) = _
  rw [h.takeRun?_gap]
  show (operation? (word ++ behind) >>= _) = _
  cases operation? (word ++ behind) <;> rfl

end FallsInto

/-- A term taken apart: a property, a gap and a word, and behind the word perhaps a second gap and a
value. -/
structure TermParts where
  /-- The property. -/
  property : List Char
  /-- The blanks behind the property. -/
  gap : List Char
  /-- The word of the operator. -/
  word : List Char
  /-- The blanks behind the word and the value, if there is one. -/
  value? : Option (List Char × List Char)

namespace TermParts

/-- What stands behind the word. -/
def behind (t : TermParts) : List Char := (t.value?.map fun v => v.1 ++ v.2).getD []

/-- The text of the parts. -/
def text (t : TermParts) : List Char := t.property ++ (t.gap ++ (t.word ++ t.behind))

/-- The operand that the value stands for. -/
def operand (t : TermParts) : Operand := (t.value?.map fun v => Filter.operand v.2).getD .absent

/-- The criterion of the property and the operand, with an operator. -/
def criterion (t : TermParts) (operator : Operator) : Criterion :=
  ⟨String.ofList t.property, operator, t.operand, .none⟩

/-- The parts are those of a term with the operator: the lower case of the word names it in the
table, and there is a value unless it is a null check. -/
structure Spells (t : TermParts) (operator : Operator) : Prop where
  property : t.property ≠ [] ∧ ∀ c ∈ t.property, isWord c = true
  gap : IsGap t.gap
  word : Operator.ofToken? (lower t.word) = some operator
  isNullCheck : operator.isNullCheck = t.value?.isNone
  value : ∀ v ∈ t.value?, IsGap v.1 ∧ v.2 ≠ []

/-- All blanks behind the word belong to the gap. -/
def IsTight (t : TermParts) : Prop := ∀ v ∈ t.value?, ∀ c ∈ v.2.head?, isBlank c = false

end TermParts

/-! ## Reading a term -/

/-- A word that is looked up in the table names the operator. -/
theorem names_of_ofToken? {w : List Char} {operator : Operator}
    (h : Operator.ofToken? (lower w) = some operator) : Names w operator := by
  rw [Operator.ofToken?_lower] at h
  obtain ⟨entry, hentry, rfl⟩ := Option.map_eq_some_iff.1 h
  have hword := List.find?_some hentry
  rw [decide_eq_true_eq] at hword
  exact ⟨entry, List.mem_of_find?_eq_some hentry, rfl, hword.symm⟩

/-- Blanks in front of a value are no part of its operand. -/
theorem operand_append {gap : List Char} (hgap : ∀ c ∈ gap, isBlank c = true) (value : List Char) :
    operand (gap ++ value) = operand value := by
  have htrim : trim (gap ++ value) = trim value := by
    rw [trim, trim, trimBy, trimBy, List.dropWhile_append_of_pos hgap]
  rw [operand, operand, htrim]

theorem operand_dropWhile (s : List Char) : operand (s.dropWhile isBlank) = operand s := by
  rw [← operand_append (fun c hc => List.mem_takeWhile_imp hc) (s.dropWhile isBlank),
    List.takeWhile_append_dropWhile]

/-- Blanks in front of a text that does not end with one belong to the gap before it. -/
theorem takeRun?_gap_append {g : List Char} (hg : IsGap g) (s : List Char) :
    takeRun? isBlank (g ++ s) = some (g ++ s.takeWhile isBlank, s.dropWhile isBlank) := by
  refine takeRun?_eq_some_iff.2 ⟨?_, ?_, fun c hc => ?_, fun c hc => ?_⟩
  · rw [List.append_assoc, List.takeWhile_append_dropWhile]
  · exact fun hnil => hg.1 (List.append_eq_nil_iff.1 hnil).1
  · exact (List.mem_append.1 hc).elim (hg.2 c) List.mem_takeWhile_imp
  · have := List.head?_dropWhile_not isBlank s
    rw [hc] at this
    simpa using this

namespace TermParts.Spells

variable {t : TermParts} {operator : Operator} (h : t.Spells operator)

include h

/-- The text of a term falls into its parts. -/
theorem fallsInto : FallsInto t.text t.property t.gap t.word t.behind where
  eq_append := rfl
  property := h.property
  gap := h.gap
  word := ⟨(names_of_ofToken? h.word).ne_nil, (names_of_ofToken? h.word).isBlank⟩
  behind c hc := by
    rw [behind] at hc
    cases hvalue : t.value? with
    | none =>
      rw [hvalue] at hc
      cases hc
    | some v =>
      rw [hvalue] at hc
      have hedge := (h.value v hvalue).1.isEdge v.2
      rw [show (v.1 ++ v.2).head? = some c from hc] at hedge
      exact hedge

/-- The operation of a term is read, if the term does not end with a blank. -/
theorem operation?_eq (hlast : ∀ c ∈ t.text.getLast?, isBlank c = false) :
    operation? (t.word ++ t.behind) = some (operator, t.operand) := by
  have hword : Operator.ofToken? (t.word.map Char.toLower) = some operator := by
    rw [← Operator.ofToken?_lower, h.word]
  rw [operation?, h.fallsInto.takeRun?_word]
  simp only [Option.bind_eq_bind, Option.bind_some, hword, h.isNullCheck, behind, operand]
  cases hvalue : t.value? with
  | none => rfl
  | some v =>
    obtain ⟨hgap, hne⟩ := h.value v hvalue
    have hend : v.2.dropWhile isBlank ≠ [] := by
      intro hblank
      have hmem := List.dropWhile_eq_nil_iff.1 hblank _ (List.getLast_mem hne)
      have hlast' : t.text.getLast? = some (v.2.getLast hne) := by
        simp [text, behind, hvalue, List.getLast?_append, List.getLast?_eq_some_getLast hne]
      rw [hlast _ hlast'] at hmem
      cases hmem
    simp [takeRun?_gap_append hgap, hend, operand_dropWhile]

/-- A text of these parts is read as their criterion. -/
theorem criterion?_eq {text : List Char} (htext : t.text = trim text) :
    criterion? text = some (t.criterion operator) := by
  have hlast : ∀ c ∈ t.text.getLast?, isBlank c = false := htext ▸ getLast?_trimEndBy
  rw [h.fallsInto.criterion?_eq htext.symm, h.operation?_eq hlast]
  rfl

end TermParts.Spells

/-- What is read as an operation is a word of the table, and behind the word of an operator other
than a null check a gap and a value. -/
theorem exists_of_operation? {s : List Char} {operator : Operator} {o : Operand}
    (h : operation? s = some (operator, o)) (property gap : List Char) :
    ∃ t : TermParts, t.property = property ∧ t.gap = gap ∧ s = t.word ++ t.behind ∧
      Operator.ofToken? (lower t.word) = some operator ∧
      operator.isNullCheck = t.value?.isNone ∧ (∀ v ∈ t.value?, IsGap v.1 ∧ v.2 ≠ []) ∧
      t.IsTight ∧ t.operand = o := by
  obtain ⟨⟨word, behind⟩, hword, hrest⟩ := Option.bind_eq_some_iff.1 h
  obtain ⟨operator', hoperator, hread⟩ := Option.bind_eq_some_iff.1 hrest
  obtain ⟨rfl, -, -, -⟩ := takeRun?_eq_some_iff.1 hword
  rw [← Operator.ofToken?_lower] at hoperator
  split at hread
  · next hcheck =>
    split at hread
    · next hnil =>
      cases hread
      obtain rfl : behind = [] := by simpa using hnil
      exact ⟨⟨property, gap, word, none⟩, rfl, rfl, rfl, hoperator, hcheck, nofun, nofun, rfl⟩
    · cases hread
  · next hcheck =>
    obtain ⟨⟨gap', value⟩, hbehind, hvalue'⟩ := Option.bind_eq_some_iff.1 hread
    obtain ⟨rfl, hne, hblank, hvalue⟩ := takeRun?_eq_some_iff.1 hbehind
    dsimp only at hvalue'
    split at hvalue'
    · cases hvalue'
    · next hnil =>
      cases hvalue'
      refine ⟨⟨property, gap, word, some (gap', value)⟩, rfl, rfl, rfl, hoperator, ?_, ?_, ?_, rfl⟩
      · simpa using hcheck
      · rintro v ⟨⟩
        exact ⟨⟨hne, hblank⟩, by simpa using hnil⟩
      · rintro v ⟨⟩
        exact hvalue

/-- What is read as a criterion falls into the parts of a term. -/
theorem exists_spells {text : List Char} {c : Criterion} (h : criterion? text = some c) :
    ∃ t : TermParts, ∃ operator, t.Spells operator ∧ t.IsTight ∧ t.text = trim text ∧
      t.criterion operator = c := by
  obtain ⟨⟨property, rest⟩, hproperty, h⟩ := Option.bind_eq_some_iff.1 h
  obtain ⟨⟨gap, rest'⟩, hgap, h⟩ := Option.bind_eq_some_iff.1 h
  obtain ⟨⟨operator, o⟩, hoperation, h⟩ := Option.bind_eq_some_iff.1 h
  obtain ⟨htext, hne, hisWord, -⟩ := takeRun?_eq_some_iff.1 hproperty
  obtain ⟨rfl, hne', hisBlank, -⟩ := takeRun?_eq_some_iff.1 hgap
  obtain ⟨t, rfl, rfl, rfl, hword, hcheck, hvalue, htight, rfl⟩ :=
    exists_of_operation? hoperation property gap
  cases h
  exact ⟨t, operator, ⟨⟨hne, hisWord⟩, ⟨hne', hisBlank⟩, hword, hcheck, hvalue⟩, htight,
    htext.symm, rfl⟩

/-- A text is read as a criterion if and only if it falls, without the blanks at its ends, into the
parts of a term with that criterion. -/
theorem criterion?_eq_some_iff {text : List Char} {c : Criterion} : criterion? text = some c ↔
    ∃ t : TermParts, ∃ operator, t.Spells operator ∧ t.text = trim text ∧
      t.criterion operator = c := by
  constructor
  · intro h
    obtain ⟨t, operator, hspells, -, htext, hc⟩ := exists_spells h
    exact ⟨t, operator, hspells, htext, hc⟩
  · rintro ⟨t, operator, hspells, htext, rfl⟩
    exact hspells.criterion?_eq htext

/-- Two terms of one text have the same property, gap and word, and the same text behind the
word. -/
theorem TermParts.Spells.unique {t u : TermParts} {operator operator' : Operator}
    (ht : t.Spells operator) (hu : u.Spells operator') (htext : t.text = u.text) :
    t.property = u.property ∧ t.gap = u.gap ∧ t.word = u.word ∧ t.behind = u.behind := by
  have h := ht.fallsInto
  rw [htext] at h
  exact h.unique hu.fallsInto

/-- A text is a term in one way if all blanks in front of the value belong to the gap. -/
theorem TermParts.Spells.eq_of_isTight {t u : TermParts} {operator operator' : Operator}
    (ht : t.Spells operator) (hu : u.Spells operator') (htext : t.text = u.text)
    (htight : t.IsTight) (hutight : u.IsTight) : t = u := by
  obtain ⟨hproperty, hgap, hword, hbehind⟩ := ht.unique hu htext
  obtain ⟨property, gap, word, value?⟩ := t
  obtain ⟨property', gap', word', value?'⟩ := u
  obtain rfl : property = property' := hproperty
  obtain rfl : gap = gap' := hgap
  obtain rfl : word = word' := hword
  refine congrArg _ ?_
  cases value? with
  | none =>
    cases value?' with
    | none => rfl
    | some v =>
      have hnil : v.1 ++ v.2 = [] := hbehind.symm
      exact absurd (List.append_eq_nil_iff.1 hnil).1 (hu.value v rfl).1.1
  | some v =>
    have hrun := (ht.value v rfl).1.takeRun? (htight v rfl)
    cases value?' with
    | none =>
      have hnil : v.1 ++ v.2 = [] := hbehind
      exact absurd (List.append_eq_nil_iff.1 hnil).1 (ht.value v rfl).1.1
    | some v' =>
      have hrun' := (hu.value v' rfl).1.takeRun? (hutight v' rfl)
      have happend : v.1 ++ v.2 = v'.1 ++ v'.2 := hbehind
      rw [happend] at hrun
      exact hrun.symm.trans hrun'

end Filter

end RecordQuery
