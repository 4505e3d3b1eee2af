import RecordQuery.Filter.Term
import RecordQuery.Proofs.Filter.Mark

/-!
# Written criteria

The texts that write a criterion. `TermWritten` relates a criterion to every text that spells it: a
property, blanks, a word of the operator in letters of either case and, unless the operator is
a null check, blanks and a value. A value is a text between quotes that enclose it, or a list of
items between quotes, with commas and any number of spaces between them, in parentheses.

`criterion?_of_termWritten`: whichever of these texts is read, the criterion is read back, up to the
connective, which is no part of a term.
-/

namespace RecordQuery.Filter

open Text

/-! ## Spelling -/

/-- Blanks, one or more. -/
def IsGap (s : List Char) : Prop := s ≠ [] ∧ ∀ c ∈ s, isBlank c = true

instance (s : List Char) : Decidable (IsGap s) :=
  decidable_of_iff (s ≠ [] ∧ s.all isBlank = true) (and_congr_right fun _ => List.all_eq_true)

/-- The name of a property: word characters, one or more, that are no connective. -/
structure IsProperty (s : List Char) : Prop where
  ne_nil : s ≠ []
  isWord : ∀ c ∈ s, isWord c = true
  no_connective : Connective.ofWord? (s.map Char.toLower) = none

instance (s : List Char) : Decidable (IsProperty s) :=
  decidable_of_iff
    (s ≠ [] ∧ s.all isWord = true ∧ Connective.ofWord? (s.map Char.toLower) = none)
    ⟨fun ⟨hnil, hword, hnone⟩ => ⟨hnil, List.all_eq_true.1 hword, hnone⟩,
      fun h => ⟨h.ne_nil, List.all_eq_true.2 h.isWord, h.no_connective⟩⟩

/-- The word names the operator, in letters of either case. -/
def Names (word : List Char) (operator : Operator) : Prop :=
  ∃ entry ∈ Operator.tokens, entry.2 = operator ∧ word.map Char.toLower = entry.1.toList

/-- A text between two quotes of one kind that enclose it. -/
inductive QuotedText : List Char → List Char → Prop
  | intro {q : Char} {s : List Char} : isQuote q = true → Enclosable q s →
      QuotedText s (q :: (s ++ [q]))

/-- An item of a list: no comma in it, and neither a quote nor a space at its ends. -/
structure IsItem (s : List Char) : Prop where
  no_comma : ',' ∉ s
  head : ∀ c ∈ s.head?, isItemPadding c = false
  last : ∀ c ∈ s.getLast?, isItemPadding c = false

instance (s : List Char) : Decidable (IsItem s) :=
  decidable_of_iff
    (',' ∉ s ∧ s.head?.any isItemPadding = false ∧ s.getLast?.any isItemPadding = false)
    ⟨fun ⟨hcomma, hhead, hlast⟩ => ⟨hcomma, by simpa [Option.any_eq_false] using hhead,
      by simpa [Option.any_eq_false] using hlast⟩,
      fun h => ⟨h.no_comma, by simpa [Option.any_eq_false] using h.head,
      by simpa [Option.any_eq_false] using h.last⟩⟩

/-- Items between quotes, with commas and any number of spaces between them. -/
inductive ListedItems : List (List Char) → List Char → Prop
  | one {s x : List Char} : IsItem s → QuotedText s x → ListedItems [s] x
  | cons {s x y : List Char} {items : List (List Char)} (m n : Nat) : IsItem s → QuotedText s x →
      ListedItems items y →
      ListedItems (s :: items) (x ++ List.replicate m ' ' ++ ',' :: (List.replicate n ' ' ++ y))

/-- An operator with its operand, as it stands behind a property. -/
inductive OperationWritten : Operator → Operand → List Char → Prop
  | check {operator : Operator} {w : List Char} : operator.isNullCheck = true → Names w operator →
      OperationWritten operator .absent w
  | text {operator : Operator} {w g s x : List Char} : operator.isNullCheck = false →
      operator ≠ .oneOf → Names w operator → IsGap g → QuotedText s x →
      OperationWritten operator (.text (String.ofList s)) (w ++ (g ++ x))
  | list {w g x : List Char} {items : List (List Char)} : Names w .oneOf → IsGap g →
      ListedItems items x →
      OperationWritten .oneOf (.list (items.map String.ofList)) (w ++ (g ++ '(' :: (x ++ [')'])))

/-- A criterion as a term of a filter. -/
inductive TermWritten : Criterion → List Char → Prop
  | intro {p g x : List Char} {operator : Operator} {operand : Operand} {k : Connective} :
      IsProperty p → IsGap g → OperationWritten operator operand x →
      TermWritten ⟨String.ofList p, operator, operand, k⟩ (p ++ (g ++ x))

/-! ## Ends of the pieces -/

/-- Whatever follows a gap, an edge is in front. -/
theorem IsGap.isEdge {g : List Char} (hg : IsGap g) (t : List Char) :
    isEdge (g ++ t).head? = true := by
  obtain ⟨c, g, rfl⟩ := List.exists_cons_of_ne_nil hg.1
  exact hg.2 c (by simp)

/-- The last character of a gap is a blank. -/
theorem IsGap.getLast? {g : List Char} (hg : IsGap g) :
    ∃ c, g.getLast? = some c ∧ isBlank c = true :=
  ⟨g.getLast hg.1, List.getLast?_eq_some_getLast hg.1, hg.2 _ (List.getLast_mem hg.1)⟩

/-- The characters of the word of an operator are letters. -/
theorem Names.isLower {w : List Char} {operator : Operator} (h : Names w operator) :
    ∀ c ∈ w, c.toLower.isLower = true := by
  intro c hc
  obtain ⟨entry, hentry, -, hw⟩ := h
  have hlower : Operator.tokens.all (fun e => e.1.toList.all Char.isLower) = true := by decide
  exact List.all_eq_true.1 (List.all_eq_true.1 hlower entry hentry) _
    (hw ▸ List.mem_map_of_mem hc)

theorem Names.isBlank {w : List Char} {operator : Operator} (h : Names w operator) :
    ∀ c ∈ w, isBlank c = false :=
  fun c hc => isBlank_of_isLower_toLower (h.isLower c hc)

theorem Names.ne_nil {w : List Char} {operator : Operator} (h : Names w operator) : w ≠ [] := by
  rintro rfl
  obtain ⟨entry, hentry, -, hw⟩ := h
  have hne : ∀ e ∈ Operator.tokens, e.1.toList ≠ [] := by decide
  exact hne entry hentry hw.symm

/-- The word of an operator is no connective. -/
theorem Names.no_connective {w : List Char} {operator : Operator} (h : Names w operator) :
    Connective.ofWord? (w.map Char.toLower) = none := by
  obtain ⟨entry, hentry, -, hw⟩ := h
  have hnone : ∀ e ∈ Operator.tokens, Connective.ofWord? e.1.toList = none := by decide
  rw [hw, hnone entry hentry]

/-- The word of an operator is looked up to it. -/
theorem Names.ofToken? {w : List Char} {operator : Operator} (h : Names w operator) :
    Operator.ofToken? (w.map Char.toLower) = some operator := by
  obtain ⟨entry, hentry, rfl, hw⟩ := h
  have hfind : ∀ e ∈ Operator.tokens, Operator.ofToken? e.1.toList = some e.2 := by decide
  rw [hw, hfind entry hentry]

/-! ## Reading a value -/

theorem isQuote_cases {q : Char} (hq : isQuote q = true) : q = '\x27' ∨ q = '\x22' := by
  simpa [isQuote] using hq

/-- A quote is no parenthesis. -/
theorem isParenthesis_of_isQuote {q : Char} (hq : isQuote q = true) : isParenthesis q = false := by
  rcases isQuote_cases hq with rfl | rfl <;> decide

/-- A text between quotes begins and ends with a quote. -/
theorem QuotedText.ends {s x : List Char} (h : QuotedText s x) :
    ∃ q, isQuote q = true ∧ x.head? = some q ∧ x.getLast? = some q := by
  cases h with
  | @intro q _ hq _ => exact ⟨q, hq, by simp, by simp [List.getLast?_cons]⟩

/-- A list of quoted items begins and ends with a quote. -/
theorem ListedItems.ends {items : List (List Char)} {x : List Char} (h : ListedItems items x) :
    (∃ q, isQuote q = true ∧ x.head? = some q) ∧ ∃ q, isQuote q = true ∧ x.getLast? = some q := by
  induction h with
  | one _ hx =>
    obtain ⟨q, hq, hhead, hlast⟩ := hx.ends
    exact ⟨⟨q, hq, hhead⟩, q, hq, hlast⟩
  | cons m n _ hx _ ih =>
    obtain ⟨q, hq, hhead, -⟩ := hx.ends
    obtain ⟨-, r, hr, hlast⟩ := ih
    exact ⟨⟨q, hq, by simp [hhead]⟩, r, hr, by simp [hlast, List.getLast?_cons]⟩

/-- A text between quotes is read as the text. -/
theorem operand_of_quotedText {s x : List Char} (h : QuotedText s x) :
    operand x = .text (String.ofList s) := by
  cases h with
  | @intro q _ hq _ =>
    have htrim : trim (q :: (s ++ [q])) = q :: (s ++ [q]) :=
      trimBy_eq_self (by simp [isBlank_of_isQuote hq])
        (by simp [List.getLast?_cons, isBlank_of_isQuote hq])
    have hparen : isParenthesized (q :: (s ++ [q])) = false := by
      rcases isQuote_cases hq with rfl | rfl <;> simp [isParenthesized]
    simp [operand, htrim, hparen, unquoted?, hq, List.getLast?_cons]

/-- A quoted item with spaces around it is trimmed to the item. -/
theorem trimBy_quotedText {s x : List Char} (hs : IsItem s) (hx : QuotedText s x) (m n : Nat) :
    trimBy isItemPadding (List.replicate n ' ' ++ x ++ List.replicate m ' ') = s := by
  cases hx with
  | @intro q _ hq _ =>
    have hspace (k : Nat) : ∀ c ∈ List.replicate k ' ', isItemPadding c = true := by
      intro c hc
      rw [List.eq_of_mem_replicate hc]
      decide
    have hquote : ∀ c ∈ [q], isItemPadding c = true := by simp [isItemPadding, hq]
    rw [trimBy_append (hspace n) (hspace m), ← List.singleton_append, ← List.append_assoc,
      trimBy_append hquote hquote, trimBy_eq_self hs.head hs.last]

/-- A quoted item with spaces around it holds no comma. -/
theorem comma_notMem_quotedText {s x : List Char} (hs : IsItem s) (hx : QuotedText s x)
    (m n : Nat) : ',' ∉ List.replicate n ' ' ++ x ++ List.replicate m ' ' := by
  have hspace (k : Nat) : ',' ∉ List.replicate k ' ' := fun h => by
    simpa using List.eq_of_mem_replicate h
  cases hx with
  | @intro q _ hq _ =>
    have hne : ',' ≠ q := by rcases isQuote_cases hq with rfl | rfl <;> decide
    simp [hspace, hs.no_comma, hne]

/-- Between the commas of a list stand its items, spaces and quotes aside. -/
theorem splitOn_of_listedItems {ss : List (List Char)} {x : List Char} (h : ListedItems ss x)
    (n : Nat) :
    ((List.replicate n ' ' ++ x).splitOn ',').map (trimBy isItemPadding) = ss := by
  induction h generalizing n with
  | one hs hx =>
    have hcomma := comma_notMem_quotedText hs hx 0 n
    have htrim := trimBy_quotedText hs hx 0 n
    simp only [List.replicate_zero, List.append_nil] at hcomma htrim
    rw [List.splitOn_eq_singleton hcomma, List.map_singleton, htrim]
  | cons m k hs hx _ ih =>
    rw [← List.append_assoc, ← List.append_assoc,
      List.splitOn_append_cons_self_of_not_mem (comma_notMem_quotedText hs hx m n), List.map_cons,
      ih, trimBy_quotedText hs hx]

/-- The items of a list are read back. -/
theorem items_of_listedItems {ss : List (List Char)} {x : List Char} (h : ListedItems ss x) :
    items x = ss.map String.ofList := by
  obtain ⟨⟨q, hq, hhead⟩, -⟩ := h.ends
  obtain ⟨y, rfl⟩ := List.head?_eq_some_iff.1 hhead
  have hblank : allBlank (q :: y) = false := by simp [allBlank, isBlank_of_isQuote hq]
  have hsplit := splitOn_of_listedItems h 0
  rw [items, if_neg (by simp [hblank]), ← hsplit, List.map_map]
  rfl

/-- A text in parentheses that neither begins nor ends with one is read as its items. -/
theorem operand_of_parenthesized {x : List Char} (hhead : ∀ c ∈ x.head?, isParenthesis c = false)
    (hlast : ∀ c ∈ x.getLast?, isParenthesis c = false) :
    operand ('(' :: (x ++ [')'])) = .list (items x) := by
  have htrim : trim ('(' :: (x ++ [')'])) = '(' :: (x ++ [')']) :=
    trimBy_eq_self (by simp; decide) (by simp [List.getLast?_cons]; decide)
  have hparens : trimBy isParenthesis ('(' :: (x ++ [')'])) = x := by
    rw [← List.singleton_append, ← List.append_assoc,
      trimBy_append (by simp; decide) (by simp; decide)]
    exact trimBy_eq_self hhead hlast
  have hin : isParenthesized ('(' :: (x ++ [')'])) = true := by
    simp [isParenthesized, List.getLast?_cons]
  rw [operand, htrim, if_pos hin, hparens]

/-- A list in parentheses is read as its items. -/
theorem operand_of_listedItems {ss : List (List Char)} {x : List Char} (h : ListedItems ss x) :
    operand ('(' :: (x ++ [')'])) = .list (ss.map String.ofList) := by
  obtain ⟨⟨q, hq, hhead⟩, r, hr, hlast⟩ := h.ends
  rw [operand_of_parenthesized (by simp [hhead, isParenthesis_of_isQuote hq])
    (by simp [hlast, isParenthesis_of_isQuote hr]), items_of_listedItems h]

/-! ## Reading a term -/

/-- A run of characters of the class ends before a character of another class. -/
theorem takeRun?_append {p : Char → Bool} {s t : List Char} (hne : s ≠ [])
    (hs : ∀ c ∈ s, p c = true) (ht : ∀ c ∈ t.head?, p c = false) :
    takeRun? p (s ++ t) = some (s, t) := by
  have htake : t.takeWhile p = [] := by
    cases t with
    | nil => rfl
    | cons c t => rw [List.takeWhile_cons_of_neg (by simp [ht c (by simp)])]
  rw [takeRun?, List.takeWhile_append_of_pos hs, List.dropWhile_append_of_pos hs, htake,
    dropWhile_eq_self ht, List.append_nil, if_neg (by simpa using hne)]

/-- A gap ends before a character that is no blank. -/
theorem IsGap.takeRun? {g t : List Char} (hg : IsGap g) (ht : ∀ c ∈ t.head?, isBlank c = false) :
    takeRun? isBlank (g ++ t) = some (g, t) := takeRun?_append hg.1 hg.2 ht

/-- What is written of an operation begins and ends with a character that is no blank. -/
theorem OperationWritten.ends {operator : Operator} {o : Operand} {x : List Char}
    (h : OperationWritten operator o x) :
    (∃ a, x.head? = some a ∧ isBlank a = false) ∧
      ∃ b, x.getLast? = some b ∧ isBlank b = false := by
  have hhead {w y : List Char} (hw : Names w operator) :
      ∃ a, (w ++ y).head? = some a ∧ isBlank a = false := by
    obtain ⟨a, w, rfl⟩ := List.exists_cons_of_ne_nil hw.ne_nil
    exact ⟨a, rfl, hw.isBlank a (by simp)⟩
  cases h with
  | check _ hw =>
    exact ⟨by simpa using hhead (y := []) hw, x.getLast hw.ne_nil,
      List.getLast?_eq_some_getLast hw.ne_nil, hw.isBlank _ (List.getLast_mem hw.ne_nil)⟩
  | text _ _ hw _ hx =>
    obtain ⟨q, hq, -, hlast⟩ := hx.ends
    exact ⟨hhead hw, q, by simp [List.getLast?_append, hlast], isBlank_of_isQuote hq⟩
  | list hw => exact ⟨hhead hw, ')', by simp [List.getLast?_append, List.getLast?_cons], by decide⟩

/-- The operator and the operand of an operation are read back. -/
theorem operation?_of_operationWritten {operator : Operator} {o : Operand} {x : List Char}
    (h : OperationWritten operator o x) : operation? x = some (operator, o) := by
  have hword {w t : List Char} (hw : Names w operator) (ht : isEdge t.head? = true) :
      takeRun? (fun c => !isBlank c) (w ++ t) = some (w, t) := by
    refine takeRun?_append hw.ne_nil (fun c hc => by simp [hw.isBlank c hc]) fun c hc => ?_
    rw [hc] at ht
    simpa [isEdge] using ht
  have hvalue {w g v : List Char} (hw : Names w operator) (hcheck : operator.isNullCheck = false)
      (hg : IsGap g) (hv : ∃ c, v.head? = some c ∧ isBlank c = false) :
      operation? (w ++ (g ++ v)) = some (operator, operand v) := by
    obtain ⟨c, hc, hblank⟩ := hv
    have hne : v ≠ [] := by rintro rfl; simp at hc
    have hgap := hg.takeRun? (t := v) (by simpa [hc] using hblank)
    simp [operation?, hword hw (hg.isEdge v), hw.ofToken?, hcheck, hgap, hne]
  cases h with
  | check hcheck hw =>
    have := hword (t := []) hw rfl
    rw [List.append_nil] at this
    simp [operation?, this, hw.ofToken?, hcheck]
  | text hcheck _ hw hg hx =>
    obtain ⟨q, hq, hhead, -⟩ := hx.ends
    rw [hvalue hw hcheck hg ⟨q, hhead, isBlank_of_isQuote hq⟩, operand_of_quotedText hx]
  | list hw hg hx =>
    rw [hvalue hw rfl hg ⟨'(', rfl, by decide⟩, operand_of_listedItems hx]

/-- A term begins and ends with a character that is no blank. -/
theorem TermWritten.ends {c : Criterion} {x : List Char} (h : TermWritten c x) :
    (∃ a, x.head? = some a ∧ isBlank a = false) ∧
      ∃ b, x.getLast? = some b ∧ isBlank b = false := by
  cases h with
  | @intro p g y operator o k hp hg hy =>
    obtain ⟨-, b, hb, hblank⟩ := hy.ends
    obtain ⟨a, p, rfl⟩ := List.exists_cons_of_ne_nil hp.ne_nil
    exact ⟨⟨a, rfl, isBlank_of_isWord (hp.isWord a (by simp))⟩, b,
      by simp [List.getLast?_append, List.getLast?_cons, hb], hblank⟩

/-- The criterion of a term is read back. -/
theorem criterion?_of_termWritten {c : Criterion} {x : List Char} (h : TermWritten c x) :
    criterion? x = some { c with connective := .none } := by
  have htrim : trim x = x := by
    obtain ⟨⟨a, ha, hblank⟩, b, hb, hblank'⟩ := h.ends
    exact trimBy_eq_self (by simpa [ha] using hblank) (by simpa [hb] using hblank')
  cases h with
  | @intro p g x operator o k hp hg hx =>
    obtain ⟨⟨a, ha, hblank⟩, -⟩ := hx.ends
    have hprop : takeRun? isWord (p ++ (g ++ x)) = some (p, g ++ x) := by
      obtain ⟨d, g, rfl⟩ := List.exists_cons_of_ne_nil hg.1
      exact takeRun?_append hp.ne_nil hp.isWord
        (by simpa using isWord_of_isBlank (hg.2 d (by simp)))
    have hgap := hg.takeRun? (t := x) (by simpa [ha] using hblank)
    simp [criterion?, htrim, hprop, hgap, operation?_of_operationWritten hx]

end RecordQuery.Filter
