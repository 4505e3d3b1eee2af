import RecordQuery.Proofs.Filter.Written

/-!
# Lists with blanks around their items

The items of a list stand between quotes or bare, and blanks may stand around each of them. Of these
blanks only spaces are taken off: a list is read as its items exactly if no other blank stands
around any of them (`operand_padded_iff`). A tab in front of an item is read as a part of it, with
the quote behind the tab (`operand_padded_tab`).
-/

namespace RecordQuery.Filter

open Text

/-- An item of a list as it is written: a text, the quote around it, if there is one, and the blanks
around both. -/
structure PaddedItem where
  /-- The item. -/
  text : List Char
  /-- The quote in front of the item and behind it. -/
  quote? : Option Char
  /-- The blanks in front. -/
  before : List Char
  /-- The blanks behind. -/
  after : List Char
  text_ne_nil : text ≠ [] := by simp
  text_plain : ∀ c ∈ text, c ≠ ',' ∧ isQuote c = false ∧ isParenthesis c = false := by
    simp [isQuote, isParenthesis]
  text_head : ∀ c ∈ text.head?, isBlank c = false := by simp [isBlank, inRanges, blankRanges]
  text_last : ∀ c ∈ text.getLast?, isBlank c = false := by simp [isBlank, inRanges, blankRanges]
  quote_isQuote : ∀ q ∈ quote?, isQuote q = true := by simp [isQuote]
  before_isBlank : ∀ c ∈ before, isBlank c = true := by simp [isBlank, inRanges, blankRanges]
  after_isBlank : ∀ c ∈ after, isBlank c = true := by simp [isBlank, inRanges, blankRanges]

namespace PaddedItem

/-- The characters of an item. -/
def chars (item : PaddedItem) : List Char :=
  item.before ++ (item.quote?.toList ++ item.text ++ item.quote?.toList) ++ item.after

/-- Only spaces stand around the item. -/
def OnlySpaces (item : PaddedItem) : Prop := ∀ c ∈ item.before ++ item.after, c = ' '

variable {item : PaddedItem} {c : Char}

/-! ## Characters of an item -/

theorem chars_cases (hc : c ∈ item.chars) :
    isBlank c = true ∨ isQuote c = true ∨ c ∈ item.text := by
  simp only [chars, List.mem_append, Option.mem_toList] at hc
  rcases hc with (hc | (hc | hc) | hc) | hc
  · exact .inl (item.before_isBlank c hc)
  · exact .inr (.inl (item.quote_isQuote c hc))
  · exact .inr (.inr hc)
  · exact .inr (.inl (item.quote_isQuote c hc))
  · exact .inl (item.after_isBlank c hc)

theorem ne_comma (hc : c ∈ item.chars) : c ≠ ',' := by
  rcases chars_cases hc with hc | hc | hc
  · rintro rfl
    exact absurd hc (by decide)
  · rintro rfl
    exact absurd hc (by decide)
  · exact (item.text_plain c hc).1

theorem isParenthesis_eq_false (hc : c ∈ item.chars) : isParenthesis c = false := by
  rcases chars_cases hc with hc | hc | hc
  · rw [← Bool.not_eq_true, isParenthesis, Bool.or_eq_true, decide_eq_true_eq, decide_eq_true_eq]
    rintro (rfl | rfl) <;> exact absurd hc (by decide)
  · exact isParenthesis_of_isQuote hc
  · exact (item.text_plain c hc).2.2

/-- An item has a character that is no blank. -/
theorem exists_isBlank_eq_false (item : PaddedItem) : ∃ c ∈ item.chars, isBlank c = false := by
  obtain ⟨c, text, htext⟩ := List.exists_cons_of_ne_nil item.text_ne_nil
  refine ⟨c, ?_, item.text_head c (by rw [htext]; rfl)⟩
  simp [chars, htext]

/-! ## Reading an item -/

/-- A blank is taken off an item exactly if it is a space. -/
theorem isItemPadding_iff (hc : isBlank c = true) : isItemPadding c = true ↔ c = ' ' := by
  have hquote : isQuote c = false := by
    rw [← Bool.not_eq_true]
    intro hquote
    rw [isBlank_of_isQuote hquote] at hc
    cases hc
  rw [isItemPadding, hquote, Bool.false_or, decide_eq_true_eq]

theorem onlySpaces_iff : item.OnlySpaces ↔
    (∀ c ∈ item.before, isItemPadding c = true) ∧ ∀ c ∈ item.after, isItemPadding c = true := by
  rw [OnlySpaces, List.forall_mem_append]
  refine and_congr (forall₂_congr fun c hc => ?_) (forall₂_congr fun c hc => ?_)
  · rw [isItemPadding_iff (item.before_isBlank c hc)]
  · rw [isItemPadding_iff (item.after_isBlank c hc)]

/-- An item is what is left of its characters exactly if only spaces stand around it. -/
theorem trimBy_chars_iff : trimBy isItemPadding item.chars = item.text ↔ item.OnlySpaces := by
  rw [onlySpaces_iff]
  constructor
  · intro htrim
    -- a blank that is left at an end would be the first or the last character of the item
    constructor
    · by_contra hbefore
      obtain ⟨c, hc, hhead⟩ := exists_head?_trimBy_append hbefore
      rw [← List.append_assoc, ← chars, htrim] at hhead
      have := (item.text_head c hhead).symm.trans (item.before_isBlank c hc)
      cases this
    · by_contra hafter
      obtain ⟨c, hc, hlast⟩ := exists_getLast?_trimBy_append hafter
      rw [← chars, htrim] at hlast
      have := (item.text_last c hlast).symm.trans (item.after_isBlank c hc)
      cases this
  · rintro ⟨hbefore, hafter⟩
    have hquote : ∀ c ∈ item.quote?.toList, isItemPadding c = true := fun c hc => by
      rw [isItemPadding, item.quote_isQuote c (Option.mem_toList.1 hc), Bool.true_or]
    have hplain : ∀ c ∈ item.text, isBlank c = false → isItemPadding c = false := by
      intro c hc hblank
      have hspace : c ≠ ' ' := by
        rintro rfl
        exact absurd hblank (by decide)
      rw [isItemPadding, (item.text_plain c hc).2.1, Bool.false_or, decide_eq_false hspace]
    rw [chars, trimBy_append hbefore hafter, trimBy_append hquote hquote]
    exact trimBy_eq_self
      (fun c hc => hplain c (List.mem_of_head? hc) (item.text_head c hc))
      fun c hc => hplain c (List.mem_of_getLast? hc) (item.text_last c hc)

end PaddedItem

/-! ## Reading a list -/

/-- Items in parentheses, with commas between them. -/
def parenthesized (list : List PaddedItem) : List Char :=
  '(' :: ([','].intercalate (list.map PaddedItem.chars) ++ [')'])

variable {list : List PaddedItem} {c : Char}

theorem mem_intercalate_chars (hc : c ∈ [','].intercalate (list.map PaddedItem.chars)) :
    c = ',' ∨ ∃ item ∈ list, c ∈ item.chars := by
  induction list with
  | nil => cases hc
  | cons item list ih =>
    cases list with
    | nil =>
      rw [List.map_singleton, List.intercalate_singleton] at hc
      exact .inr ⟨item, List.mem_cons_self, hc⟩
    | cons next list =>
      rw [List.map_cons, List.map_cons, List.intercalate_cons_cons, ← List.map_cons] at hc
      rcases List.mem_append.1 hc with hc | hc
      · rcases List.mem_append.1 hc with hc | hc
        · exact .inr ⟨item, List.mem_cons_self, hc⟩
        · exact .inl (List.mem_singleton.1 hc)
      · rcases ih hc with rfl | ⟨other, hother, hc⟩
        · exact .inl rfl
        · exact .inr ⟨other, List.mem_cons_of_mem _ hother, hc⟩

/-- The first item stands in front of the others. -/
theorem chars_prefix_intercalate (item : PaddedItem) (list : List PaddedItem) :
    item.chars <+: [','].intercalate ((item :: list).map PaddedItem.chars) := by
  cases list with
  | nil =>
    simp only [List.map_singleton, List.intercalate_singleton, List.prefix_rfl]
  | cons next list =>
    rw [List.map_cons, List.map_cons, List.intercalate_cons_cons, List.append_assoc]
    exact List.prefix_append _ _

/-- Each item of a list is read without the quotes and spaces at its ends. -/
theorem operand_parenthesized (hne : list ≠ []) : operand (parenthesized list) =
    .list (list.map fun item => String.ofList (trimBy isItemPadding item.chars)) := by
  have hparens : ∀ c ∈ [','].intercalate (list.map PaddedItem.chars), isParenthesis c = false := by
    intro c hc
    rcases mem_intercalate_chars hc with rfl | ⟨item, -, hc⟩
    · decide
    · exact item.isParenthesis_eq_false hc
  have hblank : allBlank ([','].intercalate (list.map PaddedItem.chars)) = false := by
    obtain ⟨item, rest, rfl⟩ := List.exists_cons_of_ne_nil hne
    obtain ⟨c, hc, hblank⟩ := item.exists_isBlank_eq_false
    exact List.all_eq_false.2 ⟨c, (chars_prefix_intercalate item rest).subset hc, by simp [hblank]⟩
  have hcomma : ∀ x ∈ list.map PaddedItem.chars, ',' ∉ x := by
    intro x hx hmem
    obtain ⟨item, -, rfl⟩ := List.mem_map.1 hx
    exact item.ne_comma hmem rfl
  rw [parenthesized, operand_of_parenthesized (fun c hc => hparens c (List.mem_of_head? hc))
    fun c hc => hparens c (List.mem_of_getLast? hc), items, if_neg (by simp [hblank]),
    List.splitOn_intercalate _ hcomma (by simpa using hne), List.map_map]
  rfl

/-- A list is read as its items if and only if only spaces stand around each of them. -/
theorem operand_padded_iff (hne : list ≠ []) :
    operand (parenthesized list) = .list (list.map fun item => String.ofList item.text) ↔
      ∀ item ∈ list, item.OnlySpaces := by
  rw [operand_parenthesized hne, Operand.list.injEq, List.map_inj_left]
  refine forall₂_congr fun item _ => ?_
  rw [String.ofList_inj, item.trimBy_chars_iff]

/-- Items between quotes of either kind and a bare one, with spaces around them. -/
theorem operand_padded_spaces :
    ∃ list : List PaddedItem, parenthesized list = "( 'A b' , \"C\",d )".toList ∧
      list ≠ [] ∧ (∀ item ∈ list, item.OnlySpaces) ∧
      operand (parenthesized list) = .list ["A b", "C", "d"] := by
  let list : List PaddedItem := [
    { text := ['A', ' ', 'b'], quote? := some '\x27', before := [' '], after := [' '] },
    { text := ['C'], quote? := some '\x22', before := [' '], after := [] },
    { text := ['d'], quote? := none, before := [], after := [' '] }]
  have hne : list ≠ [] := by simp [list]
  have hspaces : ∀ item ∈ list, item.OnlySpaces := by
    simp [list, PaddedItem.OnlySpaces]
  exact ⟨list, rfl, hne, hspaces, (operand_padded_iff hne).2 hspaces⟩

/-- A tab in front of an item is read as a part of it, and so is the quote between them. -/
theorem operand_padded_tab :
    ∃ list : List PaddedItem, parenthesized list = "('A',\t'B')".toList ∧
      list.map (fun item => String.ofList item.text) = ["A", "B"] ∧
      operand (parenthesized list) = .list ["A", "\t'B"] := by
  let list : List PaddedItem := [
    { text := ['A'], quote? := some '\x27', before := [], after := [] },
    { text := ['B'], quote? := some '\x27', before := ['\t'], after := [] }]
  have hne : list ≠ [] := by simp [list]
  exact ⟨list, rfl, rfl, (operand_parenthesized hne).trans rfl⟩

end RecordQuery.Filter
