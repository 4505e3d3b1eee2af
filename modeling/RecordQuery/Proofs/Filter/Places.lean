import RecordQuery.Filter.Basic
import RecordQuery.Proofs.Filter.Parts

/-!
# The places of criteria

Every term of a row of parts is read as a criterion or dropped. `Places` keeps, for the parts from
a place on, the places of the terms that were read and of those that were dropped, and how the
criteria join: the first of all by nothing, and every later one by the connective in front of its
own term (`JoinedAt`). The parts of a text have no two terms side by side, so there is always one
(`exists_places`); a criterion never joins by the connective that is taken for a missing one.
-/

namespace RecordQuery.Filter

open Text

/-! ## What a term gives -/

/-- An operation has no operand exactly if its operator is a null check. -/
theorem absent_iff_of_operation? {s : List Char} {operator : Operator} {o : Operand}
    (h : operation? s = some (operator, o)) : o = .absent ↔ operator.isNullCheck = true := by
  have hoperand (value : List Char) : operand value ≠ .absent := by
    rw [operand]
    split <;> simp
  simp only [operation?, Option.bind_eq_bind, Option.bind_eq_some_iff] at h
  obtain ⟨⟨word, rest⟩, -, op, -, h⟩ := h
  split at h
  · next hcheck =>
    split at h
    · cases h
      exact iff_of_true rfl hcheck
    · cases h
  · next hcheck =>
    obtain ⟨⟨gap, value⟩, -, h⟩ := Option.bind_eq_some_iff.1 h
    dsimp only at h
    split at h
    · cases h
    · cases h
      exact iff_of_false (hoperand value) hcheck

/-- The criterion of a term joins nothing yet, and has no operand exactly if it is a null check. -/
theorem of_criterion? {t : List Char} {c : Criterion} (h : criterion? t = some c) :
    c.connective = .none ∧ (c.operand = .absent ↔ c.operator.isNullCheck = true) := by
  simp only [criterion?, Option.bind_eq_bind, Option.bind_eq_some_iff] at h
  obtain ⟨⟨property, rest⟩, -, ⟨gap, rest'⟩, -, ⟨operator, o⟩, hoperation, h⟩ := h
  cases h
  exact ⟨rfl, absent_iff_of_operation? hoperation⟩

/-! ## Places in a row of parts -/

/-- The criterion is that of the term at the place, whatever it joins by. -/
def ReadAt (parts : List Part) (i : Nat) (c : Criterion) : Prop :=
  ∃ t, parts[i]? = some (.term t) ∧ criterion? t = some { c with connective := .none }

/-- The text is the term at the place, and no criterion. -/
def DroppedAt (parts : List Part) (i : Nat) (text : String) : Prop :=
  parts[i]? = some (.term text.toList) ∧ criterion? text.toList = none

/-- The criterion joins by the connective in front of the place. -/
def JoinedAt (parts : List Part) (i : Nat) (c : Criterion) : Prop :=
  (c.connective = .and ∨ c.connective = .or) ∧ 0 < i ∧
    parts[i - 1]? = some (.connective c.connective)

/-- A criterion joins by the last part of those in front of it, if this is a connective. -/
theorem joinedAt_length {parts before rest : List Part} {k : Connective} {c : Criterion}
    (hparts : parts = before ++ rest) (hlast : before.getLast? = some (.connective k))
    (hk : k ≠ .none) : JoinedAt parts before.length { c with connective := k } := by
  have hpos : 0 < before.length :=
    List.length_pos_iff.2 (List.ne_nil_of_mem (List.mem_of_getLast? hlast))
  refine ⟨?_, hpos, ?_⟩
  · cases k with
    | none => exact absurd rfl hk
    | and => exact .inl rfl
    | or => exact .inr rfl
  · rw [hparts, List.getElem?_append_left (by omega), ← List.getLast?_eq_getElem?, hlast]

/-- The filter is that of the parts from a place on. `read` and `dropped` are the places of its
criteria and of its dropped terms, and `first` says that no criterion stands before. -/
structure Places (parts : List Part) (first : Bool) (n : Nat) (f : Filter)
    (read dropped : List Nat) : Prop where
  sorted : read.Pairwise (· < ·) ∧ dropped.Pairwise (· < ·)
  disjoint : read.Disjoint dropped
  mem_iff : ∀ i, i ∈ read ∨ i ∈ dropped ↔ n ≤ i ∧ ∃ t, parts[i]? = some (.term t)
  read_at : List.Forall₂ (ReadAt parts) read f.criteria
  dropped_at : List.Forall₂ (DroppedAt parts) dropped f.dropped
  joined : if first then (∀ c ∈ f.criteria.head?, c.connective = .none) ∧
      List.Forall₂ (JoinedAt parts) read.tail f.criteria.tail
    else List.Forall₂ (JoinedAt parts) read f.criteria
  absent_iff : ∀ c ∈ f.criteria, c.operand = .absent ↔ c.operator.isNullCheck = true

namespace Places

variable {parts : List Part} {first : Bool} {n : Nat} {f : Filter} {read dropped : List Nat}
  {t : List Char} {c : Criterion} {k : Connective}

/-- Behind the last part there is nothing. -/
theorem nil (hn : parts.length ≤ n) : Places parts first n empty [] [] where
  sorted := ⟨.nil, .nil⟩
  disjoint := by simp
  mem_iff i := by
    refine iff_of_false (by simp) ?_
    rintro ⟨hi, t, ht⟩
    rw [List.getElem?_eq_none (by omega)] at ht
    cases ht
  read_at := .nil
  dropped_at := .nil
  joined := by cases first <;> simp [empty]
  absent_iff := by simp [empty]

section

variable (h : Places parts first (n + 1) f read dropped)

include h

theorem lt_of_mem {i : Nat} (hi : i ∈ read ∨ i ∈ dropped) : n < i := ((h.mem_iff i).1 hi).1

/-- A connective is neither read nor dropped. -/
theorem connective (hk : parts[n]? = some (.connective k)) :
    Places parts first n f read dropped where
  __ := h
  mem_iff i := by
    rw [h.mem_iff]
    refine ⟨fun ⟨hi, ht⟩ => ⟨by omega, ht⟩, fun ⟨hi, t, ht⟩ => ⟨?_, t, ht⟩⟩
    rcases Nat.lt_or_eq_of_le hi with hlt | rfl
    · exact hlt
    · cases hk.symm.trans ht

/-- The places from a term on are those behind it and its own. -/
theorem mem_iff_of_term (ht : parts[n]? = some (.term t)) (i : Nat) :
    i = n ∨ (i ∈ read ∨ i ∈ dropped) ↔ n ≤ i ∧ ∃ t, parts[i]? = some (.term t) := by
  rw [h.mem_iff]
  constructor
  · rintro (rfl | ⟨hi, hterm⟩)
    · exact ⟨Nat.le_refl _, t, ht⟩
    · exact ⟨by omega, hterm⟩
  · rintro ⟨hi, hterm⟩
    exact (Nat.lt_or_eq_of_le hi).symm.imp Eq.symm fun hlt => ⟨hlt, hterm⟩

/-- A term that is no criterion is dropped. -/
theorem drop (ht : parts[n]? = some (.term t)) (hnone : criterion? t = none) :
    Places parts first n (f.drop t) read (n :: dropped) where
  sorted := ⟨h.sorted.1, List.pairwise_cons.2
    ⟨fun i hi => h.lt_of_mem (.inr hi), h.sorted.2⟩⟩
  disjoint := List.disjoint_cons_right.2
    ⟨fun hn => Nat.lt_irrefl n (h.lt_of_mem (.inl hn)), h.disjoint⟩
  mem_iff i := by
    rw [← h.mem_iff_of_term ht, List.mem_cons, or_left_comm]
  read_at := h.read_at
  dropped_at := .cons ⟨by rwa [String.toList_ofList], by rwa [String.toList_ofList]⟩ h.dropped_at
  joined := h.joined
  absent_iff := h.absent_iff

end

/-- A term that is a criterion is read. If it is not the first one, it joins by the connective in
front of it. -/
theorem cons (h : Places parts false (n + 1) f read dropped) (ht : parts[n]? = some (.term t))
    (hc : criterion? t = some c)
    (hjoined : first = false → JoinedAt parts n { c with connective := k }) :
    Places parts first n (f.cons { c with connective := if first then .none else k }) (n :: read)
      dropped where
  sorted := ⟨List.pairwise_cons.2 ⟨fun i hi => h.lt_of_mem (.inl hi), h.sorted.1⟩, h.sorted.2⟩
  disjoint := List.disjoint_cons_left.2
    ⟨fun hn => Nat.lt_irrefl n (h.lt_of_mem (.inr hn)), h.disjoint⟩
  mem_iff i := by
    rw [← h.mem_iff_of_term ht, List.mem_cons, or_assoc]
  read_at := by
    refine .cons ⟨t, ht, ?_⟩ h.read_at
    rw [hc, ← (of_criterion? hc).1]
  dropped_at := h.dropped_at
  joined := by
    cases first with
    | true => exact ⟨by simp [Filter.cons], h.joined⟩
    | false => exact .cons (hjoined rfl) h.joined
  absent_iff := List.forall_mem_cons.2 ⟨(of_criterion? hc).2, h.absent_iff⟩

end Places

/-- In a row of parts with no two terms side by side, every term has its place, and every criterion
but the first joins by the connective in front of its term. -/
theorem exists_places {parts : List Part}
    (hchain : parts.IsChain fun p q => ¬ (p.IsTerm ∧ q.IsTerm))
    (hjoins : ∀ k, .connective k ∈ parts → k ≠ .none) (first : Bool) (joint : Connective)
    (before rest : List Part) (hparts : parts = before ++ rest)
    (hjoint : first = false → ∀ t, rest.head? = some (.term t) →
      before.getLast? = some (.connective joint)) :
    ∃ read dropped, Places parts first before.length (ofParts first joint rest) read dropped := by
  induction rest generalizing first joint before with
  | nil => exact ⟨[], [], .nil (by simp [hparts])⟩
  | cons p rest ih =>
    have hplace : parts[before.length]? = some p := by simp [hparts]
    have hparts' : parts = (before ++ [p]) ++ rest := by simp [hparts]
    have hlength : (before ++ [p]).length = before.length + 1 := by simp
    cases p with
    | connective k =>
      obtain ⟨read, dropped, h⟩ :=
        ih first k (before ++ [.connective k]) hparts' fun _ t _ => by simp
      rw [hlength] at h
      exact ⟨read, dropped, h.connective hplace⟩
    | term t =>
      -- no term follows, so what a criterion behind this one joins by is not asked for yet
      have hnext (first : Bool) : first = false → ∀ u, rest.head? = some (.term u) →
          (before ++ [Part.term t]).getLast? = some (.connective .and) := by
        intro _ u hu
        rw [hparts] at hchain
        have hbehind := (List.isChain_append.1 hchain).2.1
        exact absurd ⟨⟨t, rfl⟩, ⟨u, rfl⟩⟩ ((List.isChain_cons.1 hbehind).1 _ hu)
      cases hc : criterion? t with
      | none =>
        obtain ⟨read, dropped, h⟩ := ih first .and (before ++ [.term t]) hparts' (hnext first)
        rw [hlength] at h
        refine ⟨read, before.length :: dropped, ?_⟩
        rw [ofParts, hc]
        exact h.drop hplace hc
      | some c =>
        obtain ⟨read, dropped, h⟩ := ih false .and (before ++ [.term t]) hparts' (hnext false)
        rw [hlength] at h
        refine ⟨before.length :: read, dropped, ?_⟩
        rw [ofParts, hc]
        refine h.cons hplace hc fun hfirst => ?_
        have hlast := hjoint hfirst t rfl
        have hmem := List.mem_of_getLast? hlast
        exact joinedAt_length hparts hlast (hjoins joint (hparts ▸ List.mem_append_left _ hmem))

/-- The terms of a filter are read as its criteria or dropped, each once and in order. The first
criterion joins nothing, and every later one joins by the connective directly in front of its own
term. A criterion has no operand exactly if it is a null check. -/
theorem ofText_places (text : String) :
    let parts := Part.ofText true (percentDecode text.toList)
    let f := ofText text
    (∃ read dropped : List Nat, read.Pairwise (· < ·) ∧ dropped.Pairwise (· < ·) ∧
      read.Disjoint dropped ∧
      (∀ i, i ∈ read ∨ i ∈ dropped ↔ ∃ t, parts[i]? = some (.term t)) ∧
      List.Forall₂ (ReadAt parts) read f.criteria ∧
      List.Forall₂ (DroppedAt parts) dropped f.dropped ∧
      (∀ c ∈ f.criteria.head?, c.connective = .none) ∧
      List.Forall₂ (JoinedAt parts) read.tail f.criteria.tail) ∧
    ∀ c ∈ f.criteria, c.operand = .absent ↔ c.operator = .isNull ∨ c.operator = .isNotNull := by
  intro parts f
  obtain ⟨counted, marks, hcut, hparts, -⟩ :=
    exists_cut_ofText true (percentDecode text.toList)
  replace hparts : parts = Part.ofMarks marks := hparts
  have hchain : parts.IsChain fun p q => ¬ (p.IsTerm ∧ q.IsTerm) := hparts ▸ hcut.isChain
  have hjoins : ∀ k, .connective k ∈ parts → k ≠ .none :=
    fun k hk => hcut.ne_none_of_connective (hparts ▸ hk)
  obtain ⟨read, dropped, h⟩ :=
    exists_places hchain hjoins true .and [] parts (List.nil_append parts).symm (by simp)
  refine ⟨⟨read, dropped, h.sorted.1, h.sorted.2, h.disjoint, fun i => ?_, h.read_at, h.dropped_at,
    h.joined.1, h.joined.2⟩, fun c hc => ?_⟩
  · rw [h.mem_iff]
    exact and_iff_right (Nat.zero_le i)
  · rw [h.absent_iff c hc]
    cases c.operator <;> simp [Operator.isNullCheck]

end RecordQuery.Filter
