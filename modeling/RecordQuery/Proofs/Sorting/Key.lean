import RecordQuery.Proofs.Sorting.Stable
import RecordQuery.Sorting.Basic

/-!
# Sorting records by a key

Records that are sorted are the same records (`SortKey.perm_of_apply`), and they are where the
values of the sort key can be compared (`SortKey.apply_perm`). Date-times with an offset can
(`SortKey.comparable_precedes`). Nothing of a record but its value decides where it comes
(`SortKey.apply_map`).
-/

namespace RecordQuery

namespace SortKey

/-- A value that moments compare with: a date-time with an offset, or no value. -/
def IsMoment (v : Value) : Prop := v = .null ∨ ∃ t, v = .dateTime t ∧ t.offset?.isSome = true

/-- Moments can be compared. -/
theorem comparable_precedes : Sorting.Comparable precedes IsMoment := by
  rintro v w (rfl | ⟨t, rfl, ht⟩) (rfl | ⟨u, rfl, hu⟩)
  · exact ⟨_, rfl⟩
  · exact ⟨_, rfl⟩
  · exact ⟨_, rfl⟩
  · have hrelate : (Value.dateTime t).relate (.dateTime u) =
        .ordered (compare t.instant u.instant) := by
      simp [Value.relate, Value.numberKind?, Value.relateOthers, ht, hu]
    cases heq : (compare t.instant u.instant == .eq) with
    | true => exact ⟨false, by simp [precedes, Value.isNull, hrelate, Relation.equal, heq, bind,
        Except.bind, pure, Except.pure]⟩
    | false => exact ⟨compare t.instant u.instant == .lt, by simp [precedes, Value.isNull, hrelate,
        Relation.equal, Relation.satisfies, heq, bind, Except.bind]⟩

variable {α : Type} [Readable α] {k : SortKey} {p : Value → Prop} {rows : List α}

theorem map_snd_of_keyed {keyed : List (Value × α)} (h : k.keyed rows = .ok keyed) :
    keyed.map (·.2) = rows := by
  induction rows generalizing keyed with
  | nil =>
    cases h
    rfl
  | cons r rows ih =>
    rw [SortKey.keyed, List.mapM_cons] at h
    obtain ⟨pair, hpair, h⟩ := exists_of_bind_ok h
    obtain ⟨rest, hrest, h⟩ := exists_of_bind_ok h
    obtain ⟨v, -, hv⟩ := exists_of_bind_ok hpair
    cases h
    cases hv
    rw [List.map_cons, ih hrest]

/-- Sorted records are the records that were to be sorted. -/
theorem perm_of_apply {sorted : List α} (h : k.apply rows = .ok sorted) : sorted.Perm rows := by
  obtain ⟨keyed, hkeyed, h⟩ := exists_of_bind_ok h
  obtain ⟨sorted', hsorted, h⟩ := exists_of_bind_ok h
  have hperm := Sorting.perm_of_sortStably hsorted
  have hrows : (sorted'.map (·.2)).Perm rows := by
    refine (hperm.map (·.2)).trans ?_
    split
    · rw [List.map_reverse, map_snd_of_keyed hkeyed]
      exact List.reverse_perm _
    · rw [map_snd_of_keyed hkeyed]
  cases h
  split
  · exact (List.reverse_perm _).trans hrows
  · exact hrows

/-- Records whose values of the key can be read are paired with them. -/
theorem keyed_ok (hread : ∀ r ∈ rows, ∃ v, k.field.readNormal r = .ok v ∧ p v) :
    ∃ keyed, k.keyed rows = .ok keyed ∧ ∀ x ∈ keyed, p x.1 := by
  induction rows with
  | nil => exact ⟨[], rfl, by simp⟩
  | cons r rows ih =>
    obtain ⟨v, hv, hpv⟩ := hread r (by simp)
    obtain ⟨keyed, hkeyed, hall⟩ := ih fun s hs => hread s (by simp [hs])
    refine ⟨(v, r) :: keyed, ?_, List.forall_mem_cons.2 ⟨hpv, hall⟩⟩
    simp only [SortKey.keyed, List.mapM_cons, hv, bind, Except.bind, pure, Except.pure]
      at hkeyed ⊢
    rw [hkeyed]

/-- Records are sorted to the same records where the values of the key can be compared. -/
theorem apply_perm (hp : Sorting.Comparable precedes p)
    (hread : ∀ r ∈ rows, ∃ v, k.field.readNormal r = .ok v ∧ p v) :
    ∃ sorted, k.apply rows = .ok sorted ∧ sorted.Perm rows := by
  obtain ⟨keyed, hkeyed, hall⟩ := keyed_ok hread
  have hcompare : Sorting.Comparable (fun a b : Value × α => precedes a.1 b.1) (fun a => p a.1) :=
    fun a b ha hb => hp a.1 b.1 ha hb
  have hall' : ∀ x ∈ if k.descending then keyed.reverse else keyed, p x.1 := by
    split
    · exact fun x hx => hall x (List.mem_reverse.1 hx)
    · exact hall
  obtain ⟨sorted, hsorted, -⟩ := Sorting.sortStably_perm hcompare hall'
  have happly : k.apply rows = .ok (if k.descending then (sorted.map (·.2)).reverse
      else sorted.map (·.2)) :=
    bind_eq_ok_iff.2 ⟨keyed, hkeyed, bind_eq_ok_iff.2 ⟨sorted, hsorted, rfl⟩⟩
  exact ⟨_, happly, perm_of_apply happly⟩

section Image

variable {β : Type} [Readable β] {f : α → β}

theorem keyed_map (h : ∀ r ∈ rows, k.field.readNormal (f r) = k.field.readNormal r) :
    k.keyed (rows.map f) = (k.keyed rows).map (List.map (Prod.map id f)) := by
  induction rows with
  | nil => rfl
  | cons r rows ih =>
    obtain ⟨hr, hrows⟩ := List.forall_mem_cons.1 h
    have hih := ih hrows
    rw [SortKey.keyed, SortKey.keyed] at hih
    rw [SortKey.keyed, SortKey.keyed, List.map_cons, List.mapM_cons, List.mapM_cons, hr, hih]
    cases k.field.readNormal r with
    | error e => rfl
    | ok v => cases rows.mapM fun r => do return (← k.field.readNormal r, r) <;> rfl

/-- Records that are mapped to records with the same values of the key are sorted as these are. -/
theorem apply_map (h : ∀ r ∈ rows, k.field.readNormal (f r) = k.field.readNormal r) :
    k.apply (rows.map f) = (k.apply rows).map (List.map f) := by
  rw [apply, apply, keyed_map h]
  cases k.keyed rows with
  | error e => rfl
  | ok keyed =>
    let directed : List (Value × α) := if k.descending then keyed.reverse else keyed
    have hdirected : (if k.descending then (keyed.map (Prod.map id f)).reverse
        else keyed.map (Prod.map id f)) = directed.map (Prod.map id f) := by
      simp only [directed]
      split
      · exact List.map_reverse.symm
      · rfl
    have hsort : Sorting.sortStably (fun a b : Value × β => precedes a.1 b.1)
        (directed.map (Prod.map id f)) =
          (Sorting.sortStably (fun a b : Value × α => precedes a.1 b.1) directed).map
            (List.map (Prod.map id f)) := Sorting.sortStably_map _
    simp only [Except.map, bind, Except.bind, hdirected, hsort]
    cases Sorting.sortStably (fun a b : Value × α => precedes a.1 b.1) directed with
    | error e => rfl
    | ok sorted =>
      have hsnd : (sorted.map (Prod.map id f)).map (·.2) = (sorted.map (·.2)).map f := by
        rw [List.map_map, List.map_map]
        rfl
      simp only [pure, Except.pure, hsnd, Except.ok.injEq]
      split
      · exact List.map_reverse.symm
      · rfl

end Image

end SortKey

end RecordQuery
