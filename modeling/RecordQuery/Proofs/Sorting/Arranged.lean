import RecordQuery.Proofs.Sorting.Key
import RecordQuery.Proofs.Sorting.Order

/-!
# Records in the order of a key

Records are in the order of a key if no value of a later one precedes the value of an earlier one,
or follows it where the key descends (`SortKey.Arranged`). Where a total test of the records tells
which value precedes which, sorting by the key is sorting by merging with this test, and with the
opposite one where the key descends (`SortKey.apply_eq_mergeSort`).
-/

namespace RecordQuery.SortKey

variable {α : Type} [Readable α] {k : SortKey} {rows : List α} {r s : α}

/-- The value of the second record does not precede the one of the first, by the direction of the
key. -/
def InOrder (k : SortKey) (r s : α) : Prop :=
  ∃ v w, k.field.readNormal r = .ok v ∧ k.field.readNormal s = .ok w ∧
    (if k.descending then precedes v w else precedes w v) = .ok false

/-- The records are in the order of the key. -/
def Arranged (k : SortKey) (rows : List α) : Prop := rows.Pairwise k.InOrder

/-- The values of the two records differ. -/
def Separates (k : SortKey) (r s : α) : Prop :=
  ∃ v w, k.field.readNormal r = .ok v ∧ k.field.readNormal s = .ok w ∧
    (v.relate w).equal = .ok false

/-- A record is sorted by its own value. -/
theorem readNormal_of_keyed {keyed : List (Value × α)} (h : k.keyed rows = .ok keyed)
    {x : Value × α} (hx : x ∈ keyed) : x.2 ∈ rows ∧ k.field.readNormal x.2 = .ok x.1 := by
  obtain ⟨r, hr, hread⟩ := (mem_of_mapM_ok h).2 x hx
  obtain ⟨v, hv, hpair⟩ := exists_of_bind_ok hread
  cases hpair
  exact ⟨hr, hv⟩

variable {le : α → α → Bool}

/-- The test tells which value of the records precedes which. -/
def IsDecidedBy (k : SortKey) (rows : List α) (le : α → α → Bool) : Prop :=
  ∀ r ∈ rows, ∀ s ∈ rows, ∃ v w, k.field.readNormal r = .ok v ∧ k.field.readNormal s = .ok w ∧
    precedes v w = .ok !le s r

/-- The test in the direction of the key. -/
def directed (k : SortKey) (le : α → α → Bool) (r s : α) : Bool :=
  if k.descending then le s r else le r s

/-- Two records are in order as the test says. -/
theorem inOrder_iff (h : k.IsDecidedBy rows le) (hr : r ∈ rows) (hs : s ∈ rows) :
    k.InOrder r s ↔ k.directed le r s = true := by
  obtain ⟨v, w, hv, hw, hvw⟩ := h r hr s hs
  obtain ⟨w', v', hw', hv', hwv⟩ := h s hs r hr
  cases hv.symm.trans hv'
  cases hw.symm.trans hw'
  have hvalues : k.InOrder r s ↔
      (if k.descending then precedes v w else precedes w v) = .ok false := by
    rw [InOrder]
    simp [hv, hw]
  rw [hvalues, directed, hvw, hwv]
  split <;> simp

/-- Records are in the order of a key if the test says so of every two of them. -/
theorem arranged_iff (h : k.IsDecidedBy rows le) :
    k.Arranged rows ↔ rows.Pairwise fun r s => k.directed le r s = true := by
  have hpairs (r s : α) (hr : r ∈ rows) (hs : s ∈ rows) := inOrder_iff h hr hs
  exact ⟨fun harranged => harranged.imp_of_mem fun hr hs => (hpairs _ _ hr hs).1,
    fun harranged => harranged.imp_of_mem fun hr hs => (hpairs _ _ hr hs).2⟩

section Total

variable (htrans : ∀ r s t, le r s = true → le s t = true → le r t = true)
  (htotal : ∀ r s, (le r s || le s r) = true) (h : k.IsDecidedBy rows le)

include htrans htotal h

/-- Sorting by a key is sorting by merging. -/
theorem apply_eq_mergeSort : k.apply rows = .ok (rows.mergeSort (k.directed le)) := by
  have hread : ∀ r ∈ rows, ∃ v, k.field.readNormal r = .ok v ∧ True := fun r hr => by
    obtain ⟨v, -, hv, -⟩ := h r hr r hr
    exact ⟨v, hv, trivial⟩
  obtain ⟨keyed, hkeyed, -⟩ := keyed_ok hread
  have hrows := map_snd_of_keyed hkeyed
  have hsort (pairs : List (Value × α)) (hsub : pairs ⊆ keyed) :
      Sorting.sortStably (fun a b => precedes a.1 b.1) pairs =
        .ok (pairs.mergeSort fun a b => le a.2 b.2) := by
    refine Sorting.sortStably_eq_mergeSort (fun a b c => htrans a.2 b.2 c.2)
      (fun a b => htotal a.2 b.2) fun a ha b hb => ?_
    obtain ⟨har, hva⟩ := readNormal_of_keyed hkeyed (hsub ha)
    obtain ⟨hbr, hvb⟩ := readNormal_of_keyed hkeyed (hsub hb)
    obtain ⟨v, w, hv, hw, hprecedes⟩ := h a.2 har b.2 hbr
    cases hva.symm.trans hv
    cases hvb.symm.trans hw
    exact hprecedes
  have hmap (pairs : List (Value × α)) :
      (pairs.mergeSort fun a b => le a.2 b.2).map (·.2) = (pairs.map (·.2)).mergeSort le :=
    List.map_mergeSort fun _ _ _ _ => rfl
  rw [apply, hkeyed]
  cases hdescending : k.descending with
  | false =>
    have hdirected : k.directed le = le := by
      funext r s
      rw [directed, hdescending]
      rfl
    show (Sorting.sortStably _ keyed >>= fun sorted => .ok (sorted.map (·.2))) = _
    rw [hsort keyed (List.Subset.refl _), hdirected, ← hrows, ← hmap]
    rfl
  | true =>
    have hdirected : k.directed le = fun r s => le s r := by
      funext r s
      rw [directed, hdescending]
      rfl
    show (Sorting.sortStably _ keyed.reverse >>= fun sorted =>
      .ok (sorted.map (·.2)).reverse) = _
    rw [hsort keyed.reverse fun x hx => List.mem_reverse.1 hx, hdirected, ← hrows,
      ← Sorting.reverse_mergeSort_reverse htrans htotal, ← List.map_reverse, ← hmap]
    rfl

end Total

end RecordQuery.SortKey
