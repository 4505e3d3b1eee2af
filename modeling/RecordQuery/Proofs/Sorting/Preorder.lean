import RecordQuery.Proofs.Sorting.Blocks

/-!
# Records whose values are in a total preorder

Where no comparison of the values that records are sorted by fails and these values are in a total
preorder (`SortKey.IsPreorder`), the sort succeeds. It gives the records in the order of the key,
those without a value at one end and those that tie as they came, and records may as well be
filtered before they are sorted as afterwards (`SortKey.apply_stable`).
-/

namespace RecordQuery

/-! ## Total tests -/

namespace Sorting

variable {κ ε : Type} {precedes : κ → κ → Except ε Bool} {p : κ → Prop}

open Classical in
/-- An order of the elements of a class is told by a total test of all elements. -/
theorem IsOrder.exists_total (h : IsOrder precedes p) :
    ∃ le : κ → κ → Bool, (∀ a b c, le a b = true → le b c = true → le a c = true) ∧
      (∀ a b, (le a b || le b a) = true) ∧ ∀ a b, p a → p b → precedes a b = .ok !le b a := by
  -- elements outside of the class come first
  refine ⟨fun a b => decide (p a → p b ∧ InOrder precedes a b), fun a b c hab hbc => ?_,
    fun a b => ?_, fun a b ha hb => ?_⟩
  · simp only [decide_eq_true_eq] at hab hbc ⊢
    intro ha
    obtain ⟨hb, hab⟩ := hab ha
    obtain ⟨hc, hbc⟩ := hbc hb
    exact ⟨hc, h.trans ha hb hc hab hbc⟩
  · simp only [Bool.or_eq_true, decide_eq_true_eq]
    by_cases ha : p a
    · by_cases hb : p b
      · rcases h.precedes_or_inOrder ha hb with hab | hba
        · exact .inl fun _ => ⟨hb, h.asymm ha hb hab⟩
        · exact .inr fun _ => ⟨ha, hba⟩
      · exact .inr fun hb' => absurd hb' hb
    · exact .inl fun ha' => absurd ha' ha
  · rcases h.precedes_or_inOrder ha hb with hab | hba
    · have hnot : ¬InOrder precedes b a := fun hba => by cases hab.symm.trans hba
      simp [ha, hb, hnot, hab]
    · have hab : precedes a b = .ok false := hba
      simp [ha, hb, hba, hab]

end Sorting

namespace SortKey

/-! ## The direction of a key -/

section Directed

variable {α : Type} {k : SortKey} {le : α → α → Bool}

theorem directed_trans (h : ∀ r s t, le r s = true → le s t = true → le r t = true) (r s t : α)
    (hrs : k.directed le r s = true) (hst : k.directed le s t = true) :
    k.directed le r t = true := by
  unfold directed at *
  cases hdescending : k.descending with
  | false =>
    rw [hdescending] at hrs hst
    exact h r s t hrs hst
  | true =>
    rw [hdescending] at hrs hst
    exact h t s r hst hrs

theorem directed_total (h : ∀ r s, (le r s || le s r) = true) (r s : α) :
    (k.directed le r s || k.directed le s r) = true := by
  unfold directed
  split
  · exact h s r
  · exact h r s

end Directed

variable {α : Type} [Readable α] {k : SortKey} {rows : List α} {r s : α} {v w : Value}

/-! ## Values in a total preorder -/

/-- Every record has a value or none in the field of the key, and the comparison is a total preorder
of what the records have. -/
structure IsPreorder (k : SortKey) (rows : List α) : Prop where
  /-- The field of the key can be read. -/
  readable : ∀ r ∈ rows, ∃ v, k.field.readNormal r = .ok v
  /-- The values are in an order, in which they may tie. -/
  isOrder : Sorting.IsOrder precedes fun v => ∃ r ∈ rows, k.field.readNormal r = .ok v

/-- In a total preorder a total test tells which value of the records precedes which. -/
theorem IsPreorder.exists_isDecidedBy (h : k.IsPreorder rows) :
    ∃ le : α → α → Bool, (∀ r s t, le r s = true → le s t = true → le r t = true) ∧
      (∀ r s, (le r s || le s r) = true) ∧ k.IsDecidedBy rows le := by
  obtain ⟨le, htrans, htotal, hprecedes⟩ := h.isOrder.exists_total
  let value (r : α) : Value := (k.field.readNormal r).toOption.getD .null
  refine ⟨fun r s => le (value r) (value s), fun r s t => htrans _ _ _, fun r s => htotal _ _,
    fun r hr s hs => ?_⟩
  obtain ⟨v, hv⟩ := h.readable r hr
  obtain ⟨w, hw⟩ := h.readable s hs
  refine ⟨v, w, hv, hw, ?_⟩
  simp only [value, hv, hw, Except.toOption, Option.getD_some]
  exact hprecedes v w ⟨r, hr, hv⟩ ⟨s, hs, hw⟩

/-- Neither value of the two records precedes the other, as is so of equal values. -/
def ties (k : SortKey) (r s : α) : Bool :=
  match k.field.readNormal r, k.field.readNormal s with
  | .ok v, .ok w => precedes v w = .ok false ∧ precedes w v = .ok false
  | _, _ => false

/-- Records tie if each of the two is in order with the other. -/
theorem ties_iff {le : α → α → Bool} (h : k.IsDecidedBy rows le) (hr : r ∈ rows) (hs : s ∈ rows) :
    k.ties r s = (k.directed le r s && k.directed le s r) := by
  obtain ⟨v, w, hv, hw, hvw⟩ := h r hr s hs
  obtain ⟨w', v', hw', hv', hwv⟩ := h s hs r hr
  cases hv.symm.trans hv'
  cases hw.symm.trans hw'
  simp only [ties, hv, hw, directed, hvw, hwv]
  cases k.descending <;> cases le r s <;> cases le s r <;> rfl

/-! ## Records without a value -/

/-- The record has no value in the field of the key. -/
def lacks (k : SortKey) (r : α) : Bool := k.field.read r = .ok .null

theorem readNormal_eq_null_iff {f : Field} : f.readNormal r = .ok .null ↔ f.read r = .ok .null := by
  rw [Field.readNormal]
  cases f.read r with
  | error e => exact iff_of_false (by simp [Except.bind]) (by simp)
  | ok v =>
    have hnormal : f.normalize v = .ok .null ↔ v = .null := by
      constructor
      · intro h
        unfold Field.normalize Literal.universal at h
        split at h
        · split at h
          · cases h
          · split at h <;> cases h
        · split at h <;> cases h
        · exact Except.ok.inj h
      · rintro rfl
        exact Field.normalize_null f
    simpa [Except.bind] using hnormal

/-- No value comes before every value, or behind every value if the key descends. -/
theorem InOrder.lacks (h : k.InOrder r s) :
    if k.descending then k.lacks r = true → k.lacks s = true
    else k.lacks s = true → k.lacks r = true := by
  obtain ⟨v, w, hv, hw, hprecedes⟩ := h
  have hfirst {v w : Value} (h : precedes v w = .ok false) (hv : v = .null) : w = .null := by
    subst hv
    cases w with
    | null => rfl
    | _ => cases h
  simp only [SortKey.lacks, decide_eq_true_eq, ← readNormal_eq_null_iff, hv, hw, Except.ok.injEq]
  cases hdescending : k.descending with
  | true =>
    rw [hdescending] at hprecedes
    exact hfirst hprecedes
  | false =>
    rw [hdescending] at hprecedes
    exact hfirst hprecedes

/-- Records in the order of a key begin with those that have no value, or end with them if the key
descends. -/
theorem Arranged.eq_ends (h : k.Arranged rows) :
    rows = if k.descending then rows.filter (!k.lacks ·) ++ rows.filter k.lacks
      else rows.filter k.lacks ++ rows.filter (!k.lacks ·) := by
  have hlacks := h.imp fun hrs => InOrder.lacks hrs
  cases hdescending : k.descending with
  | true =>
    simp only [hdescending, if_true] at hlacks ⊢
    have hdown : rows.Pairwise fun r s => (!k.lacks s) = true → (!k.lacks r) = true :=
      hlacks.imp fun hrs => by simpa using mt hrs
    simpa using (Sorting.filter_append_filter_not hdown).symm
  | false =>
    simp only [hdescending, Bool.false_eq_true, if_false] at hlacks ⊢
    exact (Sorting.filter_append_filter_not hlacks).symm

/-! ## The sorted records -/

/-- Records whose values are in a total preorder are sorted. They come in the order of the key,
those without a value first, or last if the key descends, and those that tie with a record come in
the order in which they were. To filter the sorted records by a test that does not fail gives what
sorting the filtered records gives. -/
theorem apply_stable (h : k.IsPreorder rows) :
    ∃ sorted, k.apply rows = .ok sorted ∧ sorted.Perm rows ∧ k.Arranged sorted ∧
      (sorted = if k.descending then sorted.filter (!k.lacks ·) ++ sorted.filter k.lacks
        else sorted.filter k.lacks ++ sorted.filter (!k.lacks ·)) ∧
      (∀ r ∈ rows, sorted.filter (k.ties r) = rows.filter (k.ties r)) ∧
      ∀ test : α → Except Fault Bool, (∀ r ∈ rows, ∃ b, test r = .ok b) →
        ∃ found, sorted.filterM test = .ok found ∧
          (rows.filterM test >>= k.apply) = .ok found := by
  obtain ⟨le, htrans, htotal, hdecided⟩ := h.exists_isDecidedBy
  have htrans' := directed_trans (k := k) htrans
  have htotal' := directed_total (k := k) htotal
  have hperm : (rows.mergeSort (k.directed le)).Perm rows := List.mergeSort_perm ..
  have hsub {xs : List α} (hxs : xs ⊆ rows) : k.IsDecidedBy xs le := fun r hr s hs =>
    hdecided r (hxs hr) s (hxs hs)
  have harranged : k.Arranged (rows.mergeSort (k.directed le)) :=
    (arranged_iff (hsub hperm.subset)).2 (List.pairwise_mergeSort htrans' htotal' rows)
  refine ⟨_, apply_eq_mergeSort htrans htotal hdecided, hperm, harranged, harranged.eq_ends,
    fun r hr => ?_, fun test htest => ?_⟩
  · refine Sorting.filter_mergeSort htrans' htotal' fun s hs t ht hrs hrt => ?_
    rw [ties_iff hdecided hr hs] at hrs
    rw [ties_iff hdecided hr ht] at hrt
    exact Sorting.le_of_ties htrans' hrs hrt
  · let holds (r : α) : Bool := test r = .ok true
    have hholds : ∀ r ∈ rows, test r = .ok (holds r) := fun r hr => by
      obtain ⟨b, hb⟩ := htest r hr
      cases b <;> simp [holds, hb]
    refine ⟨_, filterM_ok fun r hr => hholds r (hperm.subset hr), ?_⟩
    rw [filterM_ok hholds, ← Sorting.mergeSort_filter htrans' htotal']
    exact apply_eq_mergeSort htrans htotal (hsub (List.filter_sublist).subset)

/-- Integers, a decimal that is equal to one of them, and no number, in descending order. -/
theorem apply_stable_mixed :
    let k : SortKey := ⟨⟨"weight", .numeric, some .decimal, true, .entry, false⟩, true⟩
    let first : Record := ⟨[("weight", .int 1)]⟩
    let rows : List Record := [⟨[("weight", .null)]⟩, first,
      ⟨[("weight", .decimal (.finite false 10 (-1)))]⟩, ⟨[("weight", .int 2)]⟩]
    k.IsPreorder rows ∧ ∃ sorted, k.apply rows = .ok sorted ∧ k.Arranged sorted ∧
      sorted = sorted.filter (!k.lacks ·) ++ sorted.filter k.lacks ∧
      sorted.filter (k.ties first) = [first, ⟨[("weight", .decimal (.finite false 10 (-1)))]⟩] ∧
      ∃ found, sorted.filterM (fun r => (k.field.read r).map (!·.isNull)) = .ok found ∧
        (rows.filterM (fun r => (k.field.read r).map (!·.isNull)) >>= k.apply) = .ok found := by
  intro k first rows
  let values : List Value := [.null, .int 1, .decimal (.finite false 10 (-1)), .int 2]
  have hread : ∀ r ∈ rows, ∃ v ∈ values, k.field.readNormal r = .ok v := by
    simp only [rows, List.forall_mem_cons]
    exact ⟨⟨_, by simp [values], rfl⟩, ⟨_, by simp [values], rfl⟩, ⟨_, by simp [values], rfl⟩,
      ⟨_, by simp [values], rfl⟩, nofun⟩
  have hvalues {v : Value} (h : ∃ r ∈ rows, k.field.readNormal r = .ok v) : v ∈ values := by
    obtain ⟨r, hr, hv⟩ := h
    obtain ⟨w, hw, hw'⟩ := hread r hr
    cases hv.symm.trans hw'
    exact hw
  have htwo : ∀ v ∈ values, ∀ w ∈ values,
      precedes v w = .ok true ∧ precedes w v = .ok false ∨ precedes v w = .ok false := by
    decide
  have hthree : ∀ u ∈ values, ∀ v ∈ values, ∀ w ∈ values,
      precedes v u = .ok false → precedes w v = .ok false → precedes w u = .ok false := by
    decide
  have hpreorder : k.IsPreorder rows :=
    { readable := fun r hr => (hread r hr).imp fun v hv => hv.2
      isOrder :=
        { comparable := fun v w hv hw => (htwo v (hvalues hv) w (hvalues hw)).elim
            (fun h => ⟨true, h.1⟩) fun h => ⟨false, h⟩
          asymm := fun {v w} hv hw hlt => (htwo v (hvalues hv) w (hvalues hw)).elim
            (fun h => h.2) fun h => by cases hlt.symm.trans h
          trans := fun {u v w} hu hv hw => hthree u (hvalues hu) v (hvalues hv) w (hvalues hw) } }
  obtain ⟨sorted, hsorted, -, harranged, hends, hties, hfilter⟩ := apply_stable hpreorder
  refine ⟨hpreorder, sorted, hsorted, harranged, hends, ?_, hfilter _ fun r hr => ?_⟩
  · rw [hties first (by simp [rows])]
    rfl
  · obtain ⟨v, hv⟩ : ∃ v, k.field.read r = .ok v := by
      revert r
      simp only [rows, List.forall_mem_cons]
      exact ⟨⟨_, rfl⟩, ⟨_, rfl⟩, ⟨_, rfl⟩, ⟨_, rfl⟩, nofun⟩
    exact ⟨!v.isNull, by rw [hv]; rfl⟩

end SortKey

end RecordQuery
