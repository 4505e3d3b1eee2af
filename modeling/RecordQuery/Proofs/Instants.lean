import RecordQuery.Proofs.Condition.WellFormed
import RecordQuery.Proofs.Sorting.Blocks

/-!
# Records that denote the same instants

A field of moments is compared by instants alone. Two records concur (`Schema.Concurs`) if they hold
the same in every field, except that in a field of moments they may hold date-times of one instant
with different clocks and offsets. A condition from criteria does not tell such records apart
(`Condition.IsFormed.holds_eq`), and sorting puts them in the same places
(`Schema.instants_decide`).
-/

namespace RecordQuery

open Time

variable {α β : Type} [Readable α] [Readable β] {schema : Schema} {cs : List Criterion} {f : Field}
  {r : α} {s : β}

/-! ## Fields of moments -/

namespace Field

/-- The field holds date-times and is not one of dates. -/
def holdsMoments (f : Field) : Bool := f.kind = .dateTime ∧ f.type? ≠ some .date

/-- The two records hold the same in the field, or date-times of one instant if it is a field of
moments. -/
def Concurs (f : Field) (r : α) (s : β) : Prop :=
  f.read r = f.read s ∨ f.holdsMoments = true ∧
    ∃ t u, f.read r = .ok (.dateTime t) ∧ f.read s = .ok (.dateTime u) ∧ t.instant = u.instant

namespace Concurs

variable (h : f.Concurs r s)

include h

/-- Records that concur have the same value in the shape of literals. -/
theorem readNormal_eq : f.readNormal r = f.readNormal s := by
  rw [readNormal, readNormal]
  rcases h with h | ⟨hmoments, t, u, ht, hu, hinstant⟩
  · rw [h]
  · obtain ⟨hkind, htype⟩ := of_decide_eq_true hmoments
    rw [ht, hu]
    show f.normalize (.dateTime t) = f.normalize (.dateTime u)
    simp only [normalize, hkind, if_neg htype, Literal.universal,
      DateTime.toUtc?_eq_of_instant_eq hinstant]

/-- Where one of two records that concur has no value, the other has none. -/
theorem isNull_eq : (f.read r).map Value.isNull = (f.read s).map Value.isNull := by
  rcases h with h | ⟨-, t, u, ht, hu, -⟩
  · rw [h]
  · rw [ht, hu]
    rfl

/-- Outside of fields of moments, records that concur hold the same. -/
theorem read_eq (hmoments : f.holdsMoments = false) : f.read r = f.read s := by
  rcases h with h | ⟨hmoments', -⟩
  · exact h
  · cases hmoments.symm.trans hmoments'

/-- A comparison does not tell records that concur apart. One that looks into texts takes the value
of a record as it is. -/
theorem holds_eq {operator : Operator} {literal : Value}
    (hmatch : operator.isTextMatch = true → f.holdsMoments = false) :
    Comparison.holds f operator literal r = Comparison.holds f operator literal s := by
  cases operator with
  | contains | startsWith | endsWith => simp only [Comparison.holds, h.read_eq (hmatch rfl)]
  | isNull => exact h.isNull_eq
  | isNotNull =>
    have hnot (e : Except Fault Value) :
        e.map (fun v => !v.isNull) = (e.map Value.isNull).map (!·) := by
      cases e <;> rfl
    simp only [Comparison.holds, hnot, h.isNull_eq]
  | oneOf => rfl
  | equals | notEquals | greaterThan | greaterThanOrEqual | lessThan | lessThanOrEqual =>
    simp only [Comparison.holds, h.readNormal_eq]

end Concurs

end Field

/-- The two records differ in nothing but the clocks and offsets of moments. -/
def Schema.Concurs (schema : Schema) (r : α) (s : β) : Prop := ∀ f ∈ schema.fields, f.Concurs r s

/-! ## Conditions and sorts -/

/-- A condition from criteria does not tell records that concur apart. -/
theorem Condition.IsFormed.holds_eq {condition : Condition} (h : condition.IsFormed schema cs)
    (hconcurs : schema.Concurs r s) : condition.holds r = condition.holds s := by
  have hfield {property : String} {f : Field} (hf : schema.resolve? property = some f) :
      f.Concurs r s := hconcurs f (List.mem_of_find?_eq_some hf)
  induction h with
  | const outcome => rfl
  | nullTest hc hf hoperator hnullable =>
    refine (hfield hf).holds_eq fun hmatch => ?_
    cases (Operator.of_isNullCheck hoperator).1.symm.trans hmatch
  | textMatch hc hf hoperator hkind htext =>
    refine (hfield hf).holds_eq fun _ => ?_
    simp [Field.holdsMoments, hkind]
  | literal hc hf hoperator htext hliteral =>
    refine (hfield hf).holds_eq fun hmatch => ?_
    cases (Operator.of_isRelational hoperator).1.symm.trans hmatch
  | and _ _ hleft hright => rw [Condition.holds, Condition.holds, hleft, hright]
  | or _ _ hleft hright => rw [Condition.holds, Condition.holds, hleft, hright]

/-- Records that concur pairwise are sorted in pairs: both sorts fail alike, or the records at one
place of the results concur as they did before. -/
theorem SortKey.exists_apply_zip {k : SortKey} {rows : List α} {others : List β}
    (hconcurs : List.Forall₂ k.field.Concurs rows others) :
    (∃ e, k.apply rows = .error e ∧ k.apply others = .error e) ∨
      ∃ sorted : List (α × β), sorted.Perm (rows.zip others) ∧
        k.apply rows = .ok (sorted.map (·.1)) ∧ k.apply others = .ok (sorted.map (·.2)) := by
  have hfst : (rows.zip others).map (·.1) = rows :=
    List.map_fst_zip (Nat.le_of_eq hconcurs.length_eq)
  have hsnd : (rows.zip others).map (·.2) = others :=
    List.map_snd_zip (Nat.le_of_eq hconcurs.length_eq.symm)
  have hpairs : ∀ x ∈ rows.zip others, k.field.Concurs x.1 x.2 :=
    fun x hx => (List.forall₂_iff_zip.1 hconcurs).2 hx
  -- a pair is read as its second record
  have hleft := apply_map (k := k) (f := Prod.fst) fun x hx => (hpairs x hx).readNormal_eq
  have hright := apply_map (k := k) (f := Prod.snd) fun x (_ : x ∈ rows.zip others) => rfl
  rw [hfst] at hleft
  rw [hsnd] at hright
  cases hsorted : k.apply (rows.zip others) with
  | error e =>
    rw [hsorted] at hleft hright
    exact .inl ⟨e, hleft, hright⟩
  | ok sorted =>
    rw [hsorted] at hleft hright
    exact .inr ⟨sorted, perm_of_apply hsorted, hleft, hright⟩

/-- Records that concur pairwise have the same answers to every filter of their schema, and sorting
by a field of the schema puts those that concur in the same places. -/
theorem Schema.instants_decide {rows : List α} {others : List β}
    (hconcurs : List.Forall₂ schema.Concurs rows others) :
    (∀ cs selection, Selection.ofCriteria schema cs = .ok selection →
      rows.map selection.selects = others.map selection.selects) ∧
    ∀ k : SortKey, k.field ∈ schema.fields →
      (∃ e, k.apply rows = .error e ∧ k.apply others = .error e) ∨
        ∃ sorted : List (α × β), sorted.Perm (rows.zip others) ∧
          k.apply rows = .ok (sorted.map (·.1)) ∧ k.apply others = .ok (sorted.map (·.2)) := by
  refine ⟨fun cs selection hselection => ?_, fun k hk => ?_⟩
  · have hformed := Condition.isFormed_ofCriteria (Selection.condition_of_ofCriteria hselection)
    rw [← List.forall₂_eq_eq_eq, List.forall₂_map_left_iff, List.forall₂_map_right_iff]
    exact hconcurs.imp fun r s hrs => hformed.holds_eq hrs
  · exact SortKey.exists_apply_zip (hconcurs.imp fun r s hrs => hrs k.field hk)

/-- New Year at universal time and a second before it, without an offset and at the offset of half
an hour, next to the same moments across the end of the year. -/
theorem Schema.instants_decide_newYear :
    let midnight : DateTime := ⟨⟨2024, 1, 1, by decide⟩, .midnight, none⟩
    let late (micros : Nat) (h : micros < dayMicros) (offset? : Option Offset) : Record :=
      ⟨[("at", .dateTime ⟨⟨2023, 12, 31, by decide⟩, ⟨micros, h⟩, offset?⟩)]⟩
    let rows : List Record := [⟨[("at", .dateTime midnight)]⟩,
      late 86399000000 (by decide) none, ⟨[("at", .null)]⟩]
    let others : List Record := [late 84600000000 (by decide) (Offset.of? (-1800000000)),
      late 84599000000 (by decide) (Offset.of? (-1800000000)), ⟨[("at", .null)]⟩]
    let c : Criterion := ⟨"At", .greaterThanOrEqual, .text "2024-01-01", .none⟩
    List.Forall₂ events.Concurs rows others ∧
      (∃ selection, Selection.ofCriteria events [c] = .ok selection ∧
        rows.map selection.selects = [.ok true, .ok false, .ok false] ∧
        others.map selection.selects = [.ok true, .ok false, .ok false]) ∧
      ∃ sorted : List (Record × Record), sorted.Perm (rows.zip others) ∧
        (SortKey.mk momentField true).apply rows = .ok (sorted.map (·.1)) ∧
        (SortKey.mk momentField true).apply others = .ok (sorted.map (·.2)) := by
  intro midnight late rows others c
  have hmoment (r s : Record) (t u : DateTime) (ht : momentField.read r = .ok (.dateTime t))
      (hu : momentField.read s = .ok (.dateTime u)) (h : t.instant = u.instant) :
      events.Concurs r s :=
    List.forall_mem_singleton.2 (.inr ⟨rfl, t, u, ht, hu, h⟩)
  have hconcurs : List.Forall₂ events.Concurs rows others :=
    .cons (hmoment _ _ _ _ rfl rfl (by decide)) (.cons (hmoment _ _ _ _ rfl rfl (by decide))
      (.cons (List.forall_mem_singleton.2 (.inl rfl)) .nil))
  obtain ⟨hanswers, hsort⟩ := instants_decide hconcurs
  have hselection : ∃ selection, Selection.ofCriteria events [c] = .ok selection ∧
      rows.map selection.selects = [.ok true, .ok false, .ok false] := by
    let literal : Value := .dateTime { midnight with offset? := some .utc }
    have hcondition : Condition.ofCriteria events [c] =
        .ok (.compare momentField .greaterThanOrEqual literal) := by
      decide
    refine ⟨⟨"Event", .compare momentField .greaterThanOrEqual literal, rfl⟩, ?_, ?_⟩
    · rw [Selection.ofCriteria, hcondition]
      rfl
    · decide
  obtain ⟨selection, hselection, hrows⟩ := hselection
  refine ⟨hconcurs, ⟨selection, hselection, hrows, ?_⟩, ?_⟩
  · rw [← hanswers [c] selection hselection, hrows]
  · have hok : ((SortKey.mk momentField true).apply rows).toBool = true := by decide
    rcases hsort ⟨momentField, true⟩ (by simp [events]) with ⟨e, he, -⟩ | h
    · rw [he] at hok
      cases hok
    · exact h

end RecordQuery
