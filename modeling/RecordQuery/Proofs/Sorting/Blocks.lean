import RecordQuery.Proofs.Condition.Answer
import RecordQuery.Proofs.Sorting.Arranged

/-!
# Sorted records in blocks

Sorting and filtering use one order. In the list that is sorted by a field, a literal of the field
parts the records into blocks: those without a value, those below the literal, those equal to it and
those above it (`SortKey.apply_eq_blocks`). Both the sort and the filter compare what the records
hold by the same key of a linear order, with no value below all of them (`Field.rank`).
-/

namespace RecordQuery

open Time

/-! ## Blocks of a list in order -/

namespace Sorting

variable {α γ : Type} [LinearOrder γ] {xs : List α}

/-- A list of which no element has a property that an earlier one lacks falls into those that have
it and those that lack it. -/
theorem filter_append_filter_not {q : α → Bool}
    (h : xs.Pairwise fun a b => q b = true → q a = true) :
    xs.filter q ++ xs.filter (!q ·) = xs := by
  induction xs with
  | nil => rfl
  | cons x xs ih =>
    obtain ⟨hx, hxs⟩ := List.pairwise_cons.1 h
    cases hq : q x with
    | true => simp [hq, ih hxs]
    | false =>
      have hnone : ∀ y ∈ xs, q y = false := fun y hy =>
        Bool.eq_false_iff.2 fun hqy => Bool.false_ne_true (hq.symm.trans (hx y hy hqy))
      have hnil : xs.filter q = [] := List.filter_eq_nil_iff.2 fun y hy => by simp [hnone y hy]
      have hself : xs.filter (!q ·) = xs := List.filter_eq_self.2 fun y hy => by simp [hnone y hy]
      simp [hq, hnil, hself]

variable {rank : α → γ} {least bound : γ} (h : xs.Pairwise fun a b => rank a ≤ rank b)

include h

/-- In the order of a rank, the elements of least rank come first. -/
theorem filter_eq_append_filter_lt (hleast : ∀ x ∈ xs, least ≤ rank x) :
    xs.filter (rank · = least) ++ xs.filter (least < rank ·) = xs := by
  have hnot : xs.filter (fun x => !decide (rank x = least)) = xs.filter (least < rank ·) :=
    List.filter_congr fun x hx => by
      rw [← decide_not, decide_eq_decide, (hleast x hx).lt_iff_ne', ne_eq]
  have hdown : xs.Pairwise fun a b => decide (rank b = least) = true →
      decide (rank a = least) = true :=
    h.imp_of_mem fun ha _ hab hb =>
      decide_eq_true ((hab.trans (of_decide_eq_true hb).le).antisymm (hleast _ ha))
  rw [← hnot, filter_append_filter_not hdown]

/-- In the order of a rank, the elements below a bound come first. -/
theorem filter_lt_append_filter_le (bound : γ) :
    xs.filter (rank · < bound) ++ xs.filter (bound ≤ rank ·) = xs := by
  have hnot : xs.filter (fun x => !decide (rank x < bound)) = xs.filter (bound ≤ rank ·) :=
    List.filter_congr fun x _ => by rw [← decide_not, decide_eq_decide, not_lt]
  have hdown : xs.Pairwise fun a b => decide (rank b < bound) = true →
      decide (rank a < bound) = true :=
    h.imp fun hab hb => decide_eq_true (hab.trans_lt (of_decide_eq_true hb))
  rw [← hnot, filter_append_filter_not hdown]

/-- A list in the order of a rank falls into the elements of least rank, those between this rank and
a bound, those at the bound and those above it. -/
theorem eq_blocks (hbound : least < bound) (hleast : ∀ x ∈ xs, least ≤ rank x) :
    xs = xs.filter (rank · = least) ++ (xs.filter (fun x => least < rank x ∧ rank x < bound) ++
      (xs.filter (rank · = bound) ++ xs.filter (bound < rank ·))) := by
  have hthird := filter_lt_append_filter_le (h.filter (least < rank ·)) bound
  have hfrom : ∀ x ∈ (xs.filter (least < rank ·)).filter (bound ≤ rank ·), bound ≤ rank x :=
    fun x hx => by simpa using (List.mem_filter.1 hx).2
  have hfourth := filter_eq_append_filter_lt
    ((h.filter (least < rank ·)).filter (bound ≤ rank ·)) hfrom
  simp only [List.filter_filter] at hthird hfourth
  conv_lhs => rw [← filter_eq_append_filter_lt h hleast, ← hthird, ← hfourth]
  refine congrArg₂ _ rfl (congrArg₂ _ ?_ (congrArg₂ _ ?_ ?_))
  · refine List.filter_congr fun x _ => ?_
    rw [Bool.decide_and, Bool.and_comm]
  · refine List.filter_congr fun x _ => ?_
    rw [Bool.and_eq_left_iff_imp, decide_eq_true_eq]
    rintro rfl
    simpa using hbound
  · refine List.filter_congr fun x _ => ?_
    rw [Bool.and_eq_left_iff_imp, decide_eq_true_eq]
    intro habove
    simpa using ⟨habove.le, hbound.trans habove⟩

end Sorting

/-! ## Ranks -/

variable {α β : Type} [Readable α] {schema : Schema} {property text : String} {f : Field}
  {kind : OrderKind} {v w : Value} {r : α} {rows : List α}

/-- The key of a value, with no value below all of them. -/
def Value.rank (key : Value → β) (v : Value) : WithBot β := if v.isNull then ⊥ else key v

/-- No value has the least rank. -/
theorem Value.rank_null {key : Value → β} : Value.null.rank key = ⊥ := rfl

/-- The rank of a value is its key. -/
theorem Value.IsProper.rank_eq {key : Value → β} (h : v.IsProper kind) : v.rank key = key v := by
  rw [rank, h.isNull]
  rfl

namespace Field

/-- The rank of what a record holds in a field. -/
def rank (key : Value → β) (f : Field) (r : α) : WithBot β :=
  match f.readNormal r with
  | .ok v => v.rank key
  | .error _ => ⊥

/-- The record holds no value in the field, or one of the type of the field. -/
def IsOwnOrNull (f : Field) (r : α) : Prop := ∃ v, f.read r = .ok v ∧ (v = .null ∨ f.IsOwn v)

variable (h : f.IsOwnOrNull r) (hkind : f.orderKind? = some kind)

include h hkind

/-- What a record holds is read as no value or as one of the kind of the field. -/
theorem IsOwnOrNull.exists_readNormal :
    ∃ v, f.readNormal r = .ok v ∧
      (f.read r = .ok .null ∧ v = .null ∨ f.read r ≠ .ok .null ∧ v.IsProper kind) := by
  obtain ⟨v, hread, rfl | hown⟩ := h
  · refine ⟨.null, ?_, .inl ⟨hread, rfl⟩⟩
    rw [readNormal, hread]
    exact normalize_null f
  · obtain ⟨w, hw, hproper⟩ := hown.exists_readNormal hread hkind
    refine ⟨w, hw, .inr ⟨fun hnull => ?_, hproper⟩⟩
    rw [readNormal, hnull] at hw
    cases (normalize_null f).symm.trans hw
    cases hproper.orderKind?

/-- A record holds no value if its rank is the least one. -/
theorem IsOwnOrNull.rank_eq_bot_iff (key : Value → β) :
    f.rank key r = ⊥ ↔ f.read r = .ok .null := by
  obtain ⟨v, hv, ⟨hread, rfl⟩ | ⟨hread, hproper⟩⟩ := h.exists_readNormal hkind
  · rw [rank, hv]
    exact iff_of_true rfl hread
  · rw [rank, hv]
    exact iff_of_false (by simp [hproper.rank_eq]) hread

end Field

/-! ## Sorting by ranks -/

section Order

variable [LinearOrder β] {key : Value → β} (hkey : Value.IsKey kind key)

include hkey

/-- Values of one kind are sorted by their ranks. -/
theorem SortKey.precedes_eq_rank (hv : v = .null ∨ v.IsProper kind)
    (hw : w = .null ∨ w.IsProper kind) :
    precedes v w = .ok (decide (v.rank key < w.rank key)) := by
  have hnull : Value.null.isNull = true := rfl
  rcases hv with rfl | hv
  · rcases hw with rfl | hw
    · simp [precedes, hnull]
    · simp [precedes, hnull, hw.isNull, Value.rank_null, hw.rank_eq]
  · rcases hw with rfl | hw
    · simp [precedes, hnull, hv.isNull, Value.rank_null]
    · have hlt : decide ((key v : WithBot β) < key w) = (cmp (key v) (key w) == .lt) := by
        rw [Bool.eq_iff_iff, decide_eq_true_eq, WithBot.coe_lt_coe, beq_iff_eq, cmp_eq_lt_iff]
      rw [precedes, hv.isNull, hw.isNull, hkey v w hv hw, hv.rank_eq, hw.rank_eq, hlt]
      cases cmp (key v) (key w) <;> rfl

namespace SortKey

variable {k : SortKey}

/-- The rank of the second record is at least that of the first. -/
def ranksInOrder (k : SortKey) (key : Value → β) (r s : α) : Bool :=
  k.field.rank key r ≤ k.field.rank key s

/-- The ranks tell which value precedes which. -/
theorem isDecidedBy_ranks (hkind : k.field.orderKind? = some kind)
    (hrows : ∀ r ∈ rows, k.field.IsOwnOrNull r) : k.IsDecidedBy rows (k.ranksInOrder key) := by
  intro r hr s hs
  obtain ⟨v, hv, hvkind⟩ := (hrows r hr).exists_readNormal hkind
  obtain ⟨w, hw, hwkind⟩ := (hrows s hs).exists_readNormal hkind
  refine ⟨v, w, hv, hw, ?_⟩
  rw [precedes_eq_rank hkey (hvkind.imp And.right And.right)
    (hwkind.imp And.right And.right), ranksInOrder, ← decide_not, Field.rank, Field.rank, hv,
    hw]
  simp only [not_le]

/-- Records are sorted by their ranks, in the direction of the key. -/
theorem exists_apply (hkind : k.field.orderKind? = some kind)
    (hrows : ∀ r ∈ rows, k.field.IsOwnOrNull r) :
    ∃ sorted, k.apply rows = .ok sorted ∧ sorted.Perm rows ∧
      (if k.descending then sorted.reverse else sorted).Pairwise fun r s =>
        k.field.rank key r ≤ k.field.rank key s := by
  have htrans : ∀ r s t : α, k.ranksInOrder key r s = true → k.ranksInOrder key s t = true →
      k.ranksInOrder key r t = true := fun r s t hrs hst =>
    decide_eq_true ((of_decide_eq_true hrs).trans (of_decide_eq_true hst))
  have htotal : ∀ r s : α, (k.ranksInOrder key r s || k.ranksInOrder key s r) = true :=
    fun r s => by
      rw [Bool.or_eq_true, ranksInOrder, ranksInOrder, decide_eq_true_eq, decide_eq_true_eq]
      exact le_total _ _
  refine ⟨_, apply_eq_mergeSort htrans htotal (isDecidedBy_ranks hkey hkind hrows),
    List.mergeSort_perm .., ?_⟩
  cases hdescending : k.descending with
  | false =>
    have hdirected : k.directed (k.ranksInOrder key) = k.ranksInOrder (α := α) key := by
      funext r s
      rw [directed, hdescending]
      rfl
    rw [hdirected]
    exact (List.pairwise_mergeSort htrans htotal rows).imp of_decide_eq_true
  | true =>
    have hdirected : k.directed (k.ranksInOrder key) =
        fun r s : α => k.ranksInOrder key s r := by
      funext r s
      rw [directed, hdescending]
      rfl
    rw [hdirected, ← Sorting.reverse_mergeSort_reverse htrans htotal, if_pos rfl,
      List.reverse_reverse]
    exact (List.pairwise_mergeSort htrans htotal rows.reverse).imp of_decide_eq_true

end SortKey

/-! ## Blocks of sorted records -/

/-- The record satisfies the comparison of a property with the literal of a text. -/
def Schema.affirms (schema : Schema) (property : String) (operator : Operator) (text : String)
    (r : α) : Bool := schema.answer property operator text r = .ok true

section Answers

variable (hresolve : schema.resolve? property = some f) (hkind : f.orderKind? = some kind)
  (hliteral : f.literal text = .ok w) (hw : w.isNaN = false)

include hresolve hkind hliteral hw

/-- The answers about a record are those of its rank. -/
theorem Schema.answer_eq_rank (hr : f.IsOwnOrNull r) :
    schema.answer property .lessThan text r =
        .ok (decide (⊥ < f.rank key r ∧ f.rank key r < key w)) ∧
      schema.answer property .equals text r = .ok (decide (f.rank key r = key w)) ∧
      schema.answer property .greaterThan text r = .ok (decide (key w < f.rank key r)) := by
  obtain ⟨v, hv, ⟨hread, rfl⟩ | ⟨-, hproper⟩⟩ := hr.exists_readNormal hkind
  · have hanswer (operator : Operator) (hoperator : operator.isRelational = true) :=
      answer_null hresolve hliteral hoperator hread
    rw [(hr.rank_eq_bot_iff hkind key).2 hread, hanswer _ rfl, hanswer _ rfl, hanswer _ rfl]
    simp
  · have hanswer (operator : Operator) (hoperator : operator.isRelational = true) :=
      answer_eq_cmp hresolve hliteral hoperator hkey hkind hw hv hproper
    have hrank : f.rank key r = key v := by
      rw [Field.rank, hv]
      exact hproper.rank_eq
    obtain ⟨hlt, heq, hgt, -⟩ := Operator.isMet_cmp (key v) (key w)
    rw [hrank, hanswer _ rfl, hanswer _ rfl, hanswer _ rfl, hlt, heq, hgt]
    simp

/-- Records in the order of their ranks are parted by the literal. -/
theorem Schema.eq_blocks_of_rank (hrows : ∀ r ∈ rows, f.IsOwnOrNull r)
    (hpairs : rows.Pairwise fun r s => f.rank key r ≤ f.rank key s) :
    rows = rows.filter (fun r => f.read r = .ok .null) ++
      (rows.filter (schema.affirms property .lessThan text) ++
        (rows.filter (schema.affirms property .equals text) ++
          rows.filter (schema.affirms property .greaterThan text))) := by
  have hanswers (r : α) (hr : r ∈ rows) :=
    answer_eq_rank hkey hresolve hkind hliteral hw (hrows r hr)
  conv_lhs => rw [Sorting.eq_blocks hpairs (WithBot.bot_lt_coe (key w)) fun _ _ => bot_le]
  refine congrArg₂ _ ?_ (congrArg₂ _ ?_ (congrArg₂ _ ?_ ?_))
  · refine List.filter_congr fun r hr => ?_
    rw [decide_eq_decide, (hrows r hr).rank_eq_bot_iff hkind]
  · refine List.filter_congr fun r hr => ?_
    simp [affirms, (hanswers r hr).1]
  · refine List.filter_congr fun r hr => ?_
    simp [affirms, (hanswers r hr).2.1]
  · refine List.filter_congr fun r hr => ?_
    simp [affirms, (hanswers r hr).2.2]

end Answers

end Order

/-- A literal of a field parts the records that are sorted by the field into four blocks: those
without a value, those below the literal, those equal to it and those above it. If the sort
descends, the blocks come in the opposite order. -/
theorem SortKey.apply_eq_blocks (hresolve : schema.resolve? property = some f)
    (hkind : f.orderKind? = some kind) (hliteral : f.literal text = .ok w) (hw : w.isNaN = false)
    (hrows : ∀ r ∈ rows, f.IsOwnOrNull r) :
    let missing (r : α) : Bool := f.read r = .ok .null
    let below : α → Bool := schema.affirms property .lessThan text
    let equal : α → Bool := schema.affirms property .equals text
    let above : α → Bool := schema.affirms property .greaterThan text
    (∀ r ∈ rows, ∀ operator, operator.isRelational = true →
      ∃ b, schema.answer property operator text r = .ok b) ∧
    (∃ sorted, (SortKey.mk f false).apply rows = .ok sorted ∧ sorted.Perm rows ∧
      sorted = sorted.filter missing ++ (sorted.filter below ++
        (sorted.filter equal ++ sorted.filter above))) ∧
    ∃ sorted, (SortKey.mk f true).apply rows = .ok sorted ∧ sorted.Perm rows ∧
      sorted = sorted.filter above ++ (sorted.filter equal ++
        (sorted.filter below ++ sorted.filter missing)) := by
  intro missing below equal above
  obtain ⟨β, _, key, hkey⟩ := Value.exists_key kind
  have hblocks {xs : List α} (hperm : xs.Perm rows)
      (hpairs : xs.Pairwise fun r s => f.rank key r ≤ f.rank key s) :
      xs = xs.filter missing ++ (xs.filter below ++ (xs.filter equal ++ xs.filter above)) :=
    Schema.eq_blocks_of_rank hkey hresolve hkind hliteral hw
      (fun r hr => hrows r (hperm.mem_iff.1 hr)) hpairs
  refine ⟨fun r hr operator hoperator => ?_, ?_, ?_⟩
  · obtain ⟨v, hv, ⟨hread, -⟩ | ⟨-, hproper⟩⟩ := (hrows r hr).exists_readNormal hkind
    · exact ⟨_, Schema.answer_null hresolve hliteral hoperator hread⟩
    · exact ⟨_, Schema.answer_eq_cmp hresolve hliteral hoperator hkey hkind hw hv hproper⟩
  · obtain ⟨sorted, happly, hperm, hpairs⟩ := exists_apply (k := ⟨f, false⟩) hkey hkind hrows
    exact ⟨sorted, happly, hperm, hblocks hperm hpairs⟩
  · obtain ⟨sorted, happly, hperm, hpairs⟩ := exists_apply (k := ⟨f, true⟩) hkey hkind hrows
    refine ⟨sorted, happly, hperm, ?_⟩
    -- in reverse, a list that descends is parted as one that ascends
    have hreverse := congrArg List.reverse (hblocks ((List.reverse_perm sorted).trans hperm) hpairs)
    simpa [← List.filter_reverse] using hreverse

/-- A field that holds moments. -/
def momentField : Field := ⟨"at", .dateTime, some .dateTime, true, .entry, false⟩

/-- A schema with this field alone. -/
def events : Schema where
  name := "Event"
  fields := [momentField]
  distinct := by
    unfold DistinctKeys
    decide

/-- A moment without an offset, no moment, and two moments of one wall clock at different
offsets. -/
theorem SortKey.apply_eq_blocks_offsets :
    let midnight : DateTime := ⟨⟨2024, 1, 10, by decide⟩, .midnight, none⟩
    let rows : List Record := [⟨[("at", .dateTime midnight)]⟩, ⟨[("at", .null)]⟩,
      ⟨[("at", .dateTime { midnight with offset? := Offset.of? 3600000000 })]⟩,
      ⟨[("at", .dateTime { midnight with offset? := Offset.of? (-3600000000) })]⟩]
    let w : Value := .dateTime { midnight with offset? := some .utc }
    events.resolve? "At" = some momentField ∧ momentField.orderKind? = some (.dateTime true) ∧
      momentField.literal "2024-01-10" = .ok w ∧ w.isNaN = false ∧
      (∀ r ∈ rows, momentField.IsOwnOrNull r) ∧
      ∃ sorted, (SortKey.mk momentField false).apply rows = .ok sorted ∧ sorted.Perm rows ∧
        sorted = sorted.filter (fun r => momentField.read r = .ok .null) ++
          (sorted.filter (events.affirms "At" .lessThan "2024-01-10") ++
            (sorted.filter (events.affirms "At" .equals "2024-01-10") ++
              sorted.filter (events.affirms "At" .greaterThan "2024-01-10"))) := by
  intro midnight rows w
  have hresolve : events.resolve? "At" = some momentField := by decide
  have hliteral : momentField.literal "2024-01-10" = .ok w := by decide
  have hmoment (t : DateTime) (ht : InCalendar t.instant) : momentField.IsOwn (.dateTime t) :=
    ⟨⟨.dateTime true, rfl, _, rfl⟩, ht, rfl⟩
  have hrows : ∀ r ∈ rows, momentField.IsOwnOrNull r := by
    simp only [rows, List.forall_mem_cons]
    exact ⟨⟨_, rfl, .inr (hmoment _ (by decide))⟩, ⟨_, rfl, .inl rfl⟩,
      ⟨_, rfl, .inr (hmoment _ (by decide))⟩, ⟨_, rfl, .inr (hmoment _ (by decide))⟩, nofun⟩
  exact ⟨hresolve, rfl, hliteral, rfl, hrows,
    (apply_eq_blocks hresolve rfl hliteral rfl hrows).2.1⟩

end RecordQuery
