import RecordQuery.Value.Relation

/-!
# Values that can be compared

Two values have an order if they are of one kind, as far as order is concerned, and no NaN meets a
decimal (`Value.exists_satisfies_iff`). They can be tested for equality unless they are numbers and
one of them is a NaN that signals (`Value.exists_equal_iff`).
-/

namespace RecordQuery

open Number

/-- The kinds of values between which there is an order. -/
inductive OrderKind where
  /-- Numbers and truth values. -/
  | number
  /-- Texts and members that stand for texts. -/
  | text
  /-- Identifiers. -/
  | guid
  /-- Dates. -/
  | date
  /-- Dates with a time of day, with an offset or without one. -/
  | dateTime (aware : Bool)
  deriving DecidableEq

namespace Value

/-- The kind of a value that has an order to others. -/
def orderKind? : Value → Option OrderKind
  | bool _ | int _ | float _ | decimal _ | fraction _ => some .number
  | guid _ => some .guid
  | date _ => some .date
  | dateTime t => some (.dateTime t.offset?.isSome)
  | v => v.text?.map fun _ => .text

/-- The value is a decimal. -/
def isDecimal : Value → Bool
  | decimal _ => true
  | _ => false

/-- The value is a NaN. -/
def isNaN : Value → Bool
  | float .nan | decimal (.nan ..) => true
  | _ => false

/-- The value is a decimal NaN that signals. -/
def isSignaling : Value → Bool
  | decimal (.nan _ true _) => true
  | _ => false

/-- The order of the values can be asked for. -/
def Orderable (v w : Value) : Prop :=
  (∃ kind, v.orderKind? = some kind ∧ w.orderKind? = some kind) ∧
    (v.isNaN ∨ w.isNaN → v.isDecimal = false ∧ w.isDecimal = false)

/-- The equality of the values can be asked for. -/
def Equatable (v w : Value) : Prop :=
  v.orderKind? = some .number → w.orderKind? = some .number →
    v.isSignaling = false ∧ w.isSignaling = false

variable {v w : Value}

/-! ## Numbers -/

/-- The kind of a number: a decimal NaN may signal. -/
theorem numberKind?_eq_some_iff {kind : NumberKind} :
    v.numberKind? = some kind ↔ v.orderKind? = some .number ∧
      kind = if v.isSignaling then .signaling else if v.isDecimal then .decimal else .plain := by
  cases v with
  | decimal d =>
    cases d with
    | nan negative signaling payload =>
      cases signaling <;> simp [numberKind?, orderKind?, isSignaling, isDecimal, eq_comm]
    | _ => simp [numberKind?, orderKind?, isSignaling, isDecimal, eq_comm]
  | bool | int | float | fraction =>
    simp [numberKind?, orderKind?, isSignaling, isDecimal, eq_comm]
  | _ => simp [numberKind?, orderKind?]

/-- A number stands for a number or an infinity unless it is a NaN. -/
theorem extended?_eq_none_iff (h : v.orderKind? = some .number) :
    v.extended? = none ↔ v.isNaN = true := by
  cases v with
  | float x => cases x <;> simp [extended?, Binary64.value?, isNaN]
  | decimal d => cases d <;> simp [extended?, Decimal.value?, isNaN]
  | bool | int | fraction => simp [extended?, isNaN]
  | _ => simp [orderKind?] at h

theorem isSignaling_eq_false (h : v.isDecimal = false) : v.isSignaling = false := by
  cases v with
  | decimal d => cases h
  | _ => rfl

theorem isNaN_of_isSignaling (h : v.isSignaling = true) : v.isNaN = true := by
  cases v with
  | decimal d =>
    cases d with
    | nan => rfl
    | _ => cases h
  | _ => cases h

/-- A NaN is a number. -/
theorem orderKind?_of_isNaN (h : v.isNaN = true) : v.orderKind? = some .number := by
  cases v with
  | float | decimal => rfl
  | _ => cases h

/-- Numbers other than NaN are in an order. -/
theorem exists_relate_ordered (hv : v.orderKind? = some .number) (hw : w.orderKind? = some .number)
    (hnan : ¬ (v.isNaN ∨ w.isNaN)) : ∃ o, v.relate w = .ordered o := by
  obtain ⟨hvnan, hwnan⟩ := not_or.1 hnan
  rw [← extended?_eq_none_iff hv] at hvnan
  rw [← extended?_eq_none_iff hw] at hwnan
  obtain ⟨x, hx⟩ := Option.ne_none_iff_exists'.1 hvnan
  obtain ⟨y, hy⟩ := Option.ne_none_iff_exists'.1 hwnan
  refine ⟨x.compare y, ?_⟩
  rw [relate, numberKind?_eq_some_iff.2 ⟨hv, rfl⟩, numberKind?_eq_some_iff.2 ⟨hw, rfl⟩]
  simp only [relateNumbers, hx, hy]

/-- How a NaN stands to a number. -/
theorem relate_of_isNaN (hv : v.orderKind? = some .number) (hw : w.orderKind? = some .number)
    (hnan : v.isNaN ∨ w.isNaN) :
    v.relate w =
      if v.isSignaling ∨ w.isSignaling then .signaling
      else if v.isDecimal ∨ w.isDecimal then .quiet
      else .unordered := by
  have hnone : v.extended? = none ∨ w.extended? = none := by
    rwa [extended?_eq_none_iff hv, extended?_eq_none_iff hw]
  have hrelate (kind other : NumberKind) : relateNumbers v w kind other =
      if kind = .signaling ∨ other = .signaling then .signaling
      else if kind = .decimal ∨ other = .decimal then .quiet
      else .unordered := by
    rw [relateNumbers]
    split
    · next x y hx hy => simp [hx, hy] at hnone
    · rfl
  rw [relate, numberKind?_eq_some_iff.2 ⟨hv, rfl⟩, numberKind?_eq_some_iff.2 ⟨hw, rfl⟩]
  simp only [hrelate]
  cases hvs : v.isSignaling
  · cases hws : w.isSignaling
    · cases v.isDecimal <;> cases w.isDecimal <;> rfl
    · simp
  · simp

/-! ## Other values -/

theorem orderKind?_eq_text_iff : v.orderKind? = some .text ↔ v.text?.isSome := by
  cases v with
  | text | member | null => simp [orderKind?, Option.isSome_iff_exists]
  | _ => simp [orderKind?, text?]

theorem orderKind?_eq_guid_iff : v.orderKind? = some .guid ↔ ∃ g, v = .guid g := by
  cases v <;> simp [orderKind?]

theorem orderKind?_eq_date_iff : v.orderKind? = some .date ↔ ∃ d, v = .date d := by
  cases v <;> simp [orderKind?]

theorem orderKind?_eq_dateTime_iff {aware : Bool} :
    v.orderKind? = some (.dateTime aware) ↔ ∃ t, v = .dateTime t ∧ t.offset?.isSome = aware := by
  cases v <;> simp [orderKind?]

/-- Two values, of which not both are numbers, are in an order if they are of one kind. -/
theorem exists_satisfies_relateOthers_iff {p : Ordering → Bool} :
    (∃ b, (relateOthers v w).satisfies p = .ok b) ↔
      ∃ kind, kind ≠ .number ∧ v.orderKind? = some kind ∧ w.orderKind? = some kind := by
  unfold relateOthers
  split
  · exact iff_of_true ⟨_, rfl⟩ ⟨.guid, nofun, rfl, rfl⟩
  · exact iff_of_true ⟨_, rfl⟩ ⟨.date, nofun, rfl, rfl⟩
  · next t u =>
    split
    · next haware => exact iff_of_true ⟨_, rfl⟩ ⟨.dateTime _, nofun, rfl, by rw [orderKind?, haware]⟩
    · next haware =>
      refine iff_of_false (by simp [Relation.satisfies]) ?_
      rintro ⟨kind, -, ht, hu⟩
      exact haware (by simpa [orderKind?] using ht.trans hu.symm)
  · next hguid hdate hdateTime =>
    split
    · next s t hs ht =>
      refine iff_of_true ⟨_, rfl⟩ ⟨.text, nofun, ?_, ?_⟩
      · rw [orderKind?_eq_text_iff, hs]
        rfl
      · rw [orderKind?_eq_text_iff, ht]
        rfl
    · next hne =>
      refine iff_of_false (by simp [Relation.satisfies]) ?_
      rintro ⟨kind, hkind, hv, hw⟩
      cases kind with
      | number => exact hkind rfl
      | text =>
        obtain ⟨s, hs⟩ := Option.isSome_iff_exists.1 (orderKind?_eq_text_iff.1 hv)
        obtain ⟨t, ht⟩ := Option.isSome_iff_exists.1 (orderKind?_eq_text_iff.1 hw)
        exact hne s t hs ht
      | guid =>
        obtain ⟨g, rfl⟩ := orderKind?_eq_guid_iff.1 hv
        obtain ⟨h, rfl⟩ := orderKind?_eq_guid_iff.1 hw
        exact hguid g h rfl rfl
      | date =>
        obtain ⟨d, rfl⟩ := orderKind?_eq_date_iff.1 hv
        obtain ⟨e, rfl⟩ := orderKind?_eq_date_iff.1 hw
        exact hdate d e rfl rfl
      | dateTime aware =>
        obtain ⟨t, rfl, -⟩ := orderKind?_eq_dateTime_iff.1 hv
        obtain ⟨u, rfl, -⟩ := orderKind?_eq_dateTime_iff.1 hw
        exact hdateTime t u rfl rfl

theorem exists_equal_relateOthers : ∃ b, (relateOthers v w).equal = .ok b := by
  unfold relateOthers
  split
  · exact ⟨_, rfl⟩
  · exact ⟨_, rfl⟩
  · split <;> exact ⟨_, rfl⟩
  · split <;> exact ⟨_, rfl⟩

/-- Two values stand to each other as other values do if one of them is no number. -/
theorem relate_eq_relateOthers (h : ¬ (v.orderKind? = some .number ∧ w.orderKind? = some .number)) :
    v.relate w = relateOthers v w := by
  rw [relate]
  split
  · next kind other hv hw =>
    exact absurd ⟨(numberKind?_eq_some_iff.1 hv).1, (numberKind?_eq_some_iff.1 hw).1⟩ h
  · rfl

/-! ## Comparisons with a result -/

/-- The question of the order of two values has an answer if and only if they are orderable. -/
theorem exists_satisfies_iff {p : Ordering → Bool} :
    (∃ b, (v.relate w).satisfies p = .ok b) ↔ v.Orderable w := by
  by_cases hnumbers : v.orderKind? = some .number ∧ w.orderKind? = some .number
  · obtain ⟨hv, hw⟩ := hnumbers
    have hkind : ∃ kind, v.orderKind? = some kind ∧ w.orderKind? = some kind := ⟨.number, hv, hw⟩
    by_cases hnan : v.isNaN ∨ w.isNaN
    · rw [relate_of_isNaN hv hw hnan]
      constructor
      · intro h
        refine ⟨hkind, fun _ => ?_⟩
        split at h
        · simp [Relation.satisfies] at h
        · split at h
          · simp [Relation.satisfies] at h
          · next hdecimal => simpa using hdecimal
      · rintro ⟨-, hdecimal⟩
        obtain ⟨hvd, hwd⟩ := hdecimal hnan
        rw [isSignaling_eq_false hvd, isSignaling_eq_false hwd, hvd, hwd]
        exact ⟨false, rfl⟩
    · obtain ⟨o, ho⟩ := exists_relate_ordered hv hw hnan
      rw [ho]
      exact iff_of_true ⟨p o, rfl⟩ ⟨hkind, fun h => absurd h hnan⟩
  · rw [relate_eq_relateOthers hnumbers, exists_satisfies_relateOthers_iff]
    constructor
    · rintro ⟨kind, hkind, hv, hw⟩
      refine ⟨⟨kind, hv, hw⟩, ?_⟩
      rintro (hnan | hnan)
      · exact absurd (hv.symm.trans (orderKind?_of_isNaN hnan)) (by simpa using hkind)
      · exact absurd (hw.symm.trans (orderKind?_of_isNaN hnan)) (by simpa using hkind)
    · rintro ⟨⟨kind, hv, hw⟩, -⟩
      refine ⟨kind, ?_, hv, hw⟩
      rintro rfl
      exact hnumbers ⟨hv, hw⟩

/-- The question of the equality of two values has an answer if and only if they are equatable. -/
theorem exists_equal_iff : (∃ b, (v.relate w).equal = .ok b) ↔ v.Equatable w := by
  by_cases hnumbers : v.orderKind? = some .number ∧ w.orderKind? = some .number
  · obtain ⟨hv, hw⟩ := hnumbers
    by_cases hnan : v.isNaN ∨ w.isNaN
    · rw [relate_of_isNaN hv hw hnan]
      by_cases hsignaling : v.isSignaling ∨ w.isSignaling
      · rw [if_pos hsignaling]
        refine iff_of_false (by simp [Relation.equal]) fun h => ?_
        obtain ⟨hvs, hws⟩ := h hv hw
        simp [hvs, hws] at hsignaling
      · rw [if_neg hsignaling]
        refine iff_of_true ⟨false, ?_⟩ fun _ _ => by simpa using hsignaling
        split <;> rfl
    · obtain ⟨o, ho⟩ := exists_relate_ordered hv hw hnan
      obtain ⟨hvnan, hwnan⟩ := not_or.1 hnan
      rw [ho]
      refine iff_of_true ⟨_, rfl⟩ fun _ _ => ⟨?_, ?_⟩
      · simpa using mt isNaN_of_isSignaling hvnan
      · simpa using mt isNaN_of_isSignaling hwnan
  · rw [relate_eq_relateOthers hnumbers]
    exact iff_of_true exists_equal_relateOthers fun hv hw => absurd ⟨hv, hw⟩ hnumbers

end Value

end RecordQuery
