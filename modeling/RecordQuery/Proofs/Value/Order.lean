import Mathlib.Data.String.Basic
import RecordQuery.Proofs.Number.Order
import RecordQuery.Proofs.Value.Comparable

/-!
# Values of one kind are in a linear order

Between the values of one kind, as far as order is concerned, there is a linear order, NaN apart:
numbers of all sorts compare by their places among the rational numbers, texts and textual members
by their characters, identifiers by their numbers, dates by their days and date-times by their
instants. Whatever the kind, `Value.relate` is the comparison of a linear order
(`Value.exists_key`).
-/

namespace RecordQuery.Value

open Number

/-- A value of the kind, and no NaN. -/
structure IsProper (kind : OrderKind) (v : Value) : Prop where
  orderKind? : v.orderKind? = some kind
  isNaN : v.isNaN = false

variable {v w : Value} {kind : OrderKind}

/-- A value of a kind is a value. -/
theorem IsProper.isNull (h : v.IsProper kind) : v.isNull = false := by
  cases v with
  | null => cases h.orderKind?
  | _ => rfl

/-! ## What values compare by -/

/-- The place of a number. -/
def place (v : Value) : WithBot (WithTop ℚ) := (v.extended?.map Extended.place).getD ⊥

/-- The text that a value stands for. -/
def ownText (v : Value) : String := v.text?.getD ""

/-- The number of an identifier. -/
def guidValue : Value → Nat
  | guid g => g.value
  | _ => 0

/-- The day of a date. -/
def day : Value → Nat
  | date d => d.ordinal
  | _ => 0

/-- The instant of a date-time. -/
def instant : Value → Int
  | dateTime t => t.instant
  | _ => 0

/-- Numbers compare by their places. -/
theorem relate_eq_cmp_place (hv : v.IsProper .number) (hw : w.IsProper .number) :
    v.relate w = .ordered (cmp v.place w.place) := by
  have hext {u : Value} (hu : u.IsProper .number) : ∃ x, u.extended? = some x := by
    refine Option.ne_none_iff_exists'.1 fun hnone => ?_
    rw [extended?_eq_none_iff hu.orderKind?, hu.isNaN] at hnone
    cases hnone
  obtain ⟨x, hx⟩ := hext hv
  obtain ⟨y, hy⟩ := hext hw
  have hplace {u : Value} {z : Extended} (hu : u.extended? = some z) : u.place = z.place := by
    rw [place, hu]
    rfl
  rw [relate, numberKind?_eq_some_iff.2 ⟨hv.orderKind?, rfl⟩,
    numberKind?_eq_some_iff.2 ⟨hw.orderKind?, rfl⟩, hplace hx, hplace hy,
    ← Extended.compare_eq_cmp]
  simp only [relateNumbers, hx, hy]

/-- Values of one kind that are no numbers are related as such. -/
theorem IsProper.relate_eq (hv : v.IsProper kind) (hkind : kind ≠ .number) :
    v.relate w = relateOthers v w := by
  refine relate_eq_relateOthers fun hnumber => hkind ?_
  exact Option.some.inj (hv.orderKind?.symm.trans hnumber.1)

/-- Texts and textual members compare by their texts. -/
theorem relate_eq_cmp_ownText (hv : v.IsProper .text) (hw : w.IsProper .text) :
    v.relate w = .ordered (cmp v.ownText w.ownText) := by
  obtain ⟨s, hs⟩ := Option.isSome_iff_exists.1 (orderKind?_eq_text_iff.1 hv.orderKind?)
  obtain ⟨t, ht⟩ := Option.isSome_iff_exists.1 (orderKind?_eq_text_iff.1 hw.orderKind?)
  rw [hv.relate_eq nofun, ownText, ownText, hs, ht, cmp_eq_compare]
  unfold relateOthers
  split
  · cases hs
  · cases hs
  · cases hs
  · rw [hs, ht]
    rfl

/-- Identifiers compare by their numbers. -/
theorem relate_eq_cmp_guidValue (hv : v.IsProper .guid) (hw : w.IsProper .guid) :
    v.relate w = .ordered (cmp v.guidValue w.guidValue) := by
  obtain ⟨g, rfl⟩ := orderKind?_eq_guid_iff.1 hv.orderKind?
  obtain ⟨h, rfl⟩ := orderKind?_eq_guid_iff.1 hw.orderKind?
  exact congrArg Relation.ordered (cmp_eq_compare g.value h.value).symm

/-- Dates compare by their days. -/
theorem relate_eq_cmp_day (hv : v.IsProper .date) (hw : w.IsProper .date) :
    v.relate w = .ordered (cmp v.day w.day) := by
  obtain ⟨d, rfl⟩ := orderKind?_eq_date_iff.1 hv.orderKind?
  obtain ⟨e, rfl⟩ := orderKind?_eq_date_iff.1 hw.orderKind?
  exact congrArg Relation.ordered (cmp_eq_compare d.ordinal e.ordinal).symm

/-- Date-times compare by their instants, if both have an offset or both have none. -/
theorem relate_eq_cmp_instant {aware : Bool} (hv : v.IsProper (.dateTime aware))
    (hw : w.IsProper (.dateTime aware)) : v.relate w = .ordered (cmp v.instant w.instant) := by
  obtain ⟨t, rfl, ht⟩ := orderKind?_eq_dateTime_iff.1 hv.orderKind?
  obtain ⟨u, rfl, hu⟩ := orderKind?_eq_dateTime_iff.1 hw.orderKind?
  rw [hv.relate_eq nofun, relateOthers, if_pos (ht.trans hu.symm)]
  exact congrArg Relation.ordered (cmp_eq_compare t.instant u.instant).symm

/-- Values of the kind apart from NaN compare by their keys. -/
def IsKey {β : Type} [LinearOrder β] (kind : OrderKind) (key : Value → β) : Prop :=
  ∀ v w : Value, v.IsProper kind → w.IsProper kind → v.relate w = .ordered (cmp (key v) (key w))

/-- Whatever the kind, its values apart from NaN compare by keys of a linear order. -/
theorem exists_key (kind : OrderKind) :
    ∃ (β : Type) (_ : LinearOrder β) (key : Value → β), IsKey kind key := by
  cases kind with
  | number => exact ⟨_, inferInstance, place, fun _ _ => relate_eq_cmp_place⟩
  | text => exact ⟨_, inferInstance, ownText, fun _ _ => relate_eq_cmp_ownText⟩
  | guid => exact ⟨_, inferInstance, guidValue, fun _ _ => relate_eq_cmp_guidValue⟩
  | date => exact ⟨_, inferInstance, day, fun _ _ => relate_eq_cmp_day⟩
  | dateTime aware => exact ⟨_, inferInstance, instant, fun _ _ => relate_eq_cmp_instant⟩

end RecordQuery.Value
