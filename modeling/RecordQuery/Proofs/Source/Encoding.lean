import RecordQuery.Proofs.Time.Fields
import RecordQuery.Proofs.Value.Kind
import RecordQuery.Source.Cell

/-!
# Stored values in order

What a table stores of the values of one kind compares as the values do (`Value.relate_eq`): texts
and members by their characters, identifiers by their hexadecimal digits, date-times at one offset
by the digits of their wall clocks, and integers as they are. Two stored values compare as equal
only if they are the same (`Cell.compare_eq_eq`).
-/

namespace RecordQuery

open Text Time Number

/-! ## The order of integers -/

namespace Number

/-- Without a power of ten, naturals compare as they are. -/
theorem compareTimesPow_zero (a b : Nat) : compareTimesPow a 0 b = compare a b := by
  have htimes : a * tenPow 0 = a := Nat.mul_one a
  rw [compareTimesPow, if_neg (Nat.not_lt_zero _), htimes]
  split
  · next h => rw [h]
  · rfl

/-- Without a power of ten, integers compare as they are. -/
theorem compareIntTimesPow_zero (a b : Int) : compareIntTimesPow a 0 b = compare a b := by
  cases a with
  | ofNat m =>
    cases b with
    | ofNat n =>
      rw [compareIntTimesPow, compareTimesPow_zero, Int.compare_eq_ite_lt, Nat.compare_eq_ite_lt]
      simp only [Int.ofNat_eq_natCast, Int.ofNat_lt]
    | negSucc n =>
      have hlt : Int.negSucc n < (m : Int) := by omega
      exact (Int.compare_eq_gt.2 hlt).symm
  | negSucc m =>
    cases b with
    | ofNat n =>
      have hlt : Int.negSucc m < (n : Int) := by omega
      exact (Int.compare_eq_lt.2 hlt).symm
    | negSucc n =>
      have hlt : Int.negSucc m < Int.negSucc n ↔ n + 1 < m + 1 := by omega
      have hgt : Int.negSucc n < Int.negSucc m ↔ m + 1 < n + 1 := by omega
      rw [compareIntTimesPow, compareTimesPow_zero, Nat.compare_swap, Int.compare_eq_ite_lt,
        Nat.compare_eq_ite_lt]
      simp only [hlt, hgt]

/-- Integers compare as numbers as they do as integers. -/
theorem Extended.compare_intCast (m n : Int) :
    Extended.compare (.finite ⟨m, 0⟩) (.finite ⟨n, 0⟩) = Ord.compare m n := by
  rw [Extended.compare, Scaled.compare]
  simp [compareIntTimesPow_zero]

end Number

/-! ## The order of date-times -/

/-- The stored text of a date-time in digits. -/
theorem Time.DateTime.stored_eq (t : DateTime) :
    t.stored = t.date.digits ++ ' ' :: (digits 2 t.time.hour ++ ':' :: (digits 2 t.time.minute ++
      ':' :: (digits 2 t.time.second ++ '.' :: digits 6 t.time.micro))) := by
  rw [stored, Date.text_eq, paddedText_eq (by decide) t.time.hour_lt,
    paddedText_eq (by decide) t.time.minute_lt, paddedText_eq (by decide) t.time.second_lt,
    paddedText_eq (by decide) t.time.micro_lt]
  simp only [List.append_assoc, List.cons_append]

/-- Stored date-times compare as their wall clocks do. -/
theorem Time.DateTime.compare_stored (t u : DateTime) :
    compare t.stored u.stored = compare t.wall u.wall := by
  have hdate : t.date.digits.length = u.date.digits.length := by
    rw [Date.length_digits, Date.length_digits]
  rw [stored_eq, stored_eq, compare_append_cons hdate, compare_append_cons (by simp),
    compare_append_cons (by simp), compare_append_cons (by simp), Date.compare_digits,
    compare_digits t.time.hour_lt u.time.hour_lt, compare_digits t.time.minute_lt u.time.minute_lt,
    compare_digits t.time.second_lt u.time.second_lt,
    compare_digits t.time.micro_lt u.time.micro_lt, compare_wall, TimeOfDay.compare_micros]

/-- Date-times at one offset, or without, compare as their wall clocks do. -/
theorem Time.DateTime.compare_instant {t u : DateTime} (h : t.offset? = u.offset?) :
    compare t.instant u.instant = compare t.wall u.wall := by
  have hahead : t.ahead = u.ahead := by rw [ahead, h, ahead]
  rw [instant, instant, hahead, Int.compare_eq_ite_lt, Int.compare_eq_ite_lt]
  simp only [Int.sub_lt_sub_right_iff]

/-! ## The order of values -/

namespace Value

variable {offset? : Option Offset} {kind : FieldKind} {v w : Value}

/-- Something is stored of a value of a kind. -/
theorem HasKind.stored_ne (h : v.HasKind offset? kind) : v.stored ≠ .null := by
  cases h <;> exact Cell.noConfusion

/-- No value differs from a value of a kind, and is in no order with it. -/
theorem HasKind.relate_null (h : v.HasKind offset? kind) : null.relate v = .unlike false := by
  cases h <;> rfl

/-- Values of one kind stand to each other as what is stored of them. -/
theorem relate_eq (hv : v.HasKind offset? kind) (hw : w.HasKind offset? kind) :
    v.relate w = .ordered (v.stored.compare w.stored) := by
  cases hv with
  | text s =>
    cases hw with
    | text t =>
      have hcell : (text s).stored.compare (text t).stored = compare s t := by
        have hstored (s : String) : (text s).stored = .text s.toList := rfl
        rw [hstored, hstored, Cell.compare, String.ofList_toList, String.ofList_toList]
      rw [hcell]
      rfl
  | member typeName name =>
    cases hw with
    | member otherType other =>
      have hcell (typeName name otherType other : String) :
          (member ⟨typeName, name, .text name, true⟩).stored.compare
            (member ⟨otherType, other, .text other, true⟩).stored = compare name other := by
        rw [stored, stored, Cell.compare, String.ofList_toList, String.ofList_toList]
      rw [hcell]
      rfl
  | guid g =>
    cases hw with
    | guid h =>
      have hpow : twoPow 128 = 16 ^ Guid.digitCount := by decide
      have hcell : (guid g).stored.compare (guid h).stored = compare g.value h.value := by
        rw [stored, stored, Cell.compare, compare_ofList, Guid.hex, Guid.hex,
          compare_hexText (hpow ▸ g.value_lt) (hpow ▸ h.value_lt)]
      rw [hcell]
      rfl
  | dateTime t ht =>
    cases hw with
    | dateTime u hu =>
      have hoffset : t.offset? = u.offset? := ht.trans hu.symm
      have hcell : (dateTime t).stored.compare (dateTime u).stored =
          compare t.instant u.instant := by
        rw [stored, stored, Cell.compare, compare_ofList, DateTime.compare_stored,
          DateTime.compare_instant hoffset]
      rw [hcell]
      exact if_pos (congrArg Option.isSome hoffset)
  | int m =>
    cases hw with
    | int n => exact congrArg Relation.ordered (Extended.compare_intCast m n)

end Value

/-- Stored values that compare as equal are the same. -/
theorem Cell.compare_eq_eq {c d : Cell} : c.compare d = .eq ↔ c = d := by
  cases c <;> cases d <;> simp [Cell.compare, compare_ofList]

end RecordQuery
