import Mathlib.Data.List.TakeDrop
import Mathlib.Data.List.TakeWhile
import RecordQuery.Number.Numeral

/-!
# Fractions as text

A numeral is cut at the first character of a class (`cutAt_eq_some_iff`), so the texts of fractions
with denominator zero are the quotients of a natural number and zero
(`fraction?_eq_zeroDenominator_iff`).
-/

namespace RecordQuery.Number

variable {p : Char → Bool} {s before after : List Char}

/-- A cut parts a text at the first character of its class. -/
theorem cutAt_eq_some_iff : cutAt p s = (before, some after) ↔
    ∃ c, s = before ++ c :: after ∧ p c = true ∧ ∀ d ∈ before, p d = false := by
  rw [cutAt, List.span_eq_takeWhile_dropWhile]
  constructor
  · intro h
    split at h
    · cases h
    · next part c rest hspan =>
      cases h
      obtain ⟨hbefore, hrest⟩ := Prod.mk.inj hspan
      refine ⟨c, ?_, ?_, fun d hd => ?_⟩
      · rw [← hbefore, ← hrest, List.takeWhile_append_dropWhile]
      · have := List.head?_dropWhile_not (fun c => !p c) s
        rw [hrest] at this
        simpa using this
      · rw [← hbefore] at hd
        simpa using List.mem_takeWhile_imp hd
  · rintro ⟨c, rfl, hc, hbefore⟩
    have hnot : ∀ d ∈ before, (!p d) = true := fun d hd => by simp [hbefore d hd]
    rw [List.takeWhile_append_of_pos hnot, List.dropWhile_append_of_pos hnot]
    simp [hc]

/-- A text without a character of the class is not cut. -/
theorem cutAt_eq_none (h : ∀ c ∈ s, p c = false) : cutAt p s = (s, none) := by
  have hnot : ∀ c ∈ s, (!p c) = true := fun c hc => by simp [h c hc]
  rw [cutAt, List.span_eq_takeWhile_dropWhile, List.takeWhile_eq_self_iff.2 hnot,
    List.dropWhile_eq_nil_iff.2 hnot]

/-- A quotient has the denominator zero if its parts are a natural number and zero. -/
theorem quotient?_eq_zeroDenominator_iff {negative : Bool} :
    quotient? negative before after = .zeroDenominator ↔
      (natural? before).isSome ∧ natural? after = some 0 := by
  rw [quotient?]
  cases natural? before with
  | none => simp
  | some a =>
    cases natural? after with
    | none => simp
    | some b => by_cases hb : b = 0 <;> simp [hb]

/-- A text is a fraction with denominator zero if it is a quotient, behind a sign or none, of a
natural number and zero. -/
theorem fraction?_eq_zeroDenominator_iff : fraction? s = .zeroDenominator ↔
    ∃ numerator denominator, (splitSign s).2 = numerator ++ '/' :: denominator ∧
      '/' ∉ numerator ∧ (natural? numerator).isSome ∧ natural? denominator = some 0 := by
  rw [fraction?]
  generalize splitSign s = sign
  obtain ⟨negative, rest⟩ := sign
  have hcut (numerator denominator : List Char) :
      cutAt (· = '/') rest = (numerator, some denominator) ↔
        rest = numerator ++ '/' :: denominator ∧ '/' ∉ numerator := by
    rw [cutAt_eq_some_iff]
    simp only [decide_eq_true_eq, decide_eq_false_iff_not]
    constructor
    · rintro ⟨c, hrest, rfl, hbefore⟩
      exact ⟨hrest, fun hmem => hbefore _ hmem rfl⟩
    · rintro ⟨hrest, hmem⟩
      exact ⟨'/', hrest, rfl, fun d hd heq => hmem (heq ▸ hd)⟩
  simp only
  split
  · next numerator denominator h =>
    rw [quotient?_eq_zeroDenominator_iff]
    constructor
    · intro hparts
      obtain ⟨hrest, hmem⟩ := (hcut _ _).1 h
      exact ⟨numerator, denominator, hrest, hmem, hparts⟩
    · rintro ⟨_, _, hrest, hmem, hparts⟩
      cases h.symm.trans ((hcut _ _).2 ⟨hrest, hmem⟩)
      exact hparts
  · next h =>
    refine iff_of_false ?_ ?_
    · split <;> simp
    · rintro ⟨_, _, hrest, hmem, -⟩
      cases h.symm.trans ((hcut _ _).2 ⟨hrest, hmem⟩)

end RecordQuery.Number
