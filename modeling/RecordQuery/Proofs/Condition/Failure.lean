import RecordQuery.Document.Basic
import RecordQuery.Proofs.Condition.Refusal
import RecordQuery.Proofs.Number.Numeral
import RecordQuery.Proofs.Time.Calendar

/-!
# Faults in place of refusals

A text that is no literal of its field is refused, but for three texts that end in a fault
(`Field.FaultsOn`): any text for a field of choices whose type has no members, a date-time that
leaves the calendar on its way to offset zero, and a fraction with denominator zero. Criteria are
compiled in their order and the first failure ends it, so a filter ends in a fault exactly if its
first criterion without a condition is to blame for such a text (`Selection.ofText?_reported_iff`).
-/

namespace RecordQuery

open Number Text Time

/-! ## The texts that end in a fault -/

/-- Reading the text as a literal of the field ends in the fault. -/
inductive Field.FaultsOn (f : Field) (text : String) : Fault → Prop where
  /-- The field holds choices, and its type has no members. -/
  | noMembers {t : FieldType} (hkind : f.kind = .choice) (htype : f.type? = some t)
    (hchoice : ∀ choice, t ≠ .choice choice) : FaultsOn f text .incomparable
  /-- The text is a date-time, and its instant is not in the calendar. -/
  | outsideCalendar {t : DateTime} (hkind : f.kind = .dateTime) (htype : f.type? ≠ some .date)
    (htext : Literal.dateTimeText? (trim text.toList) = some t)
    (hinstant : ¬ InCalendar t.instant) : FaultsOn f text .outOfRange
  /-- The text is a quotient of a natural number and zero. -/
  | zeroDenominator {numerator denominator : List Char} (hkind : f.kind = .numeric)
    (htype : f.type? = some .fraction)
    (htext : (splitSign ((trim text.toList).map fun c => if c = ',' then '.' else c)).2 =
      numerator ++ '/' :: denominator) (hslash : '/' ∉ numerator)
    (hnumerator : (natural? numerator).isSome) (hdenominator : natural? denominator = some 0) :
    FaultsOn f text .zeroDenominator

/-- The first text of the criterion that is no literal of its field ends in a fault. -/
def Criterion.FaultsOn (schema : Schema) (c : Criterion) : Prop :=
  ∃ f, schema.resolve? c.property = some f ∧
    ∃ before text after, c.literalTexts = before ++ text :: after ∧
      (∀ t ∈ before, ∃ v, f.literal t = .ok v) ∧ ∃ g, f.FaultsOn text g

variable {schema : Schema} {f : Field} {c : Criterion} {text : String} {g : Fault}

theorem orMalformed_ne_faulty {α : Type} {expected : String} {v? : Option α} :
    orMalformed expected v? ≠ .error (.faulty g) := by
  cases v? with
  | none => simp [orMalformed]
  | some v => simp [orMalformed]

/-! ## One literal -/

namespace Literal

theorem choice_eq_faulty_iff {type? : Option FieldType} {s : List Char} :
    choice type? s = .error (.faulty g) ↔
      g = .incomparable ∧ ∃ t, type? = some t ∧ ∀ choice, t ≠ .choice choice := by
  unfold choice
  split
  · simp
  · refine iff_of_false orMalformed_ne_faulty ?_
    rintro ⟨-, t, htype, hchoice⟩
    cases htype
    exact hchoice _ rfl
  · next t ht =>
    constructor
    · intro h
      cases h
      exact ⟨rfl, t, rfl, fun choice heq => ht choice heq⟩
    · rintro ⟨rfl, -⟩
      rfl

theorem universal_eq_error_iff {t : DateTime} :
    universal t = .error g ↔ g = .outOfRange ∧ ¬ InCalendar t.instant := by
  rw [universal, ← DateTime.isSome_toUtc?_iff]
  cases t.toUtc? with
  | none => simp [eq_comm]
  | some u => simp

theorem dateTime_eq_faulty_iff {type? : Option FieldType} {s : List Char} :
    dateTime type? s = .error (.faulty g) ↔ g = .outOfRange ∧ type? ≠ some .date ∧
      ∃ t, dateTimeText? (trim s) = some t ∧ ¬ InCalendar t.instant := by
  unfold dateTime
  cases dateTimeText? (trim s) with
  | none => simp [orMalformed, bind, Except.bind]
  | some t =>
    show (if type? = some .date then .ok (.date t.date) else (universal t).mapError .faulty) =
      Except.error (LiteralProblem.faulty g) ↔ _
    split
    · next htype => simp [htype]
    · next htype =>
      have hmap : (universal t).mapError LiteralProblem.faulty = .error (.faulty g) ↔
          universal t = .error g := by
        cases universal t <;> simp [Except.mapError]
      rw [hmap, universal_eq_error_iff]
      simp [htype]

theorem number?_eq_faulty_iff {type? : Option FieldType} {s : List Char} :
    number? type? s = .error (.faulty g) ↔ g = .zeroDenominator ∧ type? = some .fraction ∧
      fraction? ((trim s).map fun c => if c = ',' then '.' else c) = .zeroDenominator := by
  simp only [number?]
  split
  · next hblank =>
    rw [List.isEmpty_iff.1 hblank]
    refine iff_of_false (by simp) ?_
    rintro ⟨-, -, hfraction⟩
    cases hfraction
  unfold numberOf
  dsimp only
  split
  case h_5 =>
    split
    · next hq => simp [hq]
    · next hq => simp [hq, eq_comm]
    · next hq => simp [hq, orMalformed]
  all_goals
    refine iff_of_false orMalformed_ne_faulty ?_
    rintro ⟨-, htype, -⟩
    cases htype

end Literal

/-- A text ends in a fault by one of the three ways. -/
theorem Field.literal_eq_faulty_iff : f.literal text = .error (.faulty g) ↔ f.FaultsOn text g := by
  constructor
  · intro h
    rw [literal] at h
    cases hkind : f.kind with
    | string =>
      rw [hkind] at h
      cases h
    | choice =>
      rw [hkind] at h
      obtain ⟨rfl, t, htype, hchoice⟩ := Literal.choice_eq_faulty_iff.1 h
      exact .noMembers hkind htype hchoice
    | guid =>
      rw [hkind] at h
      exact absurd h orMalformed_ne_faulty
    | dateTime =>
      rw [hkind] at h
      obtain ⟨rfl, htype, t, htext, hinstant⟩ := Literal.dateTime_eq_faulty_iff.1 h
      exact .outsideCalendar hkind htype htext hinstant
    | bool =>
      rw [hkind] at h
      simp only [Literal.bool] at h
      split at h
      · cases h
      · split at h <;> cases h
    | numeric =>
      rw [hkind] at h
      obtain ⟨rfl, htype, hfraction⟩ := Literal.number?_eq_faulty_iff.1 h
      obtain ⟨_, _, htext, hslash, hnum, hden⟩ := fraction?_eq_zeroDenominator_iff.1 hfraction
      exact .zeroDenominator hkind htype htext hslash hnum hden
  · intro h
    rw [literal]
    cases h with
    | noMembers hkind htype hchoice =>
      rw [hkind]
      exact Literal.choice_eq_faulty_iff.2 ⟨rfl, _, htype, hchoice⟩
    | outsideCalendar hkind htype htext hinstant =>
      rw [hkind]
      exact Literal.dateTime_eq_faulty_iff.2 ⟨rfl, htype, _, htext, hinstant⟩
    | zeroDenominator hkind htype htext hslash hnum hden =>
      rw [hkind]
      exact Literal.number?_eq_faulty_iff.2
        ⟨rfl, htype, fraction?_eq_zeroDenominator_iff.2 ⟨_, _, htext, hslash, hnum, hden⟩⟩

/-! ## One criterion -/

/-- The failure is a refusal of the filter. -/
def Failure.IsRefusal (e : Failure) : Prop := ∃ r, e = .refused r

section Failures

variable {e : Failure}

theorem not_isRefusal_faulty : ¬ (Failure.faulty g).IsRefusal := by
  rintro ⟨r, hr⟩
  cases hr

/-- A literal fails without a refusal only by a fault. -/
theorem Field.coerce_eq_fault_iff (he : ¬ e.IsRefusal) {c? : Option Criterion} :
    f.coerce text c? = .error e ↔ ∃ g, e = .faulty g ∧ f.FaultsOn text g := by
  rw [coerce_eq_error_iff]
  simp only [literal_eq_faulty_iff]
  constructor
  · rintro (⟨expected, -, rfl⟩ | ⟨g, hfaults, rfl⟩)
    · exact absurd ⟨_, rfl⟩ he
    · exact ⟨g, rfl, hfaults⟩
  · rintro ⟨g, rfl, hfaults⟩
    exact .inr ⟨g, hfaults, rfl⟩

namespace Condition

/-- A criterion fails without a refusal if it is to blame for a fault. -/
theorem exists_ofCriterion_eq_error_iff :
    (∃ e, ¬ e.IsRefusal ∧ ofCriterion schema c = .error e) ↔ c.FaultsOn schema := by
  simp only [ofCriterion_eq_error_iff]
  constructor
  · rintro ⟨e, he, ⟨-, rfl⟩ | ⟨f, hf, hfails⟩⟩
    · exact absurd ⟨_, rfl⟩ he
    · cases hfails with
      | literal hfirst =>
        obtain ⟨before, text, after, htexts, hbefore, htext⟩ := hfirst
        obtain ⟨g, -, hfaults⟩ := (Field.coerce_eq_fault_iff he).1 htext
        simp only [Field.coerce_eq_ok_iff] at hbefore
        exact ⟨f, hf, before, text, after, htexts, hbefore, g, hfaults⟩
      | _ => exact absurd ⟨_, rfl⟩ he
  · rintro ⟨f, hf, before, text, after, htexts, hbefore, g, hfaults⟩
    have he := not_isRefusal_faulty (g := g)
    refine ⟨.faulty g, he, .inr ⟨f, hf, .literal ⟨before, text, after, htexts, ?_, ?_⟩⟩⟩
    · simpa only [Field.coerce_eq_ok_iff] using hbefore
    · exact (Field.coerce_eq_fault_iff he).2 ⟨g, rfl, hfaults⟩

end Condition

end Failures

namespace Selection

/-- Compiling a filter ends in a selection or a refusal if and only if the first criterion without
a condition, if there is one, is not to blame for a fault. -/
theorem ofText?_reported_iff {text? : Option String} :
    ((∃ s, ofText? schema text? = .ok s) ∨ ∃ r, ofText? schema text? = .error (.refused r)) ↔
      ¬ ∃ before c after, (Filter.ofText? text?).criteria = before ++ c :: after ∧
        (∀ b ∈ before, ∃ condition, Condition.ofCriterion schema b = .ok condition) ∧
        c.FaultsOn schema := by
  simp only [← Condition.exists_ofCriterion_eq_error_iff]
  have hfails (e : Failure) : ofText? schema text? = .error e ↔
      FailsFirst (Condition.ofCriterion schema) (Filter.ofText? text?).criteria e := by
    rw [ofText?, ofCriteria_eq_error_iff, Condition.ofCriteria_eq_error_iff]
  constructor
  · rintro h ⟨before, c, after, hsplit, hbefore, e, he, hc⟩
    have herror := (hfails e).2 ⟨before, c, after, hsplit, hbefore, hc⟩
    rcases h with ⟨s, h⟩ | ⟨r, h⟩
    · cases h.symm.trans herror
    · cases h.symm.trans herror
      exact he ⟨r, rfl⟩
  · intro h
    cases htext : ofText? schema text? with
    | ok s => exact .inl ⟨s, rfl⟩
    | error e =>
      obtain ⟨before, c, after, hsplit, hbefore, hc⟩ := (hfails e).1 htext
      by_cases he : e.IsRefusal
      · obtain ⟨r, rfl⟩ := he
        exact .inr ⟨r, rfl⟩
      · exact absurd ⟨before, c, after, hsplit, hbefore, e, he, hc⟩ h

/-- In the last hour of the calendar, a time that is an hour behind universal time lies outside the
calendar. The filter that names it is not refused, it ends in a fault. -/
theorem ofText?_lastHour :
    ¬ ((∃ s, ofText? Document.schema "created le '9999-12-31T23:59:59-01:00'" = .ok s) ∨
      ∃ r, ofText? Document.schema "created le '9999-12-31T23:59:59-01:00'" = .error (.refused r)) := by
  have hfault : ofText? Document.schema "created le '9999-12-31T23:59:59-01:00'" =
      .error (.faulty .outOfRange) :=
    ofCriteria_eq_error_iff.2 (by decide +kernel)
  rintro (⟨s, hs⟩ | ⟨r, hr⟩)
  · cases hfault.symm.trans hs
  · cases hfault.symm.trans hr

end Selection

end RecordQuery
