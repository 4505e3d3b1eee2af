import RecordQuery.Proofs.Fault
import RecordQuery.Proofs.Time.Calendar
import RecordQuery.Source.Cell

/-!
# Values of the kind of a field

The fields of a table hold values of their kinds (`Value.HasKind`), and the literals that are read
for such a field are of its kind too (`Field.literal_hasKind`). Date-times without an offset are the
only values that have to be moved to compare with literals (`Field.normalize_hasKind`).
-/

namespace RecordQuery

open Text Time

/-- A value that a column of a kind holds. All its date-times have one offset, or none. -/
inductive Value.HasKind (offset? : Option Offset) : FieldKind → Value → Prop where
  /-- A text. -/
  | text (s : String) : HasKind offset? .string (.text s)
  /-- A member that stands for its name. -/
  | member (typeName name : String) :
    HasKind offset? .choice (.member ⟨typeName, name, .text name, true⟩)
  /-- An identifier. -/
  | guid (g : Guid) : HasKind offset? .guid (.guid g)
  /-- A date-time. -/
  | dateTime (t : DateTime) (h : t.offset? = offset?) : HasKind offset? .dateTime (.dateTime t)
  /-- An integer. -/
  | int (n : Int) : HasKind offset? .numeric (.int n)

/-- A value of a kind is a value. -/
theorem Value.HasKind.isNull {offset? : Option Offset} {kind : FieldKind} {v : Value}
    (h : v.HasKind offset? kind) : v.isNull = false := by
  cases h <;> rfl

/-- A column of a table: a field that can be read, with a type of which every value and every
literal is of the kind of the field. -/
def Field.isColumn (f : Field) : Bool :=
  f.stored && f.isReachable &&
    match f.kind, f.type? with
    | .string, _ | .guid, _ | .dateTime, some .dateTime | .numeric, some .int => true
    | .choice, some (.choice t) => t.members.all fun m => m.payload = .text m.name && m.textual
    | _, _ => false

namespace Field

variable {f : Field} {text : String} {v : Value}

/-- A literal that was read says what was expected. -/
theorem eq_of_orMalformed {expected : String} {v? : Option Value}
    (h : orMalformed expected v? = .ok v) : v? = some v := by
  cases v? with
  | none => cases h
  | some w =>
    cases h
    rfl

/-- A number is the number of a text. -/
theorem exists_of_number? {type? : Option FieldType} {s : List Char}
    (h : Literal.number? type? s = .ok v) : ∃ s', Literal.numberOf type? s' = .ok v := by
  simp only [Literal.number?] at h
  split at h
  · cases h
  · exact ⟨_, h⟩

/-- A date-time at offset zero is of the kind of date-times. -/
theorem universal_hasKind {t : DateTime} (h : Literal.universal t = .ok v) :
    v.HasKind (some .utc) .dateTime := by
  rw [Literal.universal] at h
  split at h
  · next u hu =>
    cases h
    exact .dateTime u (DateTime.instant_toUtc? hu).1
  · cases h

/-- A literal of a column is of its kind. -/
theorem literal_hasKind (hf : f.isColumn = true) (h : f.literal text = .ok v) :
    v.HasKind (some .utc) f.kind := by
  simp only [isColumn, Bool.and_eq_true] at hf
  obtain ⟨-, hf⟩ := hf
  rw [literal] at h
  split at hf
  · next hkind =>
    rw [hkind] at h ⊢
    cases h
    exact .text text
  · next hkind =>
    rw [hkind] at h ⊢
    obtain ⟨g, -, rfl⟩ := Option.map_eq_some_iff.1 (eq_of_orMalformed h)
    exact .guid g
  · next hkind htype =>
    rw [hkind, htype] at h
    rw [hkind]
    obtain ⟨t, -, h⟩ := exists_of_bind_ok h
    rw [if_neg (by decide)] at h
    cases hu : Literal.universal t with
    | error e =>
      rw [hu] at h
      cases h
    | ok w =>
      rw [hu] at h
      cases h
      exact universal_hasKind hu
  · next hkind htype =>
    rw [hkind, htype] at h
    rw [hkind]
    obtain ⟨_, h⟩ := exists_of_number? h
    obtain ⟨n, -, rfl⟩ := Option.map_eq_some_iff.1 (eq_of_orMalformed h)
    exact .int n
  · next t hkind htype =>
    rw [hkind, htype] at h
    rw [hkind]
    obtain ⟨m, hm, rfl⟩ := Option.map_eq_some_iff.1 (eq_of_orMalformed h)
    have hmember := List.all_eq_true.1 hf m (List.mem_of_find?_eq_some hm)
    obtain ⟨typeName, name, payload, textual⟩ := m
    simp only [Bool.and_eq_true, decide_eq_true_eq] at hmember
    obtain ⟨rfl, rfl⟩ := hmember
    exact .member typeName name
  · cases hf

/-- No value stays none. -/
theorem normalize_null (f : Field) : f.normalize .null = .ok .null := by
  obtain ⟨name, kind, type?, nullable, accessor, stored⟩ := f
  cases kind <;> rfl

/-- A value of a column is moved to offset zero, and what is stored of it stays. -/
theorem normalize_hasKind (hf : f.isColumn = true) (hv : v.HasKind none f.kind) :
    ∃ w, f.normalize v = .ok w ∧ w.HasKind (some .utc) f.kind ∧ w.stored = v.stored := by
  simp only [isColumn, Bool.and_eq_true] at hf
  obtain ⟨-, hf⟩ := hf
  unfold normalize
  generalize f.kind = kind at hv hf
  cases hv with
  | text s => exact ⟨_, rfl, .text s, rfl⟩
  | member typeName name => exact ⟨_, rfl, .member typeName name, rfl⟩
  | guid g => exact ⟨_, rfl, .guid g, rfl⟩
  | dateTime t ht =>
    have htype : f.type? ≠ some .date := by
      intro htype
      rw [htype] at hf
      cases hf
    have hahead : t.ahead = 0 := by
      rw [DateTime.ahead, ht]
      rfl
    refine ⟨.dateTime ⟨t.date, t.time, some .utc⟩, ?_, .dateTime _ rfl, rfl⟩
    simp only [if_neg htype, Literal.universal, DateTime.toUtc?_of_ahead_eq_zero hahead]
  | int n => exact ⟨_, rfl, .int n, rfl⟩

end Field

end RecordQuery
