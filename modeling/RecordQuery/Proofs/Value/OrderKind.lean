import RecordQuery.Proofs.Choice
import RecordQuery.Proofs.Value.Comparable

/-!
# Fields of one kind

Most types of fields have literals of one kind only, as far as order is concerned
(`Field.orderKind?_literal`). A textual choice type has members with texts alone.
-/

namespace RecordQuery

namespace Choice

variable {t : Choice} {m : Member}

/-- The members of a textual type stand for texts. -/
theorem orderKind?_of_mem (htextual : t.textual = true) (h : m ∈ t.members) :
    (Value.member m).orderKind? = some .text := by
  obtain ⟨s, -, hs⟩ := exists_text?_eq htextual h
  rw [Value.orderKind?_eq_text_iff, hs]
  rfl

end Choice

namespace Field

/-- The choices of a field of this type stand for texts. -/
def hasTextualChoices (f : Field) : Bool :=
  match f.type? with
  | none => true
  | some (.choice t) => t.textual
  | some _ => false

/-- The types of numbers. No type stands for integers and decimals. -/
def numberTypes : List (Option FieldType) :=
  [none, some .int, some .float, some .decimal, some .fraction]

/-- The kind of the literals of a field, where all of them are of one kind. -/
def orderKind? (f : Field) : Option OrderKind :=
  match f.kind with
  | .string => some .text
  | .choice => if f.hasTextualChoices then some .text else none
  | .guid => some .guid
  | .dateTime => some (if f.type? = some .date then .date else .dateTime true)
  | .bool => some .number
  | .numeric => if f.type? ∈ numberTypes then some .number else none

variable {f : Field} {text : String} {v : Value} {kind : OrderKind}

/-- A choice is a text where its type is not known, and of a textual type. -/
theorem orderKind?_choice {s : List Char} (htextual : f.hasTextualChoices = true)
    (h : Literal.choice f.type? s = .ok v) : v.orderKind? = some .text := by
  rw [hasTextualChoices] at htextual
  unfold Literal.choice at h
  split at h
  · cases h
    rfl
  · next t htype =>
    rw [htype] at htextual
    obtain ⟨m, hm, rfl⟩ := Option.map_eq_some_iff.1 (eq_of_orMalformed h)
    exact Choice.orderKind?_of_mem htextual (List.mem_of_find?_eq_some hm)
  · cases h

/-- A date-time is at offset zero, and a date where the field holds dates. -/
theorem orderKind?_dateTime {type? : Option FieldType} {s : List Char}
    (h : Literal.dateTime type? s = .ok v) :
    v.orderKind? = some (if type? = some .date then .date else .dateTime true) := by
  obtain ⟨t, -, h⟩ := exists_of_bind_ok h
  split at h
  · next htype =>
    cases h
    rw [if_pos htype]
    rfl
  · next htype =>
    rw [if_neg htype]
    cases hu : Literal.universal t with
    | error g =>
      rw [hu] at h
      cases h
    | ok w =>
      rw [hu] at h
      cases h
      cases universal_hasKind hu with
      | dateTime u hoffset =>
        rw [Value.orderKind?, hoffset]
        rfl

/-- A truth value counts among the numbers. -/
theorem orderKind?_bool {s : List Char} (h : Literal.bool s = .ok v) :
    v.orderKind? = some .number := by
  simp only [Literal.bool] at h
  split at h
  · cases h
    rfl
  · split at h
    · cases h
      rfl
    · cases h

/-- A number of a type of numbers is a number. -/
theorem orderKind?_number {type? : Option FieldType} {s : List Char} (htype : type? ∈ numberTypes)
    (h : Literal.number? type? s = .ok v) : v.orderKind? = some .number := by
  simp only [numberTypes, List.mem_cons, List.not_mem_nil, or_false] at htype
  obtain ⟨_, h⟩ := exists_of_number? h
  unfold Literal.numberOf at h
  rcases htype with rfl | rfl | rfl | rfl | rfl
  · rcases Option.or_eq_some_iff.1 (eq_of_orMalformed h) with h | ⟨-, h⟩
    · obtain ⟨n, -, rfl⟩ := Option.map_eq_some_iff.1 h
      rfl
    · obtain ⟨d, -, rfl⟩ := Option.map_eq_some_iff.1 h
      rfl
  · obtain ⟨n, -, rfl⟩ := Option.map_eq_some_iff.1 (eq_of_orMalformed h)
    rfl
  · obtain ⟨x, -, rfl⟩ := Option.map_eq_some_iff.1 (eq_of_orMalformed h)
    rfl
  · obtain ⟨d, -, rfl⟩ := Option.map_eq_some_iff.1 (eq_of_orMalformed h)
    rfl
  · simp only at h
    split at h
    · cases h
      rfl
    · cases h
    · cases h

/-- The literals of a field are of its kind. -/
theorem orderKind?_literal (hkind : f.orderKind? = some kind) (h : f.literal text = .ok v) :
    v.orderKind? = some kind := by
  rw [orderKind?] at hkind
  rw [literal] at h
  cases hfield : f.kind with
  | string =>
    rw [hfield] at h hkind
    cases hkind
    cases h
    rfl
  | choice =>
    rw [hfield] at h hkind
    obtain ⟨htextual, hkind⟩ := Option.ite_none_right_eq_some.1 hkind
    exact (orderKind?_choice htextual h).trans hkind
  | guid =>
    rw [hfield] at h hkind
    cases hkind
    obtain ⟨g, -, rfl⟩ := Option.map_eq_some_iff.1 (eq_of_orMalformed h)
    rfl
  | dateTime =>
    rw [hfield] at h hkind
    exact (orderKind?_dateTime h).trans hkind
  | bool =>
    rw [hfield] at h hkind
    exact (orderKind?_bool h).trans hkind
  | numeric =>
    rw [hfield] at h hkind
    obtain ⟨htype, hkind⟩ := Option.ite_none_right_eq_some.1 hkind
    exact (orderKind?_number htype h).trans hkind

end Field

end RecordQuery
