import RecordQuery.Choice
import RecordQuery.Text.Blank
import RecordQuery.Text.Lower
import RecordQuery.Text.Quoted

/-!
# Schemas

A schema lists the fields of a type of records. Fields are found by their key: the name without
underscores, without blanks at its ends and in small letters. The keys of a schema are pairwise
distinct, so `Schema.resolve?` finds at most one field; `Schema.of?` refuses a list in which a key
repeats and names the first field that repeats one.
-/

namespace RecordQuery

open Text

/-- What a field holds, as far as operators and literals are concerned. -/
inductive FieldKind where
  /-- A text. -/
  | string
  /-- A member of a choice type. -/
  | choice
  /-- An identifier. -/
  | guid
  /-- A date, or a date with a time of day. -/
  | dateTime
  /-- A truth value. -/
  | bool
  /-- A number. -/
  | numeric
  deriving DecidableEq

namespace FieldKind

/-- All kinds. -/
def all : List FieldKind := [string, choice, guid, dateTime, bool, numeric]

/-- The name of a kind. -/
def name : FieldKind → String
  | string => "String"
  | choice => "Enum"
  | guid => "Guid"
  | dateTime => "DateTime"
  | bool => "Bool"
  | numeric => "Numeric"

end FieldKind

/-- The type of the values of a field. -/
inductive FieldType where
  /-- Integers. -/
  | int
  /-- Floating-point numbers. -/
  | float
  /-- Decimal numbers. -/
  | decimal
  /-- Fractions. -/
  | fraction
  /-- Truth values. -/
  | bool
  /-- Texts. -/
  | text
  /-- Identifiers. -/
  | guid
  /-- Dates with a time of day. -/
  | dateTime
  /-- Dates. -/
  | date
  /-- The members of a choice type. -/
  | choice (t : Choice)
  /-- Another type, of which only the name is known. -/
  | other (name : String)
  deriving DecidableEq

namespace FieldType

/-- The name of a type. -/
def name : FieldType → String
  | int => "int"
  | float => "float"
  | decimal => "Decimal"
  | fraction => "Fraction"
  | bool => "bool"
  | text => "str"
  | guid => "UUID"
  | dateTime => "datetime"
  | date => "date"
  | choice t => t.name
  | other name => name

/-- The kind of the fields of a type: a field is a text where nothing else is known of it. -/
def kind : Option FieldType → FieldKind
  | some (choice _) => .choice
  | some guid => .guid
  | some dateTime | some date => .dateTime
  | some bool => .bool
  | some int | some float | some decimal => .numeric
  | _ => .string

end FieldType

/-- How a field is read from a record. -/
inductive Accessor where
  /-- As an attribute; a point in the name leads into the attribute. -/
  | attribute
  /-- As an entry. -/
  | entry
  deriving DecidableEq

/-- A field of a schema. -/
structure Field where
  /-- The name. -/
  name : String
  /-- What the field holds. -/
  kind : FieldKind
  /-- The type of the values, if it is declared. -/
  type? : Option FieldType
  /-- The field may have no value. -/
  nullable : Bool
  /-- How the field is read. -/
  accessor : Accessor
  /-- The field is a column of a stored table. -/
  stored : Bool
  deriving DecidableEq

/-- The key of a name. -/
def fieldKey (name : String) : List Char := lower (trim (name.toList.filter (· ≠ '_')))

/-- The key of a field. -/
def Field.key (f : Field) : List Char := fieldKey f.name

/-- The key is among the keys. -/
def hasKey (keys : List (List Char)) (key : List Char) : Bool := keys.any (· = key)

/-- The fields have pairwise distinct keys. -/
def DistinctKeys (fields : List Field) : Prop := fields.Pairwise fun f g => f.key ≠ g.key

/-- A schema. -/
structure Schema where
  /-- The name of the type of records. -/
  name : String
  /-- The fields. -/
  fields : List Field
  /-- No two fields have the same key. -/
  distinct : DistinctKeys fields

namespace Schema

/-- The first field that repeats one of the given keys or the key of an earlier field. -/
def firstRepeat? : List (List Char) → List Field → Option Field
  | _, [] => none
  | keys, f :: fields => if hasKey keys f.key then some f else firstRepeat? (f.key :: keys) fields

/-- A key is new among one more key if it is another one and new among the rest. -/
theorem hasKey_cons_eq_false {keys : List (List Char)} {key other : List Char} :
    hasKey (key :: keys) other = false ↔ key ≠ other ∧ hasKey keys other = false := by
  simp [hasKey]

/-- Where no key repeats, the keys are new and pairwise distinct. -/
theorem firstRepeat?_eq_none {keys : List (List Char)} {fields : List Field}
    (h : firstRepeat? keys fields = none) :
    (∀ f ∈ fields, hasKey keys f.key = false) ∧ DistinctKeys fields := by
  induction fields generalizing keys with
  | nil => exact ⟨by simp, List.Pairwise.nil⟩
  | cons f fields ih =>
    simp only [firstRepeat?] at h
    split at h
    · simp at h
    · next hf =>
      obtain ⟨hk, hd⟩ := ih h
      refine ⟨fun g hg => ?_, .cons (fun g hg => (hasKey_cons_eq_false.1 (hk g hg)).1) hd⟩
      rcases List.mem_cons.1 hg with rfl | hg
      · simpa using hf
      · exact (hasKey_cons_eq_false.1 (hk g hg)).2

/-- The schema of a list of fields, or the first field that repeats a key. -/
def of? (name : String) (fields : List Field) : Except Field Schema :=
  match h : firstRepeat? [] fields with
  | some f => .error f
  | none => .ok ⟨name, fields, (firstRepeat?_eq_none h).2⟩

/-- What is said of a field that repeats a key. -/
def repeatMessage (name : String) (f : Field) : String :=
  name ++ ": duplicate field " ++ String.ofList (quoted f.name.toList)

/-- The names of the fields. -/
def fieldNames (s : Schema) : List String := s.fields.map Field.name

/-- The field that a name stands for. -/
def resolve? (s : Schema) (name : String) : Option Field :=
  s.fields.find? (·.key = fieldKey name)

/-- The schema without the fields that the names stand for. -/
def without (s : Schema) (names : List String) : Schema where
  name := s.name
  fields := s.fields.filter fun f => !hasKey (names.map fieldKey) f.key
  distinct := s.distinct.filter _

/-- The description of a schema: its name and the names of its fields. -/
def described (s : Schema) : String :=
  let shown (name : String) := String.ofList (quoted name.toList)
  "RecordSchema(" ++ shown s.name ++ ", fields=[" ++
    ", ".intercalate (s.fieldNames.map shown) ++ "])"

end Schema

/-! ## Declarations -/

/-- A field as it is declared: its name, kind and type. -/
structure Declaration where
  /-- The name. -/
  name : String
  /-- What the field holds. -/
  kind : FieldKind
  /-- The type of the values, if it is declared. -/
  type? : Option FieldType

/-- The declarations with one more. It takes the place of an earlier one of the same name. -/
def Declaration.insert (d : Declaration) : List Declaration → List Declaration
  | [] => [d]
  | e :: rest => if e.name = d.name then d :: rest else e :: insert d rest

/-- The schema of a list of declarations, with the names of the fields that may have no value. -/
def Schema.declare? (name : String) (declarations : List Declaration) (nullable : List String)
    (accessor : Accessor) : Except Field Schema :=
  let fields := (declarations.foldl (fun found d => d.insert found) []).map fun d =>
    { name := d.name, kind := d.kind, type? := d.type?
      nullable := hasKey (nullable.map fieldKey) (fieldKey d.name), accessor := accessor
      stored := false : Field }
  Schema.of? name fields

end RecordQuery
