import RecordQuery.Text.Digit

/-!
# Choice types

A choice type declares named members with a value each. A member whose value an earlier one has is
another name for that one: `Choice.members` leaves it out, and `Choice.denoted?` leads to the
earlier member. The members of a textual type stand for their value wherever they are compared.
-/

namespace RecordQuery

/-- The value of a member. -/
inductive Payload where
  /-- A text. -/
  | text (s : String)
  /-- A whole number. -/
  | whole (n : Int)
  deriving DecidableEq

/-- A member of a choice type. -/
structure Member where
  /-- The name of the type. -/
  typeName : String
  /-- The name of the member. -/
  name : String
  /-- The value of the member. -/
  payload : Payload
  /-- The member stands for its value. -/
  textual : Bool
  deriving DecidableEq

/-- A choice type. -/
structure Choice where
  /-- The name of the type. -/
  name : String
  /-- The members stand for their values. -/
  textual : Bool
  /-- The names and values in the order of their declaration. -/
  entries : List (String × Payload)
  deriving DecidableEq

namespace Choice

/-- The value of an entry: the members of a textual type have texts. -/
def payload (t : Choice) : Payload → Payload
  | .whole n => if t.textual then .text (String.ofList (Text.integerText n)) else .whole n
  | p => p

/-- The member of an entry. -/
def member (t : Choice) (entry : String × Payload) : Member :=
  ⟨t.name, entry.1, t.payload entry.2, t.textual⟩

/-- The members without other names of earlier ones. -/
def members (t : Choice) : List Member :=
  t.entries.foldl (fun found entry =>
    if found.any (·.payload = (t.member entry).payload) then found
    else found ++ [t.member entry]) []

/-- The member that a declared name denotes. -/
def denoted? (t : Choice) (name : String) : Option Member := do
  let entry ← t.entries.find? (·.1 = name)
  t.members.find? (·.payload = (t.member entry).payload)

end Choice

end RecordQuery
