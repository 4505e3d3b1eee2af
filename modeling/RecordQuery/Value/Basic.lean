import RecordQuery.Choice
import RecordQuery.Guid
import RecordQuery.Number.Shortest
import RecordQuery.Time.DateTime

/-!
# Values

The values of the fields of a record and of the literals of a condition.
-/

namespace RecordQuery

open Number Time

/-- A value. -/
inductive Value where
  /-- No value. -/
  | null
  /-- A truth value. -/
  | bool (b : Bool)
  /-- A text. -/
  | text (s : String)
  /-- An integer. -/
  | int (n : Int)
  /-- A floating-point number. -/
  | float (x : Binary64)
  /-- A decimal number. -/
  | decimal (d : Decimal)
  /-- A fraction. -/
  | fraction (q : Rat)
  /-- An identifier. -/
  | guid (g : Guid)
  /-- A date with a time of day. -/
  | dateTime (t : DateTime)
  /-- A date. -/
  | date (d : Date)
  /-- A member of a choice type. -/
  | member (m : Member)
  deriving DecidableEq

namespace Value

/-- There is no value. -/
def isNull : Value → Bool
  | null => true
  | _ => false

/-- The text that a value stands for in comparisons: its own, or that of a textual member. -/
def text? : Value → Option String
  | text s => some s
  | member ⟨_, _, .text s, true⟩ => some s
  | _ => none

end Value

end RecordQuery
