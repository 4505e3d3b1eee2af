import RecordQuery.Text.Blank

/-!
# Operators and connectives

The operators of a criterion with the words that name them in a filter, and the connectives that
join criteria. Two words may name one operator. The words are in letters of either case; only the
letters A to Z have a small form that a word may hold.
-/

namespace RecordQuery

open Text

/-- An operator of a criterion. -/
inductive Operator where
  /-- Equality. -/
  | equals
  /-- Inequality. -/
  | notEquals
  /-- Above the value. -/
  | greaterThan
  /-- Above the value or equal to it. -/
  | greaterThanOrEqual
  /-- Below the value. -/
  | lessThan
  /-- Below the value or equal to it. -/
  | lessThanOrEqual
  /-- The text holds the value. -/
  | contains
  /-- The text begins with the value. -/
  | startsWith
  /-- The text ends with the value. -/
  | endsWith
  /-- Equality with one of several values. -/
  | oneOf
  /-- There is no value. -/
  | isNull
  /-- There is a value. -/
  | isNotNull
  deriving DecidableEq

namespace Operator

/-- All operators. -/
def all : List Operator :=
  [equals, notEquals, greaterThan, greaterThanOrEqual, lessThan, lessThanOrEqual, contains,
   startsWith, endsWith, oneOf, isNull, isNotNull]

/-- The name of an operator in criteria and messages. -/
def name : Operator → String
  | equals => "Equals"
  | notEquals => "NotEquals"
  | greaterThan => "GreaterThan"
  | greaterThanOrEqual => "GreaterThanOrEqual"
  | lessThan => "LessThan"
  | lessThanOrEqual => "LessThanOrEqual"
  | contains => "Contains"
  | startsWith => "StartsWith"
  | endsWith => "EndsWith"
  | oneOf => "In"
  | isNull => "IsNull"
  | isNotNull => "IsNotNull"

/-- The words that name operators in a filter, in small letters. -/
def tokens : List (String × Operator) :=
  [("eq", equals), ("ne", notEquals), ("neq", notEquals), ("gt", greaterThan),
   ("ge", greaterThanOrEqual), ("gte", greaterThanOrEqual), ("lt", lessThan),
   ("le", lessThanOrEqual), ("lte", lessThanOrEqual), ("contains", contains),
   ("startswith", startsWith), ("endswith", endsWith), ("in", oneOf), ("isnull", isNull),
   ("isnotnull", isNotNull)]

/-- The operator that a word in small letters names. -/
def ofToken? (word : List Char) : Option Operator :=
  (tokens.find? (·.1.toList = word)).map (·.2)

/-- The operator that a word names, in letters of either case and perhaps between blanks. -/
def ofWord? (word : String) : Option Operator := ofToken? ((trim word.toList).map Char.toLower)

/-- The operator asks only whether there is a value. -/
def isNullCheck : Operator → Bool
  | isNull | isNotNull => true
  | _ => false

/-- The operator looks into a text. -/
def isTextMatch : Operator → Bool
  | contains | startsWith | endsWith => true
  | _ => false

/-- The word by which a condition names its operator. -/
def symbol? : Operator → Option String
  | equals => some "eq"
  | notEquals => some "ne"
  | greaterThan => some "gt"
  | greaterThanOrEqual => some "ge"
  | lessThan => some "lt"
  | lessThanOrEqual => some "le"
  | contains => some "contains"
  | startsWith => some "startswith"
  | endsWith => some "endswith"
  | oneOf => none
  | isNull => some "isnull"
  | isNotNull => some "isnotnull"

end Operator

/-- What joins a criterion to those before it. -/
inductive Connective where
  /-- Nothing stands before it. -/
  | none
  /-- Both must hold. -/
  | and
  /-- One must hold. -/
  | or
  deriving DecidableEq

namespace Connective

/-- The name of a connective in criteria. -/
def name : Connective → String
  | none => "None"
  | and => "And"
  | or => "Or"

/-- The words that connect terms, in small letters, in the order in which they are looked for. -/
def words : List (List Char × Connective) := [(['a', 'n', 'd'], and), (['o', 'r'], or)]

/-- The connective that a word in small letters stands for. -/
def ofWord? (word : List Char) : Option Connective := (words.find? (·.1 = word)).map (·.2)

end Connective

end RecordQuery
