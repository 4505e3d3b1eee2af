/-!
# Faults

What goes wrong where no filter is to blame: a value that cannot be compared, a field that a record
lacks, a number or a date beyond its range, a column that does not take a literal, or an integer
that is too long to be written.
-/

namespace RecordQuery

/-- The cause of a failure that is not the refusal of a filter. -/
inductive Fault where
  /-- Two values have no order, or a value has none of the operations asked of it. -/
  | incomparable
  /-- A comparison with a decimal NaN. -/
  | invalidOperation
  /-- The record has no attribute of the field's name. -/
  | missingAttribute
  /-- The record has no entry of the field's name. -/
  | missingEntry
  /-- A condition compares by an operator that has no comparison. -/
  | unknownComparison
  /-- A number or a date lies outside the range in which it is needed. -/
  | outOfRange
  /-- A fraction has the denominator zero. -/
  | zeroDenominator
  /-- A column is compared by an operator of order with a truth value or with nothing. -/
  | unfitArgument
  /-- An integer has more digits than are written. -/
  | tooManyDigits
  deriving DecidableEq

end RecordQuery
