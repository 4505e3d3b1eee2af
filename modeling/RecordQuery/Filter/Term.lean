import RecordQuery.Criterion
import RecordQuery.Filter.Part
import RecordQuery.Text.Word

/-!
# The terms of a filter

A term is a property, blanks and the word of a null check, or a property, blanks, the word of
another operator, blanks and a value. The value is a list between parentheses, a text between
quotes, or a bare text.
-/

namespace RecordQuery.Filter

open Text

/-! ## Values -/

/-- A parenthesis. -/
def isParenthesis (c : Char) : Bool := c = '(' || c = ')'

/-- What is taken off the ends of an item: quotes and spaces. -/
def isItemPadding (c : Char) : Bool := isQuote c || c = ' '

/-- The text begins and ends with a parenthesis. -/
def isParenthesized (s : List Char) : Bool := s.head? = some '(' && s.getLast? = some ')'

/-- The items of a list without its parentheses. A comma parts items wherever it stands. -/
def items (s : List Char) : List String :=
  if allBlank s then []
  else (s.splitOn ',').map fun item => String.ofList (trimBy isItemPadding item)

/-- The text between quotes, if the text begins and ends with the same quote. -/
def unquoted? (s : List Char) : Option (List Char) :=
  if 2 ≤ s.length ∧ (s.head?.any isQuote) ∧ s.getLast? = s.head? then some (s.drop 1).dropLast
  else none

/-- The operand that a text stands for. -/
def operand (text : List Char) : Operand :=
  let s := trim text
  if isParenthesized s then .list (items (trimBy isParenthesis s))
  else .text (String.ofList ((unquoted? s).getD s))

/-! ## Terms -/

/-- The first characters of the class, one or more, and the rest. -/
def takeRun? (p : Char → Bool) (s : List Char) : Option (List Char × List Char) :=
  if (s.takeWhile p).isEmpty then none else some (s.takeWhile p, s.dropWhile p)

/-- The operator of a word and what follows it: nothing behind a null check, and a value behind
blanks otherwise. -/
def operation? (s : List Char) : Option (Operator × Operand) := do
  let (word, rest) ← takeRun? (fun c => !isBlank c) s
  let operator ← Operator.ofToken? (word.map Char.toLower)
  if operator.isNullCheck then
    if rest.isEmpty then some (operator, .absent) else none
  else
    let (_, value) ← takeRun? isBlank rest
    if value.isEmpty then none else some (operator, operand value)

/-- The criterion of a term. -/
def criterion? (term : List Char) : Option Criterion := do
  let (property, rest) ← takeRun? isWord (trim term)
  let (_, rest) ← takeRun? isBlank rest
  let (operator, operand) ← operation? rest
  some ⟨String.ofList property, operator, operand, .none⟩

end RecordQuery.Filter
