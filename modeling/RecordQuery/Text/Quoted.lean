import RecordQuery.Text.Digit
import RecordQuery.Text.Printable

/-!
# Quoted text

A text is described between single quotes, or between double quotes where it holds a single quote
and no double one. The quote in use and the backslash are written behind a backslash, line feed,
carriage return and tab by their letters, and every other character that is not printable by its
code point in two, four or eight hexadecimal digits.
-/

namespace RecordQuery.Text

/-- The single quote. -/
def singleQuote : Char := '\x27'

/-- The double quote. -/
def doubleQuote : Char := '\x22'

/-- The backslash. -/
def backslash : Char := '\x5c'

/-- The written form of one character between the given quotes. -/
def escapeChar (quote c : Char) : List Char :=
  let n := c.toNat
  if c = quote ∨ c = backslash then [backslash, c]
  else if c = '\n' then [backslash, 'n']
  else if c = '\r' then [backslash, 'r']
  else if c = '\t' then [backslash, 't']
  else if isPrintable c then [c]
  else if n < 0x100 then backslash :: 'x' :: hexText 2 n
  else if n < 0x10000 then backslash :: 'u' :: hexText 4 n
  else backslash :: 'U' :: hexText 8 n

/-- The quote that the description of a text uses. -/
def quoteFor (s : List Char) : Char :=
  if singleQuote ∈ s ∧ doubleQuote ∉ s then doubleQuote else singleQuote

/-- The description of a text. -/
def quoted (s : List Char) : List Char :=
  let quote := quoteFor s
  quote :: s.flatMap (escapeChar quote) ++ [quote]

end RecordQuery.Text
