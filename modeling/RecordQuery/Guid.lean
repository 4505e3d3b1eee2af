import RecordQuery.Number.Scaled
import RecordQuery.Text.Blank
import RecordQuery.Text.Digit
import RecordQuery.Text.Part

/-!
# Identifiers of 128 bits

An identifier is written as 32 hexadecimal digits in groups of 8, 4, 4, 4 and 12. Reading passes
over hyphens, braces at the ends and the words `urn:` and `uuid:`; the 32 characters that remain are
a hexadecimal numeral, with all that such a numeral may hold.
-/

namespace RecordQuery

open Text

/-- An identifier. -/
structure Guid where
  /-- The identifier as a number. -/
  value : Nat
  /-- The number has 128 bits. -/
  value_lt : value < Number.twoPow 128
  deriving DecidableEq

namespace Guid

/-- The number of characters that remain of a text. -/
def digitCount : Nat := 32

/-- The identifier of a number, if it has 128 bits. -/
def ofNat? (n : Nat) : Option Guid := if h : n < Number.twoPow 128 then some ⟨n, h⟩ else none

/-- The identifier in 32 hexadecimal digits. -/
def hex (g : Guid) : List Char := hexText digitCount g.value

/-- The identifier in groups of 8, 4, 4, 4 and 12 hexadecimal digits. -/
def text (g : Guid) : List Char :=
  let s := g.hex
  s.take 8 ++ '-' :: (s.drop 8).take 4 ++ '-' :: (s.drop 12).take 4 ++
    '-' :: (s.drop 16).take 4 ++ '-' :: s.drop 20

/-! ## Reading -/

/-- A hexadecimal digit; the digits 0 to 9 of all scripts count. -/
def digit? (c : Char) : Option Nat := (hexValue? c).or (digitValue? c)

/-- The digits of a group, one or more. -/
def group? (s : List Char) : Option (List Nat) := if s.isEmpty then none else s.mapM digit?

/-- The number of the digits, with single underscores between digits. -/
def digits? (s : List Char) : Option Nat :=
  ((s.splitOn '_').mapM group?).map fun groups => groups.flatten.foldl (fun n d => 16 * n + d) 0

/-- The text without `0x` at its front and one underscore behind it. -/
def dropMarker : List Char → List Char
  | '0' :: x :: rest =>
    if x = 'x' ∨ x = 'X' then
      match rest with
      | '_' :: rest => rest
      | rest => rest
    else '0' :: x :: rest
  | s => s

/-- The number of a hexadecimal numeral with a sign. No negative number but zero is one. -/
def numeral? (s : List Char) : Option Nat :=
  match trimBy isWhiteSpace s with
  | '-' :: rest => (digits? (dropMarker rest)).bind fun n => if n = 0 then some 0 else none
  | '+' :: rest => digits? (dropMarker rest)
  | rest => digits? (dropMarker rest)

/-- A brace. -/
def isBrace (c : Char) : Bool := c = '\x7b' || c = '\x7d'

/-- The characters of a text that make up the numeral. -/
def core (s : List Char) : List Char :=
  (trimBy isBrace (removeAll "uuid:".toList (removeAll "urn:".toList s))).filter (· ≠ '-')

/-- The identifier of a text. -/
def ofText? (s : List Char) : Option Guid :=
  let digits := core s
  if digits.length = digitCount then (numeral? digits).bind ofNat? else none

end Guid

end RecordQuery
