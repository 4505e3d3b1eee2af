import RecordQuery.Text.Digit
import RecordQuery.Text.Utf8

/-!
# Percent escapes

In a query string a plus sign stands for a space, and a percent sign with two hexadecimal digits for
an octet; a percent sign without them stands for itself. The octets and the characters below U+0080
between two characters beyond them are read together as UTF-8. `percentEncode` escapes exactly the
two characters that `percentDecode` would not leave alone.
-/

namespace RecordQuery.Text

/-- One character outside an escape. -/
def Piece.ofChar (c : Char) : Piece :=
  if c = '+' then .octet 0x20 else if c.toNat < 0x80 then .octet c.toNat else .plain c

/-- The pieces of an encoded text. -/
def percentPieces : List Char → List Piece
  | [] => []
  | c :: rest =>
    match c, rest with
    | '%', a :: b :: rest' =>
      match hexValue? a, hexValue? b with
      | some x, some y => .octet (16 * x + y) :: percentPieces rest'
      | _, _ => Piece.ofChar '%' :: percentPieces (a :: b :: rest')
    | c, rest => Piece.ofChar c :: percentPieces rest

/-- The text that an encoded text stands for. -/
def percentDecode (s : List Char) : List Char := Utf8.decode (percentPieces s)

/-- The escape of one character. -/
def percentEscape (c : Char) : List Char :=
  if c = '%' then ['%', '2', '5'] else if c = '+' then ['%', '2', 'B'] else [c]

/-- An encoded text that stands for the given one. -/
def percentEncode (s : List Char) : List Char := s.flatMap percentEscape

end RecordQuery.Text
