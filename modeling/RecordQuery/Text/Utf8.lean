/-!
# Octets to characters

Text arrives as a sequence of pieces, octets and plain characters. Runs of octets are read as UTF-8;
a plain character ends a run. Where the octets are not well formed, each longest part that could
have begun a character, or else each single octet, is replaced by U+FFFD.
-/

namespace RecordQuery.Text

/-- A piece of encoded text. -/
inductive Piece where
  /-- One octet of an encoded character. -/
  | octet (n : Nat)
  /-- A character that stands for itself. -/
  | plain (c : Char)
  deriving DecidableEq, Repr

namespace Utf8

/-- A character whose first octets have been read. -/
structure Partial where
  /-- How many octets are still owed. -/
  owed : Nat
  /-- The least value of the next octet. -/
  low : Nat
  /-- The greatest value of the next octet. -/
  high : Nat
  /-- The bits read so far. -/
  bits : Nat
  deriving DecidableEq, Repr

/-- The character that replaces what cannot be read. -/
def replacement : Char := Char.ofNat 0xFFFD

/-- An octet between characters: the characters it completes, and the character it begins. -/
def begin (b : Nat) : List Char × Option Partial :=
  if b ≤ 0x7F then ([Char.ofNat b], none)
  else if 0xC2 ≤ b ∧ b ≤ 0xDF then ([], some ⟨1, 0x80, 0xBF, b % 0x20⟩)
  else if b = 0xE0 then ([], some ⟨2, 0xA0, 0xBF, b % 0x10⟩)
  else if b = 0xED then ([], some ⟨2, 0x80, 0x9F, b % 0x10⟩)
  else if 0xE1 ≤ b ∧ b ≤ 0xEF then ([], some ⟨2, 0x80, 0xBF, b % 0x10⟩)
  else if b = 0xF0 then ([], some ⟨3, 0x90, 0xBF, b % 0x08⟩)
  else if 0xF1 ≤ b ∧ b ≤ 0xF3 then ([], some ⟨3, 0x80, 0xBF, b % 0x08⟩)
  else if b = 0xF4 then ([], some ⟨3, 0x80, 0x8F, b % 0x08⟩)
  else ([replacement], none)

/-- An octet after the octets read so far. An octet that cannot continue the character ends it with
a replacement and is read afresh. -/
def step (state : Option Partial) (b : Nat) : List Char × Option Partial :=
  match state with
  | none => begin b
  | some p =>
    if p.low ≤ b ∧ b ≤ p.high then
      let bits := p.bits * 0x40 + b % 0x40
      if p.owed ≤ 1 then ([Char.ofNat bits], none)
      else ([], some ⟨p.owed - 1, 0x80, 0xBF, bits⟩)
    else
      let (out, next) := begin b
      (replacement :: out, next)

/-- What an unfinished character leaves behind. -/
def flush : Option Partial → List Char
  | none => []
  | some _ => [replacement]

/-- The characters of a sequence of pieces after the octets read so far. -/
def decodeFrom : Option Partial → List Piece → List Char
  | state, [] => flush state
  | state, .octet b :: rest =>
    let (out, next) := step state b
    out ++ decodeFrom next rest
  | state, .plain c :: rest => flush state ++ c :: decodeFrom none rest

/-- The characters of a sequence of pieces. -/
def decode (pieces : List Piece) : List Char := decodeFrom none pieces

end Utf8

end RecordQuery.Text
