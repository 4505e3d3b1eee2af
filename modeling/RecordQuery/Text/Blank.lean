/-!
# Blank characters

A class of characters is given by a list of closed ranges of code points, in ascending order and
apart. `inRanges` looks a code point up and stops at the first range that lies beyond it.

Blank characters are those with a bidirectional class of separator or white space, or of category
Zs: the information separators U+001C to U+001F, U+0085 and the no-break space are among them.
`trim` removes them at both ends.
-/

namespace RecordQuery.Text

/-- Membership in a list of closed ranges that ascend. -/
def inRanges : List (Nat × Nat) → Nat → Bool
  | [], _ => false
  | (low, high) :: rest, n => if n < low then false else if n ≤ high then true else inRanges rest n

/-- The blank code points. -/
def blankRanges : List (Nat × Nat) :=
  [(0x9, 0xD), (0x1C, 0x20), (0x85, 0x85), (0xA0, 0xA0), (0x1680, 0x1680), (0x2000, 0x200A),
   (0x2028, 0x2029), (0x202F, 0x202F), (0x205F, 0x205F), (0x3000, 0x3000)]

/-- A blank character. -/
def isBlank (c : Char) : Bool := inRanges blankRanges c.toNat

/-- A blank character that is no information separator. -/
def isWhiteSpace (c : Char) : Bool := isBlank c && (c.toNat < 0x1C || 0x1F < c.toNat)

/-- The text without the characters of the class at its end. -/
def trimEndBy (p : Char → Bool) (s : List Char) : List Char := (s.reverse.dropWhile p).reverse

/-- The text without the characters of the class at either end. -/
def trimBy (p : Char → Bool) (s : List Char) : List Char := trimEndBy p (s.dropWhile p)

/-- The text without blanks at either end. -/
def trim (s : List Char) : List Char := trimBy isBlank s

/-- Nothing but blanks. -/
def allBlank (s : List Char) : Bool := s.all isBlank

end RecordQuery.Text
