/-!
# Patterns with wildcards

In a pattern a percent sign stands for any text and an underscore for any one character; behind a
slash they stand for themselves, and so does the slash. The letters A to Z match in either case.
Neither a pattern nor a text is read beyond the first character NUL. `Like.literal` is the pattern
that matches a text as it stands.

Texts with the noncharacters U+FFFE and U+FFFF are left out: they may be read as the replacement
character U+FFFD, while here every character stands for itself.
-/

namespace RecordQuery.Text.Like

/-- A piece of a pattern. -/
inductive Token where
  /-- This character. -/
  | exactly (c : Char)
  /-- Any one character. -/
  | anyOne
  /-- Any text. -/
  | anyText
  deriving DecidableEq

/-- The character behind which a wildcard stands for itself. -/
def escape : Char := '/'

/-- A character that a pattern gives a meaning of its own. -/
def isSpecial (c : Char) : Bool := c = '%' || c = '_' || c = escape

/-- The pattern that matches a text as it stands. -/
def literal (s : List Char) : List Char :=
  s.flatMap fun c => if isSpecial c then [escape, c] else [c]

/-- The pieces of a pattern. -/
def tokens : List Char → List Token
  | [] => []
  | c :: rest =>
    if c = escape then
      match rest with
      | [] => [.exactly c]
      | d :: rest => .exactly d :: tokens rest
    else
      (if c = '%' then .anyText else if c = '_' then .anyOne else .exactly c) :: tokens rest

/-- Equality of characters, the letters A to Z in either case. -/
def sameLetter (c d : Char) : Bool := c.toLower = d.toLower

/-- The property holds of the text or of an end of it. -/
def someEnd (p : List Char → Bool) : List Char → Bool
  | [] => p []
  | c :: s => p (c :: s) || someEnd p s

/-- The pieces match the whole text. -/
def matchTokens : List Token → List Char → Bool
  | [], s => s.isEmpty
  | .anyText :: ts, s => someEnd (matchTokens ts) s
  | .anyOne :: ts, s =>
    match s with
    | [] => false
    | _ :: s => matchTokens ts s
  | .exactly c :: ts, s =>
    match s with
    | [] => false
    | d :: s => sameLetter c d && matchTokens ts s

/-- The text in front of the first character NUL. -/
def upToNul (s : List Char) : List Char := s.takeWhile (· ≠ '\x00')

/-- The pattern matches the whole text, as far as they are read. -/
def isMatch (pattern s : List Char) : Bool := matchTokens (tokens (upToNul pattern)) (upToNul s)

end RecordQuery.Text.Like
