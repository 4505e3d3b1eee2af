import RecordQuery.Number.Binary64
import RecordQuery.Number.Decimal
import RecordQuery.Text.Blank

/-!
# Numerals

The texts that stand for an integer, a floating-point number, a decimal or a fraction. Digits of all
scripts are read; single underscores may part the digits of a group. `integer?`, `binary64?` and
`fraction?` take a text without blanks at its ends. A decimal gives up its underscores wherever they
stand.
-/

namespace RecordQuery.Number

open Text

/-- The number with the given digits, the first one leading. -/
def ofDigits (ds : List Nat) : Nat := ds.foldl (fun n d => 10 * n + d) 0

/-- The digits of a text that holds one digit or more and nothing else. -/
def digits? (s : List Char) : Option (List Nat) :=
  if s.isEmpty then none else s.mapM digitValue?

/-- The digits of a text with single underscores between digits. -/
def groupedDigits? (s : List Char) : Option (List Nat) :=
  ((s.splitOn '_').mapM digits?).map List.flatten

/-- The number of digits from which a text is no longer read as an integer. -/
def maxIntegerDigits : Nat := 4300

/-- The natural number of a text of digits, unless they are too many. -/
def natural? (s : List Char) : Option Nat := do
  let ds ← groupedDigits? s
  if ds.length ≤ maxIntegerDigits then some (ofDigits ds) else none

/-- The sign of a text, and what follows it. -/
def splitSign : List Char → Bool × List Char
  | '-' :: rest => (true, rest)
  | '+' :: rest => (false, rest)
  | s => (false, s)

/-- The number with a sign. -/
def signed (negative : Bool) (n : Nat) : Int := if negative then -n else n

/-- The integer of a text. -/
def integer? (s : List Char) : Option Int :=
  let (negative, rest) := splitSign s
  (natural? rest).map (signed negative)

/-- The parts of a text before and after the first character of the class. -/
def cutAt (p : Char → Bool) (s : List Char) : List Char × Option (List Char) :=
  match s.span (fun c => !p c) with
  | (before, []) => (before, none)
  | (before, _ :: after) => (before, some after)

/-- The letter that introduces an exponent. -/
def isExponentMark (c : Char) : Bool := c = 'e' || c = 'E'

/-- The digits of a part of a numeral that may be empty. -/
def partDigits? (s : List Char) : Option (List Nat) :=
  if s.isEmpty then some [] else groupedDigits? s

/-- The exponent behind its mark, or zero where there is no mark. -/
def exponent? : Option (List Char) → Option Int
  | none => some 0
  | some s =>
    let (negative, rest) := splitSign s
    (groupedDigits? rest).map fun ds => signed negative (ofDigits ds)

/-- The coefficient and exponent of an unsigned numeral: digits with at most one point among them,
then perhaps an exponent. -/
def scientific? (s : List Char) : Option (Nat × Int) := do
  let (mantissa, exponent) := cutAt isExponentMark s
  let (whole, part) := cutAt (· = '.') mantissa
  let wholeDigits ← partDigits? whole
  let partDigits ← partDigits? (part.getD [])
  if wholeDigits.isEmpty ∧ partDigits.isEmpty then none
  else
    let e ← exponent? exponent
    some (ofDigits (wholeDigits ++ partDigits), e - partDigits.length)

/-- A word in either case of its letters. -/
def isWordIn (words : List String) (s : List Char) : Bool :=
  (s.map Char.toLower) ∈ words.map String.toList

/-- The floating-point number of a text. -/
def binary64? (s : List Char) : Option Binary64 :=
  let (negative, rest) := splitSign s
  if isWordIn ["inf", "infinity"] rest then some (.infinity negative)
  else if isWordIn ["nan"] rest then some .nan
  else (scientific? rest).map fun (c, e) => .ofDecimal negative c e

namespace Decimal

/-- The greatest exponent of a leading digit. -/
def maxLead : Int := 999999999999999999

/-- The least exponent. -/
def minExponent : Int := -1999999999999999997

/-- The payload of a NaN: digits, or nothing. -/
def payload? (s : List Char) : Option Nat := if s.isEmpty then some 0 else (digits? s).map ofDigits

/-- The decimal of a text without underscores, blanks or sign. -/
def unsigned? (negative : Bool) (s : List Char) : Option Decimal :=
  if isWordIn ["inf", "infinity"] s then some (.infinity negative)
  else if isWordIn ["nan"] (s.take 3) then (payload? (s.drop 3)).map (.nan negative false)
  else if isWordIn ["snan"] (s.take 4) then (payload? (s.drop 4)).map (.nan negative true)
  else do
    let (c, e) ← scientific? s
    if adjusted c e ≤ maxLead ∧ minExponent ≤ e then some (.finite negative c e) else none

/-- The decimal of a text. -/
def ofText? (s : List Char) : Option Decimal :=
  let (negative, rest) := splitSign ((trim s).filter (· ≠ '_'))
  unsigned? negative rest

end Decimal

/-- What a text says about a fraction. -/
inductive FractionReading where
  /-- The text stands for a fraction. -/
  | value (q : Rat)
  /-- The text is a fraction with denominator zero. -/
  | zeroDenominator
  /-- The text is no fraction. -/
  | malformed
  deriving DecidableEq

/-- The fraction with a power of ten as a factor. -/
def timesPow (q : Rat) (e : Int) : Rat :=
  mkRat (q.num * tenPow e.toNat) (q.den * tenPow (-e).toNat)

/-- The fraction of an unsigned text of the form `a/b`. -/
def quotient? (negative : Bool) (numerator denominator : List Char) : FractionReading :=
  match natural? numerator, natural? denominator with
  | some a, some b =>
    if b = 0 then .zeroDenominator else .value (mkRat (signed negative a) b)
  | _, _ => .malformed

/-- The fraction of an unsigned numeral with a point or an exponent. -/
def pointFraction? (s : List Char) : Option Rat := do
  let (mantissa, exponent) := cutAt isExponentMark s
  let (whole, part) := cutAt (· = '.') mantissa
  let a ← if whole.isEmpty then some 0 else natural? whole
  let places := (part.getD []).filter (· ≠ '_')
  let b ← if (part.getD []).isEmpty then some 0 else natural? (part.getD [])
  if whole.isEmpty ∧ places.isEmpty then none
  else
    let e ← match exponent with
      | none => some 0
      | some t => let (negative, rest) := splitSign t; (natural? rest).map (signed negative)
    some (timesPow (mkRat (a * tenPow places.length + b : Nat) 1) (e - places.length))

/-- The fraction of a text: a quotient of two naturals, or a numeral with a point or an exponent. -/
def fraction? (s : List Char) : FractionReading :=
  let (negative, rest) := splitSign s
  match cutAt (· = '/') rest with
  | (numerator, some denominator) => quotient? negative numerator denominator
  | (_, none) =>
    match pointFraction? rest with
    | some q => .value (if negative then -q else q)
    | none => .malformed

end RecordQuery.Number
