import RecordQuery.Number.Binary64
import RecordQuery.Number.Decimal

/-!
# Shortest decimals

`Binary64.digits` chooses the decimal that a floating-point number is written with: among the
decimals that round to the number, one with the fewest digits, and of these the nearest.
`Binary64.toDecimal` is that decimal with the exponent that its text shows, and `Binary64.text` the
text: positional from `0.0001` to below `1e16`, with at least one digit behind the point, and
otherwise with an exponent of at least two digits.
-/

namespace RecordQuery.Number

open Text

namespace Binary64

/-- Four times the count of least units at the lower end of the numbers that round to this one. -/
def lowerEnd (mantissa unit : Nat) : Nat :=
  4 * units mantissa unit -
    if mantissa = twoPow 52 ∧ 0 < unit then twoPow unit else 2 * twoPow unit

/-- Four times the count of least units at the upper end of the numbers that round to this one. -/
def upperEnd (mantissa unit : Nat) : Nat := 4 * units mantissa unit + 2 * twoPow unit

/-- Compares `c * 10 ^ g` with a number of quarters of the least unit. -/
def compareQuarters (c : Nat) (g : Int) (quarters : Nat) : Ordering :=
  compare (c * tenPow g.toNat * twoPow (leastExponent + 2)) (quarters * tenPow (-g).toNat)

/-- The decimal `c * 10 ^ g` rounds to the number with this mantissa and unit. The ends of the
interval round to it as well if the mantissa is even. -/
def readsBack (mantissa unit c : Nat) (g : Int) : Bool :=
  let low := compareQuarters c g (lowerEnd mantissa unit)
  let high := compareQuarters c g (upperEnd mantissa unit)
  if mantissa % 2 = 0 then low != .lt && high != .gt else low == .gt && high == .lt

/-- The count of the grid points of spacing `10 ^ g` up to the number. -/
def gridFloor (mantissa unit : Nat) (g : Int) : Nat :=
  units mantissa unit * tenPow (-g).toNat / (twoPow leastExponent * tenPow g.toNat)

/-- The decimal of spacing `10 ^ g` that rounds to the number and lies nearest to it, if any. Of two
at the same distance the even one is taken. -/
def onGrid? (mantissa unit : Nat) (g : Int) : Option (Nat × Int) :=
  let below := gridFloor mantissa unit g
  let nearest :=
    match compareQuarters (2 * below + 1) g (8 * units mantissa unit) with
    | .gt => below
    | .lt => below + 1
    | .eq => if below % 2 = 0 then below else below + 1
  let other := if nearest = below then below + 1 else below
  if readsBack mantissa unit nearest g then some (nearest, g)
  else if readsBack mantissa unit other g then some (other, g)
  else none

/-- The number as a decimal: its exact value. -/
def exactDecimal (mantissa unit : Nat) : Nat × Int :=
  (units mantissa unit * Nat.pow 5 leastExponent, -leastExponent)

/-- The exponent of the leading digit of a number other than zero, off by at most one: the binary
exponent times the logarithm of two. -/
def leadEstimate (mantissa unit : Nat) : Int :=
  let binary : Int := (units mantissa unit).log2 - leastExponent
  binary * 30103 / 100000

/-- The exponent of the leading digit of a number other than zero. -/
def leadExponent (mantissa unit : Nat) : Int :=
  let estimate := leadEstimate mantissa unit
  let quarters := 4 * units mantissa unit
  if compareQuarters 1 (estimate + 1) quarters != .gt then estimate + 1
  else if compareQuarters 1 estimate quarters != .gt then estimate
  else estimate - 1

/-- The coefficient without the zeros at its end, and the exponent that makes up for them. -/
def stripZeros : Nat → Nat → Int → Nat × Int
  | 0, c, g => (c, g)
  | fuel + 1, c, g => if c % 10 = 0 ∧ c ≠ 0 then stripZeros fuel (c / 10) (g + 1) else (c, g)

/-- The coefficient and exponent that a number other than zero is written with. Seventeen digits are
enough; the exact value stands in for the case that they were not. -/
def digits (mantissa unit : Nat) : Nat × Int :=
  let lead := leadExponent mantissa unit
  let chosen :=
    ((List.range 17).findSome? fun n => onGrid? mantissa unit (lead - (n : Nat))).getD
      (exactDecimal mantissa unit)
  stripZeros 1100 chosen.1 chosen.2

/-- The least exponent of the leading digit in positional notation. -/
def positionalFrom : Int := -4

/-- The exponent of the leading digit from which positional notation ends. -/
def positionalBelow : Int := 16

/-- A coefficient and exponent with a digit behind the point where the notation is positional. -/
def withPointDigit (c : Nat) (g : Int) : Nat × Int :=
  let lead := Decimal.adjusted c g
  if positionalFrom ≤ lead ∧ lead < positionalBelow ∧ 0 ≤ g then (c * tenPow (g.toNat + 1), -1)
  else (c, g)

/-- The decimal that the text of a number shows. -/
def toDecimal : Binary64 → Decimal
  | nan => .nan false false 0
  | infinity negative => .infinity negative
  | finite negative mantissa unit _ =>
    let (c, g) := if mantissa = 0 then (0, 0) else digits mantissa unit
    let (c, g) := withPointDigit c g
    .finite negative c g

/-- The exponent in at least two digits, behind its sign. -/
def exponentText (lead : Int) : List Char :=
  (if lead < 0 then '-' else '+') :: paddedText 2 lead.natAbs

/-- The text of a number. -/
def text (x : Binary64) : List Char :=
  match x.toDecimal with
  | .nan .. => "nan".toList
  | .infinity negative => signText negative ++ "inf".toList
  | .finite negative c g =>
    let lead := Decimal.adjusted c g
    signText negative ++
      if positionalFrom ≤ lead ∧ lead < positionalBelow then positional (decimalText c) (lead + 1)
      else leadingDigit (decimalText c) ++ 'e' :: exponentText lead

end Binary64

end RecordQuery.Number
