import RecordQuery.Number.Scaled

/-!
# Binary floating-point numbers of 64 bits

A finite number is a whole number of units of `2 ^ -1074`: a mantissa below `2 ^ 53` times a power
of two, in its canonical form. `Binary64.ofRatio` rounds an exact quotient to the nearest number, a
tie to the even mantissa, and reaches the infinities beyond the largest number.
-/

namespace RecordQuery.Number

/-- The least unit is two to the power of minus this number. -/
def leastExponent : Nat := 1074

/-- The mantissa and the exponent of the unit in their canonical form: the mantissa has 53 bits
unless the unit is the least one. -/
def CanonicalMantissa (mantissa unit : Nat) : Prop :=
  mantissa < twoPow 53 ∧ unit ≤ 2045 ∧ (twoPow 52 ≤ mantissa ∨ unit = 0)

instance (mantissa unit : Nat) : Decidable (CanonicalMantissa mantissa unit) :=
  inferInstanceAs (Decidable (_ ∧ _ ∧ _))

/-- A floating-point number, an infinity or the NaN. -/
inductive Binary64 where
  /-- No number. -/
  | nan
  /-- An infinity. -/
  | infinity (negative : Bool)
  /-- The number `mantissa * 2 ^ unit * 2 ^ -1074`, with a sign that zero has too. -/
  | finite (negative : Bool) (mantissa unit : Nat) (canonical : CanonicalMantissa mantissa unit)
  deriving DecidableEq

/-- The quotient rounded to the nearest whole number, a tie to the even one. -/
def roundHalfEven (n d : Nat) : Nat :=
  let q := n / d
  match compare (2 * (n % d)) d with
  | .lt => q
  | .gt => q + 1
  | .eq => if q % 2 = 0 then q else q + 1

namespace Binary64

/-- The number with this sign, mantissa and unit, or the infinity where the unit is too large. -/
def make (negative : Bool) (mantissa unit : Nat) : Binary64 :=
  if h : CanonicalMantissa mantissa unit then finite negative mantissa unit h
  else infinity negative

/-- The zero of a sign. -/
def zero (negative : Bool) : Binary64 := finite negative 0 0 (by decide)

/-- The exponent of the unit in which the mantissa of `n / d` least units has 53 bits, or zero. -/
def unitOf (n d : Nat) : Nat :=
  let whole := n / d
  if whole = 0 then 0 else whole.log2 - 52

/-- The number nearest to `n / d`. -/
def ofRatio (negative : Bool) (n d : Nat) : Binary64 :=
  let least := n * twoPow leastExponent
  let unit := unitOf least d
  let mantissa := roundHalfEven least (d * twoPow unit)
  if mantissa = twoPow 53 then make negative (twoPow 52) (unit + 1)
  else make negative mantissa unit

/-- The number nearest to `coefficient * 10 ^ exponent`. Exponents that lead beyond the largest
number or below half of the least one are answered without writing the power out. -/
def ofDecimal (negative : Bool) (coefficient : Nat) (exponent : Int) : Binary64 :=
  if coefficient = 0 then zero negative
  else if 400 < exponent then infinity negative
  else if exponent + (coefficient.log2 + 1) < -400 then zero negative
  else if 0 ≤ exponent then ofRatio negative (coefficient * tenPow exponent.toNat) 1
  else ofRatio negative coefficient (tenPow (-exponent).toNat)

/-- The count of least units in a finite number, without its sign. -/
def units (mantissa unit : Nat) : Nat := mantissa * twoPow unit

/-- The number that a floating-point number stands for. -/
def value? : Binary64 → Option Extended
  | nan => none
  | infinity negative => some (.infinity negative)
  | finite negative mantissa unit _ =>
    let n : Int := units mantissa unit
    some (.finite ⟨mkRat (if negative then -n else n) (twoPow leastExponent), 0⟩)

end Binary64

end RecordQuery.Number
