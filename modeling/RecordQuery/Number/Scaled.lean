/-!
# Ratios times powers of ten

The parts of numbers are counted in powers: of two the units of floating-point numbers and the
widths of words, of ten the decimal places. `Scaled` is an exact rational number held as a ratio and
a power of ten, and `Extended` adds the two infinities. Comparison is exact for every exponent: a
power that outgrows the other side is never written out.
-/

namespace RecordQuery.Number

/-- Two to the power. -/
def twoPow (n : Nat) : Nat := Nat.pow 2 n

/-- Ten to the power. -/
def tenPow (n : Nat) : Nat := Nat.pow 10 n

/-- The number `ratio * 10 ^ exponent`. -/
structure Scaled where
  /-- The ratio in front of the power of ten. -/
  ratio : Rat
  /-- The exponent of ten. -/
  exponent : Int
  deriving DecidableEq

/-- Compares `a * 10 ^ e` with `b`. A power of ten beyond the bit length of `b` decides alone. -/
def compareTimesPow (a e b : Nat) : Ordering :=
  if a = 0 then compare 0 b
  else if b.log2 < e then .gt
  else compare (a * tenPow e) b

/-- Compares `a * 10 ^ e` with `b`, sign first. -/
def compareIntTimesPow : Int → Nat → Int → Ordering
  | .ofNat a, e, .ofNat b => compareTimesPow a e b
  | .ofNat _, _, .negSucc _ => .gt
  | .negSucc _, _, .ofNat _ => .lt
  | .negSucc a, e, .negSucc b => (compareTimesPow (a + 1) e (b + 1)).swap

/-- The order of two numbers, by cross multiplication and the difference of the exponents. -/
def Scaled.compare (x y : Scaled) : Ordering :=
  let a := x.ratio.num * y.ratio.den
  let b := y.ratio.num * x.ratio.den
  if y.exponent ≤ x.exponent then compareIntTimesPow a (x.exponent - y.exponent).toNat b
  else (compareIntTimesPow b (y.exponent - x.exponent).toNat a).swap

/-- A number or an infinity. -/
inductive Extended where
  /-- Below every number. -/
  | negInfinity
  /-- A number. -/
  | finite (x : Scaled)
  /-- Above every number. -/
  | posInfinity
  deriving DecidableEq

/-- The infinity of a sign. -/
def Extended.infinity (negative : Bool) : Extended := if negative then negInfinity else posInfinity

/-- The order of numbers and infinities. -/
def Extended.compare : Extended → Extended → Ordering
  | finite x, finite y => x.compare y
  | negInfinity, negInfinity => .eq
  | posInfinity, posInfinity => .eq
  | negInfinity, _ => .lt
  | _, posInfinity => .lt
  | _, negInfinity => .gt
  | posInfinity, _ => .gt

end RecordQuery.Number
