import RecordQuery.Number.Scaled
import RecordQuery.Text.Digit

/-!
# Decimal numbers

A decimal keeps its coefficient and exponent apart, so `1.50` and `1.5` are two decimals of one
value. `Decimal.text` writes positionally where the exponent is not positive and at most five zeros
follow the point, and otherwise with one digit before the point and an exponent.
-/

namespace RecordQuery.Number

open Text

/-- A decimal number, an infinity or a NaN. -/
inductive Decimal where
  /-- The number `coefficient * 10 ^ exponent`, with a sign that zero has too. -/
  | finite (negative : Bool) (coefficient : Nat) (exponent : Int)
  /-- An infinity. -/
  | infinity (negative : Bool)
  /-- No number; a signaling one lets no comparison pass. The payload only shows in the text. -/
  | nan (negative signaling : Bool) (payload : Nat)
  deriving DecidableEq, Repr

/-- A minus sign if the number is negative. -/
def signText (negative : Bool) : List Char := if negative then ['-'] else []

/-- Digits in positional notation. The point stands behind the first `point` digits; zeros fill the
places between the digits and a point outside them. -/
def positional (digits : List Char) (point : Int) : List Char :=
  if point ≤ 0 then ['0', '.'] ++ List.replicate (-point).toNat '0' ++ digits
  else if point < digits.length then digits.take point.toNat ++ '.' :: digits.drop point.toNat
  else digits ++ List.replicate (point.toNat - digits.length) '0'

/-- Digits with a point behind the first one, if others follow. -/
def leadingDigit : List Char → List Char
  | d :: e :: rest => d :: '.' :: e :: rest
  | digits => digits

namespace Decimal

/-- The exponent of the leading digit of a coefficient and exponent. -/
def adjusted (coefficient : Nat) (exponent : Int) : Int :=
  exponent + (decimalText coefficient).length - 1

/-- The text of a decimal. -/
def text : Decimal → List Char
  | finite negative coefficient exponent =>
    let digits := decimalText coefficient
    let lead := adjusted coefficient exponent
    signText negative ++
      if exponent ≤ 0 ∧ -6 ≤ lead then positional digits (lead + 1)
      else leadingDigit digits ++ 'E' :: (if lead < 0 then '-' else '+') :: decimalText lead.natAbs
  | infinity negative => signText negative ++ "Infinity".toList
  | nan negative signaling payload =>
    signText negative ++ (if signaling then ['s'] else []) ++ "NaN".toList ++
      if payload = 0 then [] else decimalText payload

/-- The number that a decimal stands for. -/
def value? : Decimal → Option Extended
  | finite negative coefficient exponent =>
    let c : Int := if negative then -coefficient else coefficient
    some (.finite ⟨c, exponent⟩)
  | infinity negative => some (.infinity negative)
  | nan .. => none

end Decimal

end RecordQuery.Number
