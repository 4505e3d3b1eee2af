import RecordQuery.Fault
import RecordQuery.Number.Binary64

/-!
# Pages

A list of records is handed out in pages that are counted from 1. Whether a page follows is decided
on the quotient of the total and the size of a page as a floating-point number, rounded up to a
whole number.
-/

namespace RecordQuery

open Number

/-- A page of records. -/
structure Page (α : Type) where
  /-- The records of the page. -/
  items : List α
  /-- The number of all records. -/
  total : Nat
  /-- A page follows. -/
  hasNext : Bool

/-- The number of records before a page. -/
def pageOffset (page size : Int) : Int := (page - 1) * size

/-- The quotient as the nearest floating-point number. -/
def nearestQuotient (n d : Int) : Binary64 :=
  .ofRatio (decide (n < 0) != decide (d < 0)) n.natAbs d.natAbs

/-- The least whole number that is not below a floating-point number. -/
def Number.Binary64.ceil? : Binary64 → Option Int
  | finite negative mantissa unit _ =>
    let n : Int := units mantissa unit
    some (-((if negative then n else -n) / (twoPow leastExponent : Int)))
  | _ => none

/-- Whether a page follows a page. -/
def hasNextPage (page size total : Int) : Except Fault Bool :=
  if size ≤ 0 then .ok false
  else
    match (nearestQuotient total size).ceil? with
    | some pages => .ok (decide (page < pages))
    | none => .error .outOfRange

end RecordQuery
