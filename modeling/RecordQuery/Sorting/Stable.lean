/-!
# Stable sorting

`sortStably` sorts a list by a comparison that may fail; elements of which neither precedes the
other keep their places. The run at the front of the list is taken over as it stands, or in reverse
if it is strictly descending, and every further element goes to its place in what is sorted so far,
found by halving. Where the comparison is an order, this is the one stable arrangement; where it is
none, these comparisons decide.
-/

namespace RecordQuery.Sorting

variable {κ ε : Type}

/-- The longest front of the second list in which none precedes the one before it, and the rest. -/
def ascendingRun (precedes : κ → κ → Except ε Bool) : κ → List κ → Except ε (List κ × List κ)
  | _, [] => .ok ([], [])
  | x, y :: rest => do
    if ← precedes y x then return ([], y :: rest)
    else
      let (run, rest) ← ascendingRun precedes y rest
      return (y :: run, rest)

/-- The longest front of the second list in which each precedes the one before it, and the rest. -/
def descendingRun (precedes : κ → κ → Except ε Bool) : κ → List κ → Except ε (List κ × List κ)
  | _, [] => .ok ([], [])
  | x, y :: rest => do
    if ← precedes y x then
      let (run, rest) ← descendingRun precedes y rest
      return (y :: run, rest)
    else return ([], y :: rest)

/-- The run at the front of a list, in ascending order, and the rest. -/
def frontRun (precedes : κ → κ → Except ε Bool) : List κ → Except ε (List κ × List κ)
  | [] => .ok ([], [])
  | [x] => .ok ([x], [])
  | x :: y :: rest => do
    if ← precedes y x then
      let (run, rest) ← descendingRun precedes y rest
      return ((x :: y :: run).reverse, rest)
    else
      let (run, rest) ← ascendingRun precedes y rest
      return (x :: y :: run, rest)

/-- The sorted list with an element behind those that it does not precede. -/
def place (precedes : κ → κ → Except ε Bool) (x : κ) (sorted : List κ) : Except ε (List κ) :=
  match h : sorted.drop (sorted.length / 2) with
  | [] => .ok [x]
  | middle :: after => do
    have hlen : sorted.length - sorted.length / 2 = after.length + 1 := by
      rw [← List.length_drop, h, List.length_cons]
    let before := sorted.take (sorted.length / 2)
    have hbefore : before.length < sorted.length := by
      simp only [before, List.length_take]
      omega
    if ← precedes x middle then return (← place precedes x before) ++ middle :: after
    else return before ++ middle :: (← place precedes x after)
termination_by sorted.length

/-- The list in ascending order. -/
def sortStably (precedes : κ → κ → Except ε Bool) (xs : List κ) : Except ε (List κ) := do
  let (run, rest) ← frontRun precedes xs
  rest.foldlM (fun sorted x => place precedes x sorted) run

end RecordQuery.Sorting
