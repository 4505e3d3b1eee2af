import RecordQuery.Filter.Term
import RecordQuery.Text.Percent

/-!
# Filters

A filter is read from a percent-encoded text. Reading never fails: a term that is none is dropped,
and recorded as dropped.
-/

namespace RecordQuery

open Text

/-- The criteria of a filter, and the terms that are none. -/
structure Filter where
  /-- The criteria, in the order of their terms. -/
  criteria : List Criterion
  /-- The terms that were dropped. -/
  dropped : List String
  deriving DecidableEq

namespace Filter

/-- The filter without criteria. -/
def empty : Filter := ⟨[], []⟩

/-- The filter with a criterion in front. -/
def cons (c : Criterion) (f : Filter) : Filter := { f with criteria := c :: f.criteria }

/-- The filter with a dropped term in front. -/
def drop (term : List Char) (f : Filter) : Filter :=
  { f with dropped := String.ofList term :: f.dropped }

/-- The filter of a row of parts. The first criterion joins nothing, and a later one joins those
before it by the connective in front of its own term. -/
def ofParts : (first : Bool) → (joint : Connective) → List Part → Filter
  | _, _, [] => empty
  | first, _, .connective k :: parts => ofParts first k parts
  | first, joint, .term s :: parts =>
    match criterion? s with
    | some c =>
      cons { c with connective := if first then .none else joint } (ofParts false .and parts)
    | none => drop s (ofParts first .and parts)

/-- The filter of a percent-encoded text. -/
def ofText (text : String) : Filter :=
  ofParts true .and (Part.ofText true (percentDecode text.toList))

/-- The filter of a text that may be missing. -/
def ofText? (text? : Option String) : Filter := (text?.map ofText).getD empty

end Filter

end RecordQuery
