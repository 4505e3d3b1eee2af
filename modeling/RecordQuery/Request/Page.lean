import RecordQuery.Request.Input
import RecordQuery.Sorting.Basic

/-!
# Requests for a sort and for a page

A page request asks for one page of what a filter selects, sorted by one field. Pages are counted
from 1, and a page has at most `maxPageSize` records.
-/

namespace RecordQuery

/-- The size of a page unless another one is asked for. -/
def defaultPageSize : Int := 10

/-- The greatest size of a page. -/
def maxPageSize : Int := 100

/-- The sort request of a list of values. -/
def SortRequest.of? (inputs : Inputs) : Except Failure SortRequest :=
  let field := Input.plainText "field" "" inputs
  let direction := Input.plainText "direction" "ASC" inputs
  match field, direction with
  | .ok field, .ok direction => .ok ⟨field, direction⟩
  | _, _ => .error (.invalid ([field.problem?, direction.problem?].filterMap id))

/-- A request for a page. -/
structure PageRequest where
  /-- The number of the page, from 1. -/
  page : Int
  /-- The size of a page. -/
  pageSize : Int
  /-- The text of the filter, if there is one. -/
  filter : Option String
  /-- The name of the field that is sorted by. -/
  sortBy : String
  /-- The word for the direction of the sort. -/
  sortDirection : String
  deriving DecidableEq

namespace PageRequest

/-- The request of a list of values, or all that is wrong with it. -/
def of? (inputs : Inputs) : Except Failure PageRequest :=
  let page := Input.boundedWhole "page" 1 1 none inputs
  let pageSize := Input.boundedWhole "page_size" defaultPageSize 1 (some maxPageSize) inputs
  let filter := Input.optionalText "filter" inputs
  let sortBy := Input.plainText "sort_by" "" inputs
  let sortDirection := Input.plainText "sort_direction" "ASC" inputs
  match page, pageSize, filter, sortBy, sortDirection with
  | .ok page, .ok pageSize, .ok filter, .ok sortBy, .ok sortDirection =>
    .ok ⟨page, pageSize, filter, sortBy, sortDirection⟩
  | _, _, _, _, _ =>
    .error (.invalid ([page.problem?, pageSize.problem?, filter.problem?, sortBy.problem?,
      sortDirection.problem?].filterMap id))

/-- The sort that is asked for. -/
def sort (r : PageRequest) : SortRequest := ⟨r.sortBy, r.sortDirection⟩

end PageRequest

end RecordQuery
