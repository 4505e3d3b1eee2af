import RecordQuery.Document.Basic
import RecordQuery.Literal
import RecordQuery.Request.Input
import RecordQuery.Sorting.Basic
import RecordQuery.Text.Percent

/-!
# Document queries

A document query names what documents are looked for, field by field. `DocumentQuery.filterText` is
the filter that says the same: a term for every field that is set, joined by `and`. Texts are
encoded so that decoding the filter gives them back.
-/

namespace RecordQuery

open Text Time

/-- A query for documents. -/
structure DocumentQuery where
  /-- The document was uploaded at this time or later. -/
  uploadStart : Option DateTime
  /-- The document was uploaded at this time or earlier. -/
  uploadEnd : Option DateTime
  /-- The name of the file holds this text. -/
  filename : Option String
  /-- The media type of the content. -/
  contentType : Option String
  /-- What the document is. -/
  documentType : Option DocumentType
  /-- The state. -/
  status : Option DocumentStatus
  /-- The customer that the document belongs to. -/
  customerId : Option String
  /-- The way on which the document came. -/
  channel : Option Channel
  /-- The name of the field that is sorted by. -/
  sortBy : String
  /-- The word for the direction of the sort. -/
  sortDirection : String
  deriving DecidableEq

namespace DocumentQuery

/-- The query of a list of values, or all that is wrong with it. -/
def of? (inputs : Inputs) : Except Failure DocumentQuery :=
  let uploadStart := Input.optionalDateTime "upload_date_start" inputs
  let uploadEnd := Input.optionalDateTime "upload_date_end" inputs
  let filename := Input.optionalText "filename" inputs
  let contentType := Input.optionalText "content_type" inputs
  let documentType := Input.optionalName "document_type" DocumentType.ofName? inputs
  let status := Input.optionalName "status" DocumentStatus.ofName? inputs
  let customerId := Input.optionalText "customer_id" inputs
  let channel := Input.optionalName "channel" Channel.ofName? inputs
  let sortBy := Input.plainText "sort_by" "" inputs
  let sortDirection := Input.plainText "sort_direction" "" inputs
  match uploadStart, uploadEnd, filename, contentType, documentType, status, customerId, channel,
    sortBy, sortDirection with
  | .ok uploadStart, .ok uploadEnd, .ok filename, .ok contentType, .ok documentType, .ok status,
    .ok customerId, .ok channel, .ok sortBy, .ok sortDirection =>
    .ok ⟨uploadStart, uploadEnd, filename, contentType, documentType, status, customerId, channel,
      sortBy, sortDirection⟩
  | _, _, _, _, _, _, _, _, _, _ =>
    .error (.invalid ([uploadStart.problem?, uploadEnd.problem?, filename.problem?,
      contentType.problem?, documentType.problem?, status.problem?, customerId.problem?,
      channel.problem?, sortBy.problem?, sortDirection.problem?].filterMap id))

/-! ## The sort of a query -/

/-- The name of the field that documents are sorted by unless another one is asked for. -/
def defaultSortBy : String := "created"

/-- The word for the direction unless another one is asked for. -/
def defaultSortDirection : String := "DESC"

/-- A text without blanks at its ends, or a default if nothing remains. -/
def trimmedOr (default s : String) : String :=
  let t := trim s.toList
  if t.isEmpty then default else String.ofList t

/-- The sort that a query asks for. -/
def sort (q : DocumentQuery) : SortRequest :=
  ⟨trimmedOr defaultSortBy q.sortBy, trimmedOr defaultSortDirection q.sortDirection⟩

/-! ## The filter of a query -/

/-- A date-time to the second, at offset zero. The year has as many digits as it needs. -/
def momentText (t : DateTime) : Except Fault (List Char) :=
  match t.toUtc? with
  | none => .error .outOfRange
  | some u => .ok <|
    decimalText u.date.year ++ '-' :: paddedText 2 u.date.month ++ '-' :: paddedText 2 u.date.day ++
      'T' :: paddedText 2 u.time.hour ++ ':' :: paddedText 2 u.time.minute ++
      ':' :: paddedText 2 u.time.second

/-- A property, the word of an operator, and a text between single quotes. -/
def term (property operator : String) (s : List Char) : List Char :=
  property.toList ++ ' ' :: operator.toList ++ ' ' :: singleQuote :: s ++ [singleQuote]

/-- The term of a moment that is set. -/
def momentTerm (property operator : String) (t? : Option DateTime) :
    Except Fault (List (List Char)) :=
  match t? with
  | none => .ok []
  | some t => do return [term property operator (← momentText t)]

/-- The term of a text that is set and not blank. -/
def textTerm (property operator : String) (s? : Option String) : List (List Char) :=
  match s? with
  | none => []
  | some s =>
    if allBlank s.toList then [] else [term property operator (percentEncode s.toList)]

/-- The term of a name that is set. -/
def nameTerm (property : String) (name? : Option String) : List (List Char) :=
  (name?.map fun name => term property "eq" name.toList).toList

/-- The terms of a query. -/
def terms (q : DocumentQuery) : Except Fault (List (List Char)) := do
  let start ← momentTerm "uploadDate" "ge" q.uploadStart
  let finish ← momentTerm "uploadDate" "le" q.uploadEnd
  return start ++ finish ++ textTerm "filename" "contains" q.filename ++
    textTerm "contentType" "eq" q.contentType ++
    nameTerm "documentType" (q.documentType.map DocumentType.name) ++
    nameTerm "status" (q.status.map DocumentStatus.name) ++
    textTerm "customerId" "eq" q.customerId ++
    nameTerm "channel" (q.channel.map Channel.name)

/-- The filter that says what a query says, if the query says anything. -/
def filterText (q : DocumentQuery) : Except Fault (Option String) := do
  let terms ← q.terms
  return if terms.isEmpty then none
    else some (String.ofList (terms.intersperse " and ".toList).flatten)

end DocumentQuery

end RecordQuery
