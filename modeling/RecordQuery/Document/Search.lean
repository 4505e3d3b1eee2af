import RecordQuery.Document.Asset
import RecordQuery.Document.Query
import RecordQuery.Request.Page
import RecordQuery.Source.Basic

/-!
# Searching documents

A search leads a source of documents through the filter and the sort of a query or a page request,
and hands out the assets of what it finds. The first document that is no asset ends it.
-/

namespace RecordQuery

namespace Document

/-- The documents as they are read back from a table: date-times without an offset. -/
def stored (d : Document) : Document :=
  let bare (t? : Option Time.DateTime) := t?.map fun t => { t with offset? := none }
  { d with
    uploadDate := bare d.uploadDate, created := bare d.created, updated := bare d.updated
    deleted := bare d.deleted }

/-- A table that holds documents. -/
def table (documents : List Document) : Source Document :=
  .table (.ofRows schema (documents.map stored))

/-- The assets of the documents that a query finds. -/
def search (source : Source Document) (shared : List Document) (q : DocumentQuery) :
    Except Failure (List Asset) := do
  let text? ← q.filterText.mapError .faulty
  let found ← source.refined text? (some q.sort)
  let documents ← (found.all shared).mapError .faulty
  documents.mapM Asset.ofDocument

/-- The assets of a page of the documents that a request finds. -/
def searchPage (source : Source Document) (shared : List Document) (r : PageRequest) :
    Except Failure (Page Asset) := do
  let found ← source.refined r.filter (some r.sort)
  let page ← (found.page shared r.page r.pageSize).mapError .faulty
  return ⟨← page.items.mapM Asset.ofDocument, page.total, page.hasNext⟩

end Document

end RecordQuery
