import RecordQuery.Document.Basic
import RecordQuery.Refusal

/-!
# Assets

An asset is what a search hands out of a document. The fields that every document should have are
required: a document without one of them is no asset.
-/

namespace RecordQuery

open Time

/-- What is handed out of a document. -/
structure Asset where
  /-- The identifier as a text. -/
  id : String
  /-- The name of the file. -/
  filename : String
  /-- The media type of the content. -/
  contentType : String
  /-- What the document is. -/
  documentType : DocumentType
  /-- The way on which the document came. -/
  channel : Channel
  /-- The customer it belongs to. -/
  customerId : Option String
  /-- The state. -/
  status : DocumentStatus
  /-- Where the content is. -/
  url : Option String
  /-- The size of the content in octets. -/
  size : Int
  /-- When the content was uploaded. -/
  uploadDate : DateTime
  /-- What ties the document to others. -/
  correlationId : Option String
  deriving DecidableEq

namespace Asset

/-- The required fields that a document lacks, each with the rule that it breaks. -/
def missing (d : Document) : List Problem :=
  [(d.id.isNone, "id", "string_type"), (d.filename.isNone, "filename", "string_type"),
   (d.contentType.isNone, "content_type", "string_type"),
   (d.documentType.isNone, "document_type", "enum"), (d.channel.isNone, "channel", "enum"),
   (d.status.isNone, "status", "enum"), (d.size.isNone, "size", "int_type"),
   (d.uploadDate.isNone, "upload_date", "datetime_type")].filterMap
    fun (lacks, field, rule) => if lacks then some ⟨field, rule⟩ else none

/-- The asset of a document, or the required fields that it lacks. -/
def ofDocument (d : Document) : Except Failure Asset :=
  match d.id, d.filename, d.contentType, d.documentType, d.channel, d.status, d.size,
    d.uploadDate with
  | some id, some filename, some contentType, some documentType, some channel, some status,
    some size, some uploadDate =>
    .ok ⟨String.ofList id.text, filename, contentType, documentType, channel, d.customerId, status,
      d.url, size, uploadDate, d.correlationId⟩
  | _, _, _, _, _, _, _, _ => .error (.invalid (missing d))

end Asset

end RecordQuery
