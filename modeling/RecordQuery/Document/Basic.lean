import RecordQuery.Record

/-!
# Documents

Documents are the records that a document search finds. `Document.schema` lists their fields. Any
field of a document may be without a value, those that the schema calls never null too: records in
memory are not checked.
-/

namespace RecordQuery

open Time

/-! ## Types, channels and states of documents -/

/-- What a document is. -/
inductive DocumentType where
  /-- A proof of identity. -/
  | kyc
  /-- A contract. -/
  | contract
  /-- A form. -/
  | form
  /-- A document that supports another. -/
  | supporting
  /-- Anything else. -/
  | other
  deriving DecidableEq

/-- The way on which a document came. -/
inductive Channel where
  /-- Through a branch. -/
  | branch
  /-- Through a digital channel. -/
  | digital
  /-- Through the back office. -/
  | backOffice
  /-- On another way. -/
  | other
  deriving DecidableEq

/-- The state of a document. -/
inductive DocumentStatus where
  /-- The document was received. -/
  | received
  /-- The document was sent. -/
  | sent
  /-- The document could not be handled. -/
  | failed
  deriving DecidableEq

/-- A choice type whose members have their names as values. -/
def selfNamed (name : String) (members : List String) : Choice :=
  ⟨name, true, members.map fun m => (m, .text m)⟩

/-- The member of such a type with a name. -/
def selfNamedMember (typeName name : String) : Member := ⟨typeName, name, .text name, true⟩

namespace DocumentType

/-- All types of documents. -/
def all : List DocumentType := [kyc, contract, form, supporting, other]

/-- The name of a type of documents. -/
def name : DocumentType → String
  | kyc => "KYC"
  | contract => "CONTRACT"
  | form => "FORM"
  | supporting => "SUPPORTING_DOCUMENT"
  | other => "OTHER"

/-- The types of documents as a choice type. -/
def choice : Choice := selfNamed "DocumentType" (all.map name)

/-- A type of documents as a value. -/
def toValue (t : DocumentType) : Value := .member (selfNamedMember "DocumentType" t.name)

/-- The type of documents of a name. -/
def ofName? (s : String) : Option DocumentType := all.find? (·.name = s)

end DocumentType

namespace Channel

/-- All channels. -/
def all : List Channel := [branch, digital, backOffice, other]

/-- The name of a channel. -/
def name : Channel → String
  | branch => "BRANCH"
  | digital => "DIGITAL"
  | backOffice => "BACKOFFICE"
  | other => "OTHER"

/-- The channels as a choice type. -/
def choice : Choice := selfNamed "Channel" (all.map name)

/-- A channel as a value. -/
def toValue (c : Channel) : Value := .member (selfNamedMember "Channel" c.name)

/-- The channel of a name. -/
def ofName? (s : String) : Option Channel := all.find? (·.name = s)

end Channel

namespace DocumentStatus

/-- All states of documents. -/
def all : List DocumentStatus := [received, sent, failed]

/-- The name of a state. -/
def name : DocumentStatus → String
  | received => "RECEIVED"
  | sent => "SENT"
  | failed => "FAILED"

/-- The states of documents as a choice type. -/
def choice : Choice := selfNamed "DocumentStatus" (all.map name)

/-- A state as a value. -/
def toValue (s : DocumentStatus) : Value := .member (selfNamedMember "DocumentStatus" s.name)

/-- The state of a name. -/
def ofName? (s : String) : Option DocumentStatus := all.find? (·.name = s)

end DocumentStatus

/-! ## Documents -/

/-- A document. -/
structure Document where
  /-- The identifier. -/
  id : Option Guid
  /-- The name of the file. -/
  filename : Option String
  /-- The media type of the content. -/
  contentType : Option String
  /-- What the document is. -/
  documentType : Option DocumentType
  /-- The way on which the document came. -/
  channel : Option Channel
  /-- The customer it belongs to. -/
  customerId : Option String
  /-- The state. -/
  status : Option DocumentStatus
  /-- Where the content is. -/
  url : Option String
  /-- The size of the content in octets. -/
  size : Option Int
  /-- When the content was uploaded. -/
  uploadDate : Option DateTime
  /-- What ties the document to others. -/
  correlationId : Option String
  /-- When the document was created. -/
  created : Option DateTime
  /-- When the document was changed last. -/
  updated : Option DateTime
  /-- When the document was deleted. -/
  deleted : Option DateTime
  /-- Who created the document. -/
  createdBy : Option Guid
  /-- Who changed the document last. -/
  updatedBy : Option Guid
  /-- Who deleted the document. -/
  deletedBy : Option Guid
  deriving DecidableEq

namespace Document

/-- A value that may be missing. -/
def orNull {α : Type} (toValue : α → Value) (a? : Option α) : Value := (a?.map toValue).getD .null

/-- The fields of a document with their values. -/
def entries (d : Document) : List (String × Value) :=
  [("filename", orNull .text d.filename), ("content_type", orNull .text d.contentType),
   ("document_type", orNull DocumentType.toValue d.documentType),
   ("channel", orNull Channel.toValue d.channel), ("customer_id", orNull .text d.customerId),
   ("status", orNull DocumentStatus.toValue d.status), ("url", orNull .text d.url),
   ("size", orNull .int d.size), ("upload_date", orNull .dateTime d.uploadDate),
   ("correlation_id", orNull .text d.correlationId), ("id", orNull .guid d.id),
   ("created", orNull .dateTime d.created), ("updated", orNull .dateTime d.updated),
   ("deleted", orNull .dateTime d.deleted), ("created_by", orNull .guid d.createdBy),
   ("updated_by", orNull .guid d.updatedBy), ("deleted_by", orNull .guid d.deletedBy)]

instance : Readable Document where
  value? d name := d.entries.lookup name

/-- The document was deleted. -/
def isDeleted (d : Document) : Bool := d.deleted.isSome

/-- A column of the table of documents. Its kind is that of its type. -/
def column (name : String) (type? : Option FieldType) (nullable : Bool) : Field :=
  ⟨name, FieldType.kind type?, type?, nullable, .attribute, true⟩

/-- The columns of the table of documents. -/
def columns : List Field :=
  [column "filename" (some .text) false, column "content_type" (some .text) false,
   column "document_type" (some (.choice DocumentType.choice)) false,
   column "channel" (some (.choice Channel.choice)) false,
   column "customer_id" (some .text) true,
   column "status" (some (.choice DocumentStatus.choice)) false,
   column "url" (some .text) true, column "size" (some .int) false,
   column "upload_date" (some .dateTime) false, column "correlation_id" (some .text) true,
   column "id" (some .guid) false, column "created" (some .dateTime) false,
   column "updated" (some .dateTime) true, column "deleted" (some .dateTime) true,
   column "created_by" (some .guid) true, column "updated_by" (some .guid) true,
   column "deleted_by" (some .guid) true]

/-- The schema of documents. -/
def schema : Schema := ⟨"Document", columns, by unfold DistinctKeys; decide⟩

end Document

end RecordQuery
