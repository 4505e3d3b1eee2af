import RecordQuery.Document.Search
import RecordQuery.Response
import RecordQuery.Session
import RecordQuery.Proofs.Filter.Mark
import RecordQuery.Proofs.Text.Percent
import RecordQuery.Proofs.Text.Inert
import RecordQuery.Proofs.Filter.Written
import RecordQuery.Proofs.Filter.RoundTrip
import RecordQuery.Proofs.Filter.Row
import RecordQuery.Proofs.Document.QueryText
import RecordQuery.Proofs.Text.Digit
import RecordQuery.Proofs.Time.Calendar
import RecordQuery.Proofs.Number.Numeral
import RecordQuery.Proofs.Time.Reading
import RecordQuery.Proofs.Document.Moment
import RecordQuery.Proofs.Sorting.Stable
import RecordQuery.Proofs.Sorting.Order
import RecordQuery.Proofs.Condition.Criteria
import RecordQuery.Proofs.Document.UploadWindow
import RecordQuery.Proofs.Text.Order
import RecordQuery.Proofs.Time.Fields
import RecordQuery.Proofs.Source.Encoding
import RecordQuery.Proofs.Source.Outcome
import RecordQuery.Proofs.Condition.Formed
import RecordQuery.Proofs.Condition.Failure
import RecordQuery.Proofs.Condition.Typed
import RecordQuery.Proofs.Source.Agreement
import RecordQuery.Proofs.Document.Table
import RecordQuery.Proofs.Text.Like
import RecordQuery.Proofs.Source.TextMatch
import RecordQuery.Proofs.Condition.Meaning
import RecordQuery.Proofs.Value.Comparable
import RecordQuery.Proofs.Condition.Reach
import RecordQuery.Proofs.Document.TextMatch
import RecordQuery.Proofs.Condition.Chain
import RecordQuery.Proofs.Page
import RecordQuery.Proofs.Source.Pages
import RecordQuery.Proofs.Source.Path
import RecordQuery.Proofs.Session.Ledger
import RecordQuery.Proofs.Session.Reads
import RecordQuery.Proofs.Value.OrderKind
import RecordQuery.Proofs.Sorting.Arranged
import RecordQuery.Proofs.Source.Order
import RecordQuery.Proofs.Source.TablePath
import RecordQuery.Proofs.Document.Resort
import RecordQuery.Proofs.Source.Search
import RecordQuery.Proofs.Document.SearchedPage
import RecordQuery.Proofs.Text.Words
import RecordQuery.Proofs.Filter.Cut
import RecordQuery.Proofs.Filter.Parts
import RecordQuery.Proofs.Filter.Joined
import RecordQuery.Proofs.Filter.Places
import RecordQuery.Proofs.Document.PageRange
import RecordQuery.Proofs.Text.Lower
import RecordQuery.Proofs.Filter.Grammar
import RecordQuery.Proofs.Filter.Pattern
import RecordQuery.Proofs.Condition.WellFormed
import RecordQuery.Proofs.Number.Order
import RecordQuery.Proofs.Value.Order
import RecordQuery.Proofs.Condition.Answer
import RecordQuery.Proofs.Condition.Coherence
import RecordQuery.Proofs.Sorting.Blocks
import RecordQuery.Proofs.Sorting.Preorder
import RecordQuery.Proofs.Instants
import RecordQuery.Proofs.Time.RoundTrip
import RecordQuery.Proofs.Literal
import RecordQuery.Proofs.Guid
import RecordQuery.Proofs.Document.Identifier
import RecordQuery.Proofs.Filter.PaddedList
import RecordQuery.Proofs.Document.Slice
import RecordQuery.Proofs.Condition.Refusal
import RecordQuery.Proofs.Schema
import RecordQuery.Proofs.Condition.OneOf
import RecordQuery.Proofs.Number.FloatText
import RecordQuery.Proofs.Number.ReadBack
import RecordQuery.Proofs.Floats
