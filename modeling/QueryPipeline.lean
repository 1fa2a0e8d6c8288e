import QueryPipeline.Arguments
import QueryPipeline.Document.Identifier
import QueryPipeline.Document.Json
import QueryPipeline.Document.ObjectId
import QueryPipeline.Document.Value
import QueryPipeline.Engine.Basic
import QueryPipeline.Engine.Session
import QueryPipeline.Failure
import QueryPipeline.Fetch.Item
import QueryPipeline.Fetch.List
import QueryPipeline.Fetch.Page
import QueryPipeline.Fetch.Union
import QueryPipeline.Fetch.Walk
import QueryPipeline.Filter.Basic
import QueryPipeline.Filter.Compile
import QueryPipeline.Filter.Parser
import QueryPipeline.Filter.Share
import QueryPipeline.Filter.Tenant
import QueryPipeline.LogSetup
import QueryPipeline.Number.Binary64
import QueryPipeline.Number.Decimal
import QueryPipeline.Number.Integer
import QueryPipeline.Number.Numeral
import QueryPipeline.Pipeline.Condition
import QueryPipeline.Pipeline.Stage
import QueryPipeline.Proofs.Document.Encoding
import QueryPipeline.Proofs.Document.Identifier
import QueryPipeline.Proofs.Engine.Session
import QueryPipeline.Proofs.Failure
import QueryPipeline.Proofs.Fetch.Agreement
import QueryPipeline.Proofs.Fetch.Calls
import QueryPipeline.Proofs.Fetch.Confined
import QueryPipeline.Proofs.Fetch.Discarded
import QueryPipeline.Proofs.Fetch.Encoding
import QueryPipeline.Proofs.Fetch.PageSize
import QueryPipeline.Proofs.Fetch.Range
import QueryPipeline.Proofs.Fetch.Shares
import QueryPipeline.Proofs.Fetch.Union
import QueryPipeline.Proofs.Fetch.Walk
import QueryPipeline.Proofs.Filter.Breaking
import QueryPipeline.Proofs.Filter.Compile
import QueryPipeline.Proofs.Filter.Encoding
import QueryPipeline.Proofs.Filter.FullForm
import QueryPipeline.Proofs.Filter.LiteralTenant
import QueryPipeline.Proofs.Filter.Share
import QueryPipeline.Proofs.Filter.ShareCount
import QueryPipeline.Proofs.Filter.ShareErasure
import QueryPipeline.Proofs.Filter.ShareRange
import QueryPipeline.Proofs.Filter.ShareSize
import QueryPipeline.Proofs.Filter.Tenant
import QueryPipeline.Proofs.Number.Whole
import QueryPipeline.Proofs.Number.Written
import QueryPipeline.Proofs.Pipeline.Encoding
import QueryPipeline.Proofs.Pipeline.Range
import QueryPipeline.Proofs.Pipeline.Reading
import QueryPipeline.Proofs.Request.Rewriting
import QueryPipeline.Proofs.Request.RoundTrip
import QueryPipeline.Proofs.Request.Url
import QueryPipeline.Proofs.Router.Confined
import QueryPipeline.Proofs.Router.Shown
import QueryPipeline.Proofs.Text.Pattern
import QueryPipeline.Proofs.Text.Utf8
import QueryPipeline.Proofs.Url.Basic
import QueryPipeline.Proofs.Url.Parameters
import QueryPipeline.Proofs.Url.Query
import QueryPipeline.Request.Basic
import QueryPipeline.Request.Options
import QueryPipeline.Request.Page
import QueryPipeline.Request.Url
import QueryPipeline.Router
import QueryPipeline.Settings
import QueryPipeline.Text.Blank
import QueryPipeline.Text.DecimalDigit
import QueryPipeline.Text.Hex
import QueryPipeline.Text.Pattern
import QueryPipeline.Text.Printable
import QueryPipeline.Text.Quoted
import QueryPipeline.Text.Split
import QueryPipeline.Text.Utf8
import QueryPipeline.Time.Calendar
import QueryPipeline.Time.Iso
import QueryPipeline.Time.Timestamp
import QueryPipeline.Url.Basic
import QueryPipeline.Url.Host
import QueryPipeline.Url.HostHeader
import QueryPipeline.Url.Parameters
import QueryPipeline.Url.Scope
import QueryPipeline.Proofs.Pipeline.Window
import QueryPipeline.Proofs.Fetch.Links
import QueryPipeline.Proofs.Pipeline.Query
import QueryPipeline.Proofs.Time.Calendar
import QueryPipeline.Proofs.Time.Day
import QueryPipeline.Proofs.Filter.Day
import QueryPipeline.Proofs.Filter.Kept
import QueryPipeline.Proofs.Filter.Opposite
import QueryPipeline.Proofs.Number.Order
import QueryPipeline.Proofs.Pipeline.Ends
import QueryPipeline.Proofs.Filter.ShareParts
import QueryPipeline.Proofs.Filter.ShortForm
import QueryPipeline.Proofs.Fetch.Lookup
import QueryPipeline.Proofs.Number.Ceiling
import QueryPipeline.Proofs.Fetch.PageCount
import QueryPipeline.Proofs.Pipeline.Identified
import QueryPipeline.Proofs.Document.ObjectId
import QueryPipeline.Proofs.Document.Shown
import QueryPipeline.Proofs.Fetch.Written
import QueryPipeline.Proofs.Router.Body
