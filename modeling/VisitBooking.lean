import VisitBooking.Calendar.Date
import VisitBooking.Calendar.DateTime
import VisitBooking.Calendar.Read
import VisitBooking.Calendar.Written
import VisitBooking.Enumeration
import VisitBooking.Event.Basic
import VisitBooking.Failure
import VisitBooking.Http.Api
import VisitBooking.Http.MediaType
import VisitBooking.Http.Percent
import VisitBooking.Http.Request
import VisitBooking.Http.Response
import VisitBooking.Http.Route
import VisitBooking.Json.Decode
import VisitBooking.Json.Lexer
import VisitBooking.Json.Number
import VisitBooking.Json.Printer
import VisitBooking.Json.Quotation
import VisitBooking.Json.Token
import VisitBooking.Json.Tree
import VisitBooking.Json.Value
import VisitBooking.Log
import VisitBooking.Proofs.Calendar.Column
import VisitBooking.Proofs.Reference.RoundTrip
import VisitBooking.Proofs.Service.Commit
import VisitBooking.Proofs.Service.Interleaving
import VisitBooking.Proofs.Service.Lifecycle
import VisitBooking.Proofs.Service.Revision
import VisitBooking.Proofs.Service.Serial
import VisitBooking.Proofs.Service.Step
import VisitBooking.Proofs.Store.Columns
import VisitBooking.Proofs.Store.History
import VisitBooking.Proofs.Store.Keyed
import VisitBooking.Proofs.Store.WellFormed
import VisitBooking.Proofs.Text.Decimal
import VisitBooking.Reference.Codec
import VisitBooking.Reference.Config
import VisitBooking.Reference.Digits
import VisitBooking.Reference.Scramble
import VisitBooking.Request.Basic
import VisitBooking.Request.Json
import VisitBooking.Service.Basic
import VisitBooking.Service.Operation
import VisitBooking.Service.Rules
import VisitBooking.Service.Transaction
import VisitBooking.Settings.Basic
import VisitBooking.Store.Basic
import VisitBooking.Store.Catalog
import VisitBooking.Store.Columns
import VisitBooking.Store.Fault
import VisitBooking.Store.Tables
import VisitBooking.Text.Alphanumeric
import VisitBooking.Text.Blank
import VisitBooking.Text.Decimal
import VisitBooking.Text.Pieces
import VisitBooking.Text.Quoted
import VisitBooking.Text.Range
import VisitBooking.Text.Utf8
import VisitBooking.Text.Visible
import VisitBooking.Visit.Basic
import VisitBooking.Visit.Json
import VisitBooking.Visit.Keyed
import VisitBooking.Visit.Vocabulary
import VisitBooking.Zone.Data.Africa
import VisitBooking.Zone.Data.Aliases
import VisitBooking.Zone.Data.America
import VisitBooking.Zone.Data.Asia
import VisitBooking.Zone.Data.Europe
import VisitBooking.Zone.Data.Oceans
import VisitBooking.Zone.Data.Offsets
import VisitBooking.Zone.Data.RulesFromI
import VisitBooking.Zone.Data.RulesToH
import VisitBooking.Zone.Database
import VisitBooking.Zone.Rule
import VisitBooking.Zone.Table
import VisitBooking.Zone.Transition
import VisitBooking.Proofs.Service.Failures
import VisitBooking.Proofs.Service.Contents
import VisitBooking.Proofs.Calendar.Order
import VisitBooking.Proofs.Json.Lexing
import VisitBooking.Proofs.Service.Constraints
import VisitBooking.Proofs.Json.Printed
import VisitBooking.Proofs.Json.Record
import VisitBooking.Proofs.Service.Announcements
import VisitBooking.Proofs.Store.Command
import VisitBooking.Proofs.Store.Conflict
import VisitBooking.Proofs.Store.Search
import VisitBooking.Proofs.Store.Tables
import VisitBooking.Proofs.Service.Noninterference
import VisitBooking.Proofs.Http.Routing
import VisitBooking.Proofs.Http.Asking
import VisitBooking.Proofs.Http.Refinement
import VisitBooking.Proofs.Reference.Spelling
import VisitBooking.Proofs.Reference.Neighbours
import VisitBooking.Proofs.Store.Locality
import VisitBooking.Proofs.Service.Locality
import VisitBooking.Proofs.Service.Reachable
import VisitBooking.Proofs.Store.Deletion
import VisitBooking.Proofs.Store.Insertion
import VisitBooking.Proofs.Store.Rewriting
import VisitBooking.Proofs.Visit.Keyed
import VisitBooking.Proofs.Service.Booking
import VisitBooking.Proofs.Text.Utf8
import VisitBooking.Proofs.Http.Encoding
import VisitBooking.Proofs.Http.Address
import VisitBooking.Proofs.Service.Decision
import VisitBooking.Proofs.Service.SparseUpdate
import VisitBooking.Proofs.Service.Composition
import VisitBooking.Proofs.Service.SlotChange
import VisitBooking.Proofs.Service.Cancellation
import VisitBooking.Proofs.Calendar.Shift
import VisitBooking.Proofs.Calendar.Wire
import VisitBooking.Proofs.Event.Stamp
import VisitBooking.Proofs.Json.ReadBack
import VisitBooking.Proofs.Request.Json
import VisitBooking.Proofs.Service.Slot
import VisitBooking.Proofs.Visit.Json
import VisitBooking.Proofs.Reference.Settings
import VisitBooking.Proofs.Reference.Prefixes
import VisitBooking.Proofs.Calendar.Count
import VisitBooking.Proofs.Zone.WallClock
import VisitBooking.Proofs.Service.Expiry
