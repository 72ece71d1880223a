import PortableSearch.Aggregation
import PortableSearch.Aggregation.Compile
import PortableSearch.Aggregation.Fault
import PortableSearch.Aggregation.Interval
import PortableSearch.Aggregation.Kinds
import PortableSearch.Aggregation.Mixed
import PortableSearch.Aggregation.Native
import PortableSearch.Aggregation.Record
import PortableSearch.Aggregation.Span
import PortableSearch.Calendar.Civil
import PortableSearch.Calendar.DateMath
import PortableSearch.Calendar.DateMath.Anchor
import PortableSearch.Calendar.DateMath.Operation
import PortableSearch.Calendar.Iso
import PortableSearch.Calendar.Timestamp
import PortableSearch.Calendar.Written
import PortableSearch.Calendar.Written.Draft
import PortableSearch.Calendar.Written.Parts
import PortableSearch.Calendar.Written.Token
import PortableSearch.Calendar.Written.Vocabulary
import PortableSearch.Calendar.Zone
import PortableSearch.Calendar.Zone.Names
import PortableSearch.Calendar.Zone.Posix
import PortableSearch.Calendar.Zone.Tables
import PortableSearch.Calendar.Zone.Yearly
import PortableSearch.Context
import PortableSearch.Context.Params
import PortableSearch.Decimal.Nearest
import PortableSearch.Decimal.Shortest
import PortableSearch.Decimal.Whole
import PortableSearch.Engine.Builder
import PortableSearch.Engine.BuilderSession
import PortableSearch.Engine.Clause
import PortableSearch.Engine.ClauseRecord
import PortableSearch.Engine.Kinds
import PortableSearch.Engine.Request
import PortableSearch.Kinds
import PortableSearch.Proofs.Aggregation.Composition
import PortableSearch.Proofs.Aggregation.Entries
import PortableSearch.Proofs.Aggregation.Nesting
import PortableSearch.Proofs.Aggregation.OwnFault
import PortableSearch.Proofs.DateMath.FixedZone
import PortableSearch.Proofs.DateMath.Operations
import PortableSearch.Proofs.DateMath.ZoneShift
import PortableSearch.Proofs.Members
import PortableSearch.Proofs.Outcome
import PortableSearch.Proofs.Query.Faults
import PortableSearch.Proofs.Query.Meaning
import PortableSearch.Proofs.Query.ReadBack
import PortableSearch.Proofs.Request.FirstFault
import PortableSearch.Proofs.Scroll.Conservation
import PortableSearch.Proofs.Scroll.Cursor
import PortableSearch.Proofs.Scroll.Transcript
import PortableSearch.Query
import PortableSearch.Query.Compile
import PortableSearch.Query.Kinds
import PortableSearch.Query.Record
import PortableSearch.Reply
import PortableSearch.Reply.Decode
import PortableSearch.Reply.Kinds
import PortableSearch.Reply.Metric
import PortableSearch.Reply.Record
import PortableSearch.Reply.Summary
import PortableSearch.Request
import PortableSearch.Request.Compile
import PortableSearch.Request.Kinds
import PortableSearch.Request.Record
import PortableSearch.Scroll
import PortableSearch.Scroll.Session
import PortableSearch.Searcher
import PortableSearch.Settings
import PortableSearch.Settings.EnvFile
import PortableSearch.Settings.Interpolation
import PortableSearch.Settings.Kinds
import PortableSearch.Settings.Read
import PortableSearch.Shape.Catalog
import PortableSearch.Shape.Fault
import PortableSearch.Shape.FieldType
import PortableSearch.Shape.Numeral
import PortableSearch.Shape.Scalar
import PortableSearch.Shape.Written
import PortableSearch.Text.Ascending
import PortableSearch.Text.Blank
import PortableSearch.Text.Digit
import PortableSearch.Text.Encoding
import PortableSearch.Text.Printable
import PortableSearch.Text.Quoted
import PortableSearch.Transport
import PortableSearch.Transport.Address
import PortableSearch.Transport.Script
import PortableSearch.Value
import PortableSearch.Value.Json
import PortableSearch.Value.Literal
import PortableSearch.Value.Parser
import PortableSearch.Proofs.Request.Places
import PortableSearch.Proofs.Request.ZoneReach
import PortableSearch.Proofs.Nulls
import PortableSearch.Proofs.Request.BodyShape
import PortableSearch.Proofs.Shape.Congruence
import PortableSearch.Proofs.Shape.Reading
import PortableSearch.Proofs.Reply.Containers
import PortableSearch.Proofs.Reply.Residual
import PortableSearch.Proofs.Reply.NestedKeys
import PortableSearch.Proofs.Scroll.FailedFetch
import PortableSearch.Proofs.Calendar.Months
import PortableSearch.Proofs.Calendar.MonthShift
import PortableSearch.Proofs.DateMath.Order
import PortableSearch.Proofs.Text.Digits
import PortableSearch.Proofs.DateMath.SoundZone
import PortableSearch.Proofs.DateMath.Declared
import PortableSearch.Proofs.Value.JsonText
import PortableSearch.Proofs.Value.Plain
import PortableSearch.Proofs.Value.ParseTokens
import PortableSearch.Proofs.Decimal.Range
import PortableSearch.Proofs.Value.ParseText
import PortableSearch.Proofs.Shape.Sources
import PortableSearch.Proofs.Reply.Forms
import PortableSearch.Proofs.Request.ContextUse
import PortableSearch.Searcher.Session
import PortableSearch.Proofs.Searcher.Sent
import PortableSearch.Proofs.Reply.Accessors
import PortableSearch.Proofs.DateMath.UnitEnd
import PortableSearch.Proofs.DateMath.Grammar
import PortableSearch.Proofs.DateMath.SteadyRounding
import PortableSearch.Proofs.DateMath.RoundDown
import PortableSearch.Proofs.DateMath.CalendarShift
import PortableSearch.Proofs.DateMath.RoundTrip
import PortableSearch.Proofs.DateMath.Timeline
import PortableSearch.Proofs.DateMath.ZeroShift
import PortableSearch.Proofs.Calendar.IsoText
import PortableSearch.Proofs.Calendar.IsoRead
import PortableSearch.Proofs.Aggregation.DateBounds
import PortableSearch.Proofs.Aggregation.MillisText
import PortableSearch.Proofs.Calendar.OffsetNames
import PortableSearch.Proofs.DateMath.UsableZone
import PortableSearch.Proofs.Calendar.IsoRoundTrip
import PortableSearch.Proofs.Query.DateInstants
import PortableSearch.Proofs.Query.TermsObject
import PortableSearch.Proofs.Scroll.LookAhead
import PortableSearch.Proofs.Text.Encoding
import PortableSearch.Proofs.Aggregation.NativeText
import PortableSearch.Proofs.Aggregation.NativeEntry
import PortableSearch.Proofs.Aggregation.ResolvedRanges
import PortableSearch.Proofs.Reply.UnknownMembers
import PortableSearch.Proofs.Shape.Changed
import PortableSearch.Proofs.Shape.Merged
import PortableSearch.Proofs.Reply.AllFaults
import PortableSearch.Proofs.Shape.Offences
import PortableSearch.Proofs.Value.Distinct
import PortableSearch.Proofs.Shape.Settled
import PortableSearch.Proofs.Reply.InOrder
import PortableSearch.Proofs.Text.Ascending
import PortableSearch.Proofs.Request.Projection
import PortableSearch.Proofs.Settings.OwnText
import PortableSearch.Proofs.Request.TakenOver
import PortableSearch.Proofs.Value.JsonValue
import PortableSearch.Proofs.Request.JsonBody
