import EntityQuery.Main
import EntityQuery.Rehearsal
import EntityQuery.Proofs.Criteria.Name
import EntityQuery.Proofs.Criteria.Level
import EntityQuery.Proofs.Criteria.Order
import EntityQuery.Proofs.Criteria.Writing
import EntityQuery.Proofs.Criteria.Reading
import EntityQuery.Proofs.Criteria.Built
import EntityQuery.Proofs.Criteria.Erasure
import EntityQuery.Proofs.Criteria.RoundTrip
import EntityQuery.Proofs.Session.ExportHandle
import EntityQuery.Proofs.Session.Display
import EntityQuery.Proofs.Session.InFlight
import EntityQuery.Proofs.Json.Normal
import EntityQuery.Proofs.Criteria.Grammar
import EntityQuery.Proofs.Criteria.Acceptance
import EntityQuery.Proofs.Json.Record
import EntityQuery.Proofs.Query.Request
import EntityQuery.Proofs.Json.Reordering
import EntityQuery.Proofs.Criteria.Streaming
import EntityQuery.Proofs.Settings
import EntityQuery.Proofs.Query.Start
import EntityQuery.Proofs.Query.Preset
import EntityQuery.Proofs.Query.Limits
import EntityQuery.Proofs.Query.Frame
import EntityQuery.Proofs.Query.Projection
import EntityQuery.Proofs.Query.Repeats
import EntityQuery.Proofs.Session.Limits
import EntityQuery.Proofs.Query.Refused
import EntityQuery.Proofs.Session.Preset
import EntityQuery.Proofs.Shell.Effect
import EntityQuery.Proofs.Shell.Run
import EntityQuery.Proofs.Session.Action
import EntityQuery.Proofs.Session.Observation
import EntityQuery.Proofs.Session.Landing
import EntityQuery.Proofs.Criteria.Form
import EntityQuery.Proofs.Criteria.TypedSubquery
import EntityQuery.Proofs.Query.Run
import EntityQuery.Proofs.CommandLine.Value
import EntityQuery.Proofs.CommandLine.QueryFlags
import EntityQuery.Proofs.CommandLine.Arguments
import EntityQuery.Proofs.Decimal.Rounding
import EntityQuery.Proofs.Decimal.Numeral
import EntityQuery.Proofs.Scalar
import EntityQuery.Proofs.Session.Telling
import EntityQuery.Proofs.Session.ExportIssue
import EntityQuery.Proofs.Query.Scope
import EntityQuery.Proofs.Query.SortEdits
import EntityQuery.Proofs.Answer.Table
import EntityQuery.Proofs.Json.Text
import EntityQuery.Proofs.Log
import EntityQuery.Proofs.Files
import EntityQuery.Proofs.Http.FileName
import EntityQuery.Proofs.Http.QuotedName
import EntityQuery.Proofs.Text.Utf8
import EntityQuery.Proofs.Url.Form
import EntityQuery.Proofs.Domain.Name
import EntityQuery.Proofs.Url.Host
import EntityQuery.Proofs.Url.Parse
import EntityQuery.Proofs.Http.FileUrl
import EntityQuery.Proofs.Words
import EntityQuery.Proofs.Shell.FirstWord
import EntityQuery.Proofs.Shell.FilterLine
import EntityQuery.Proofs.Shell.Grammar
