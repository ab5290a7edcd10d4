import MockApi.Main
import MockApi.Proofs.Server.Run
import MockApi.Proofs.Server.Store
import MockApi.Proofs.Server.Ledger
import MockApi.Proofs.Decimal.Integer
import MockApi.Proofs.Mock.Template
import MockApi.Proofs.Server.Identity
import MockApi.Proofs.Json.Printer
import MockApi.Proofs.Server.Response
import MockApi.Proofs.Route.Table
import MockApi.Proofs.Server.Readback
import MockApi.Proofs.Route.Path
import MockApi.Proofs.Text.Case
import MockApi.Proofs.Mock.Definition
import MockApi.Proofs.Mock.Generator
import MockApi.Proofs.Mock.Bundle
import MockApi.Proofs.Route.Bundled
import MockApi.Proofs.Json.Parser
import MockApi.Proofs.Config
import MockApi.Proofs.Json.Decided
import MockApi.Proofs.Disk
import MockApi.Proofs.Document
import MockApi.Proofs.Server.Reload
import MockApi.Proofs.Loading
import MockApi.Proofs.Server.Start
import MockApi.Proofs.Server.Life
import MockApi.Proofs.Server.Isolation
import MockApi.Proofs.Server.Failure
import MockApi.Proofs.Server.Separation
import MockApi.Proofs.Scan.Batch
import MockApi.Proofs.Disk.Walk
import MockApi.Proofs.Disk.Tree
import MockApi.Proofs.Scan.Workspace
import MockApi.Proofs.Api.Schema
import MockApi.Proofs.Api.Agreement
import MockApi.Proofs.Api.Document
import MockApi.Proofs.Api.Totality
import MockApi.Proofs.Mock.Reread
import MockApi.Proofs.Mock.Entry
import MockApi.Proofs.Route.Reach
import MockApi.Proofs.Scan.Order
import MockApi.Proofs.Json.Nesting
import MockApi.Proofs.Server.Exchange
import MockApi.Proofs.Json.Reading
import MockApi.Proofs.Json.Scalar
import MockApi.Proofs.Json.RoundTrip
import MockApi.Proofs.Disk.Written
import MockApi.Proofs.Server.Persisted
import MockApi.Proofs.Route.Priority
import MockApi.Proofs.Mock.Verbatim
import MockApi.Proofs.Scan.Call
import MockApi.Proofs.Mock.NormalForm
import MockApi.Proofs.Route.Canonical
import MockApi.Proofs.Route.Base
import MockApi.Proofs.Mock.Category
import MockApi.Proofs.Mock.Addressed
import MockApi.Proofs.Mock.Singular
import MockApi.Proofs.Api.Parameters
import MockApi.Proofs.Api.Registration
import MockApi.Proofs.Api.Unfolding
import MockApi.Proofs.Api.Replies
import MockApi.Proofs.Api.Frame
import MockApi.Proofs.Scan.Replacement
import MockApi.Proofs.Scan.Interpolation
import MockApi.Proofs.Scan.RouteSegment
import MockApi.Proofs.Scan.Fetch
import MockApi.Proofs.Mock.Files
import MockApi.Proofs.Server.Ports
import MockApi.Proofs.Scan.Listing
import MockApi.Proofs.Pattern.Binding
import MockApi.Proofs.Scan.Method
import MockApi.Proofs.Scan.WellFormed
import MockApi.Proofs.Disk.Within
import MockApi.Proofs.Scan.Excluded
import MockApi.Proofs.Command.Scan
import MockApi.Proofs.Scan.Line
import MockApi.Proofs.Json.Escape
import MockApi.Proofs.Json.Characters
import MockApi.Proofs.Server.Sending
import MockApi.Proofs.Server.Headers
import MockApi.Proofs.Server.Access
import MockApi.Proofs.Server.LastPort
import MockApi.Proofs.Server.Framing
