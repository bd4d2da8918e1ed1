import MediaServer.Text.Percent
import MediaServer.Text.Split
import MediaServer.Text.Digits
import MediaServer.Text.Space
import MediaServer.Text.Quoted
import MediaServer.Text.Utf8
import MediaServer.Text.Form
import MediaServer.Text.Escaped
import MediaServer.Decimal.Notation
import MediaServer.Decimal.Reading
import MediaServer.Json.Reading
import MediaServer.Message.Header
import MediaServer.Message.Uri
import MediaServer.Message.Address
import MediaServer.Lifetime.Guard
import MediaServer.Lifetime.Shutdown
import MediaServer.Toml.Basic
import MediaServer.Toml.Text
import MediaServer.Toml.Number
import MediaServer.Toml.Moment
import MediaServer.Toml.Value
import MediaServer.Toml.Document
import MediaServer.Settings.Basic
import MediaServer.Settings.Overlay
import MediaServer.Settings.Check
import MediaServer.Settings.Load
import MediaServer.Route.Class
import MediaServer.Route.Pattern
import MediaServer.Route.Tree
import MediaServer.Route.Table
import MediaServer.Route.Media
import MediaServer.Storage.Disk
import MediaServer.Storage.Record
import MediaServer.Storage.Store
import MediaServer.Message.Body
import MediaServer.Quota.Tokens
import MediaServer.Quota.Limiter
import MediaServer.Log.Query
import MediaServer.Log.Event
import MediaServer.Reply.Basic
import MediaServer.Reply.Response
import MediaServer.Reply.Encode
import MediaServer.Reply.BaseHeaders
import MediaServer.Message.Request
import MediaServer.Gateway.Context
import MediaServer.Gateway.Endpoints
import MediaServer.Gateway.Tally
import MediaServer.Gateway.Stage
import MediaServer.Gateway.Serve
import MediaServer.Startup
import MediaServer.CommandLine
import MediaServer.Main
import MediaServer.Proofs.Lists.Lookup
import MediaServer.Proofs.Quota.Run
import MediaServer.Proofs.Quota.Balance
import MediaServer.Proofs.Quota.Windows
import MediaServer.Proofs.Quota.Configured
import MediaServer.Proofs.Quota.Isolation
import MediaServer.Proofs.Quota.Lateness
import MediaServer.Proofs.Quota.SweepCount
import MediaServer.Proofs.Message.Abandonment
import MediaServer.Proofs.Lists.Pieces
import MediaServer.Proofs.Route.BestMatch
import MediaServer.Proofs.Route.Surface
import MediaServer.Proofs.Gateway.Download
import MediaServer.Proofs.Gateway.RoundTrip
import MediaServer.Proofs.Storage.Catalogue
import MediaServer.Proofs.Gateway.Ownership
import MediaServer.Proofs.Gateway.Accounts
import MediaServer.Proofs.Route.Completeness
import MediaServer.Proofs.Storage.Interruption
import MediaServer.Proofs.Gateway.Secrecy
import MediaServer.Proofs.Gateway.Routable
import MediaServer.Proofs.Lifetime.Shutdown
import MediaServer.Proofs.Route.Order
import MediaServer.Proofs.Gateway.Confinement
import MediaServer.Proofs.Gateway.Shapes
import MediaServer.Proofs.Reply.Streams
import MediaServer.Proofs.Gateway.Admission
import MediaServer.Proofs.Route.Below
import MediaServer.Proofs.Gateway.Homeservers
import MediaServer.Proofs.Route.PatternText
import MediaServer.Proofs.Route.Encoding
import MediaServer.Proofs.Gateway.FileNames
import MediaServer.Proofs.Route.Liveness
import MediaServer.Proofs.Route.Representation
import MediaServer.Proofs.Gateway.Details
import MediaServer.Proofs.Gateway.Statuses
import MediaServer.Proofs.Route.TreePath
import MediaServer.Proofs.Gateway.Dimensions
import MediaServer.Proofs.Reply.Events
import MediaServer.Proofs.Gateway.Narration
import MediaServer.Proofs.Toml.Keys
import MediaServer.Proofs.Settings.Parse
