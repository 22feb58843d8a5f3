import Backoffice.Account.Device
import Backoffice.Account.Expiry
import Backoffice.Account.Login
import Backoffice.Account.Session
import Backoffice.Account.Token
import Backoffice.Client.Cascade
import Backoffice.Client.Config
import Backoffice.Client.Context
import Backoffice.Client.Error
import Backoffice.Client.Form
import Backoffice.Client.Http
import Backoffice.Client.OpenForm
import Backoffice.Client.ReferenceData
import Backoffice.Client.Route
import Backoffice.Client.SignIn
import Backoffice.Client.Users
import Backoffice.Client.Workspace
import Backoffice.Envelope
import Backoffice.Except
import Backoffice.Identifier
import Backoffice.Json.Basic
import Backoffice.Json.Decode
import Backoffice.Json.Document
import Backoffice.Json.Double
import Backoffice.Json.Reader
import Backoffice.Json.Schema
import Backoffice.Json.Writer
import Backoffice.Proofs.Json.Texts
import Backoffice.Proofs.Time.Calendar
import Backoffice.Proofs.Time.Instant
import Backoffice.Record.Client
import Backoffice.Record.Country
import Backoffice.Record.Image
import Backoffice.Record.Person
import Backoffice.Record.Reference
import Backoffice.Record.Role
import Backoffice.Record.Status
import Backoffice.Record.User
import Backoffice.Storage.Credential
import Backoffice.Storage.Durable
import Backoffice.Storage.Profile
import Backoffice.Storage.Table
import Backoffice.Task.Alone
import Backoffice.Task.Basic
import Backoffice.Task.Timeline
import Backoffice.Text.Blank
import Backoffice.Text.Bytes
import Backoffice.Text.Case
import Backoffice.Text.CaseTable
import Backoffice.Text.PrintTable
import Backoffice.Text.Quoted
import Backoffice.Text.Search
import Backoffice.Time.Calendar
import Backoffice.Time.Instant
import Backoffice.Web.Host
import Backoffice.Web.MediaType
import Backoffice.Web.Message
import Backoffice.Web.Percent
import Backoffice.Web.Script
import Backoffice.Web.Url
import Backoffice.Proofs.Storage.Sight
import Backoffice.Proofs.Storage.Credential
import Backoffice.Proofs.Client.View
import Backoffice.Proofs.Task.Alone
import Backoffice.Proofs.Task.Safety
import Backoffice.Proofs.Client.Request
import Backoffice.Proofs.Client.Coherence
import Backoffice.Proofs.Client.Operation
import Backoffice.Proofs.Client.Reach
import Backoffice.Proofs.Client.SignIn
import Backoffice.Proofs.Storage.Along
import Backoffice.Proofs.Storage.Reopening
import Backoffice.Proofs.Storage.Lifetime
import Backoffice.Proofs.Task.Interleaving
import Backoffice.Proofs.Client.Inquiry
import Backoffice.Proofs.Client.Errand
import Backoffice.Proofs.Client.Traffic
import Backoffice.Proofs.Client.Renewal
import Backoffice.Proofs.Client.Rotation
import Backoffice.Proofs.Client.Logout
import Backoffice.Proofs.Client.Login
import Backoffice.Proofs.Storage.Contents
import Backoffice.Proofs.Json.Values
import Backoffice.Proofs.Record.RoundTrip
import Backoffice.Proofs.Client.Frame
import Backoffice.Proofs.Client.Rejection
import Backoffice.Proofs.Task.Queueing
import Backoffice.Proofs.Client.Airfield
import Backoffice.Proofs.Client.SingleFlight
import Backoffice.Proofs.Task.AtOnce
import Backoffice.Proofs.Storage.Clearing
import Backoffice.Proofs.Client.Reset
import Backoffice.Proofs.Task.Telling
import Backoffice.Proofs.Client.Answers
import Backoffice.Proofs.Client.Bootstrap
import Backoffice.Proofs.Client.Retry
import Backoffice.Proofs.Client.Invalidation
import Backoffice.Proofs.Client.ForcedSignOut
import Backoffice.Proofs.Task.Matching
import Backoffice.Proofs.Storage.Kinship
import Backoffice.Proofs.Client.Bond
import Backoffice.Proofs.Client.Course
import Backoffice.Proofs.Client.RefreshToken
import Backoffice.Proofs.Client.Password
import Backoffice.Proofs.Client.DeviceIdentity
import Backoffice.Proofs.Client.FailedLogout
import Backoffice.Proofs.Json.Overlay
import Backoffice.Proofs.Record.Parts
import Backoffice.Proofs.Record.Merging
import Backoffice.Proofs.Client.CountryChoice
import Backoffice.Proofs.Text.ByteOrder
import Backoffice.Proofs.Client.UnitChoice
import Backoffice.Proofs.Storage.Refusal
import Backoffice.Proofs.Client.Submission
import Backoffice.Proofs.Client.Mutation
import Backoffice.Proofs.Client.DirectoryCalls
import Backoffice.Proofs.Task.History
import Backoffice.Proofs.Client.UnitFetches
import Backoffice.Proofs.Client.FormCalls
import Backoffice.Proofs.Record.References
import Backoffice.Proofs.Account.Device
import Backoffice.Proofs.Storage.Purging
import Backoffice.Proofs.Storage.LastLogin
import Backoffice.Proofs.Record.NormalForm
import Backoffice.Proofs.Text.Lowering
import Backoffice.Proofs.Client.CountrySearch
import Backoffice.Proofs.Storage.Engines
import Backoffice.Proofs.Client.BaseAddress
import Backoffice.Proofs.Client.DialingCode
import Backoffice.Proofs.Web.Addresses
import Backoffice.Proofs.Client.Routing
