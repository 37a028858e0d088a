import ParcelDesk.Account.Basic
import ParcelDesk.Account.Jwt
import ParcelDesk.Account.Password
import ParcelDesk.Account.Token
import ParcelDesk.Cache.Address
import ParcelDesk.Cache.Memory
import ParcelDesk.Cache.Remote
import ParcelDesk.Cache.Server
import ParcelDesk.Database.Endpoint
import ParcelDesk.Database.Migration
import ParcelDesk.Database.OrderTable
import ParcelDesk.Database.Pool
import ParcelDesk.Database.Row
import ParcelDesk.Database.Schema
import ParcelDesk.Database.Statement
import ParcelDesk.Database.TokenTable
import ParcelDesk.Database.UserTable
import ParcelDesk.Decimal.Notation
import ParcelDesk.Decimal.Reading
import ParcelDesk.Decimal.Shortest
import ParcelDesk.Desk.Orders
import ParcelDesk.Desk.Sessions
import ParcelDesk.Desk.World
import ParcelDesk.Digest.Base64
import ParcelDesk.Digest.Blowfish
import ParcelDesk.Digest.Sha256
import ParcelDesk.Envelope
import ParcelDesk.Failure
import ParcelDesk.Fee
import ParcelDesk.FieldErrors
import ParcelDesk.Json.Decode
import ParcelDesk.Json.Node
import ParcelDesk.Json.Reader
import ParcelDesk.Json.Value
import ParcelDesk.Order.Basic
import ParcelDesk.Order.Consignment
import ParcelDesk.Order.Draft
import ParcelDesk.Order.Json
import ParcelDesk.Paging
import ParcelDesk.Proofs.AcceptedTokens
import ParcelDesk.Proofs.AgeingRows
import ParcelDesk.Proofs.Attempts
import ParcelDesk.Proofs.Authorization
import ParcelDesk.Proofs.Base64
import ParcelDesk.Proofs.Bearers
import ParcelDesk.Proofs.CacheCalls
import ParcelDesk.Proofs.CacheDeletions
import ParcelDesk.Proofs.CacheEntries
import ParcelDesk.Proofs.CivilDates
import ParcelDesk.Proofs.CollectedComplaints
import ParcelDesk.Proofs.ConsignmentIds
import ParcelDesk.Proofs.Conversations
import ParcelDesk.Proofs.Courses
import ParcelDesk.Proofs.Decimals
import ParcelDesk.Proofs.DeskRuns
import ParcelDesk.Proofs.DraftRules
import ParcelDesk.Proofs.Drafts
import ParcelDesk.Proofs.Envelopes
import ParcelDesk.Proofs.FailedLogins
import ParcelDesk.Proofs.FailureStatuses
import ParcelDesk.Proofs.FastPath
import ParcelDesk.Proofs.FeeSchedule
import ParcelDesk.Proofs.GateVerdicts
import ParcelDesk.Proofs.Interleavings
import ParcelDesk.Proofs.JsonDocuments
import ParcelDesk.Proofs.JsonLiterals
import ParcelDesk.Proofs.JsonMembers
import ParcelDesk.Proofs.JsonRecords
import ParcelDesk.Proofs.KeptAccounts
import ParcelDesk.Proofs.Labels
import ParcelDesk.Proofs.LaidTrees
import ParcelDesk.Proofs.LayeredSettings
import ParcelDesk.Proofs.LeftoverMirrors
import ParcelDesk.Proofs.ListingQueries
import ParcelDesk.Proofs.Listings
import ParcelDesk.Proofs.LoginVerdicts
import ParcelDesk.Proofs.MaskedAddresses
import ParcelDesk.Proofs.MaskedNumbers
import ParcelDesk.Proofs.MergedTrees
import ParcelDesk.Proofs.MobileNumbers
import ParcelDesk.Proofs.Neighbours
import ParcelDesk.Proofs.Numerals
import ParcelDesk.Proofs.OrderFigures
import ParcelDesk.Proofs.OrderHistory
import ParcelDesk.Proofs.OrderLedger
import ParcelDesk.Proofs.OrderMirrors
import ParcelDesk.Proofs.OrderRows
import ParcelDesk.Proofs.OrderTerms
import ParcelDesk.Proofs.OverlappingSessions
import ParcelDesk.Proofs.Ownership
import ParcelDesk.Proofs.PageFigures
import ParcelDesk.Proofs.Pages
import ParcelDesk.Proofs.Queries
import ParcelDesk.Proofs.Redraws
import ParcelDesk.Proofs.RefreshTokens
import ParcelDesk.Proofs.Requests
import ParcelDesk.Proofs.Rests
import ParcelDesk.Proofs.Retries
import ParcelDesk.Proofs.SavedTokens
import ParcelDesk.Proofs.Servings
import ParcelDesk.Proofs.SignedTokens
import ParcelDesk.Proofs.SingleSessions
import ParcelDesk.Proofs.SingleSettings
import ParcelDesk.Proofs.StoredOrders
import ParcelDesk.Proofs.StoredValues
import ParcelDesk.Proofs.SurvivingSessions
import ParcelDesk.Proofs.TextSettings
import ParcelDesk.Proofs.TokenSteps
import ParcelDesk.Proofs.TokenTransactions
import ParcelDesk.Proofs.UniqueAccounts
import ParcelDesk.Proofs.Utf8
import ParcelDesk.Settings.Basic
import ParcelDesk.Settings.Dotenv
import ParcelDesk.Settings.Json
import ParcelDesk.Settings.Load
import ParcelDesk.Settings.Toml
import ParcelDesk.Settings.Tree
import ParcelDesk.Settings.Typed
import ParcelDesk.Settings.Variables
import ParcelDesk.Store.Orders
import ParcelDesk.Store.Tokens
import ParcelDesk.Store.Users
import ParcelDesk.Task
import ParcelDesk.Text.Basic
import ParcelDesk.Text.Bytes
import ParcelDesk.Text.Email
import ParcelDesk.Text.Quoted
import ParcelDesk.Time.Civil
import ParcelDesk.Time.Instant
import ParcelDesk.Web.Application
import ParcelDesk.Web.Cors
import ParcelDesk.Web.MediaType
import ParcelDesk.Web.Query
import ParcelDesk.Web.Request
import ParcelDesk.Web.Response
import ParcelDesk.Web.Route
import ParcelDesk.Web.Url
