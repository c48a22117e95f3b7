import ChannelBot.Action.Builtin
import ChannelBot.Action.Registry
import ChannelBot.Attempt
import ChannelBot.Bot.Delivery
import ChannelBot.Bot.Lifecycle
import ChannelBot.Bot.Membership
import ChannelBot.Bot.Stage
import ChannelBot.Bot.Worker
import ChannelBot.Command
import ChannelBot.Dialogue
import ChannelBot.Fault
import ChannelBot.Http
import ChannelBot.Line
import ChannelBot.Messages.Catalogue
import ChannelBot.Messages.Document
import ChannelBot.Messages.Figures
import ChannelBot.Messages.Layout
import ChannelBot.Messages.Report
import ChannelBot.Messages.Template
import ChannelBot.Messages.TemplateArg
import ChannelBot.Number.Binary64
import ChannelBot.Number.Column
import ChannelBot.Number.Decimal
import ChannelBot.Number.Integer
import ChannelBot.Number.Places
import ChannelBot.Number.Real
import ChannelBot.Outbound.Message
import ChannelBot.Outbound.Queue
import ChannelBot.Outbound.Run
import ChannelBot.Permission
import ChannelBot.Proofs.Dialogue.Runs
import ChannelBot.Proofs.Outbound.Moments
import ChannelBot.Proofs.Outbound.Order
import ChannelBot.Proofs.Router.Gate
import ChannelBot.Proofs.Router.Interpret
import ChannelBot.Proofs.Script.Compile
import ChannelBot.Proofs.Script.Pieces
import ChannelBot.Proofs.Server.Address
import ChannelBot.Proofs.Server.Call
import ChannelBot.Proofs.Server.Content
import ChannelBot.Proofs.Server.History
import ChannelBot.Proofs.Server.LogStream
import ChannelBot.Proofs.Server.Ledger
import ChannelBot.Proofs.Server.Reachable
import ChannelBot.Proofs.Server.Rows
import ChannelBot.Proofs.Server.Sound
import ChannelBot.Proofs.Store.Exchange
import ChannelBot.Proofs.Store.Keys
import ChannelBot.Proofs.Text.Lower
import ChannelBot.Proofs.Text.Percent
import ChannelBot.Proofs.Text.Utf8
import ChannelBot.Proofs.Value.Json
import ChannelBot.Proofs.Value.Text
import ChannelBot.Provider.Exchange
import ChannelBot.Provider.Languages
import ChannelBot.Provider.Spotify
import ChannelBot.Provider.Weather
import ChannelBot.Refresh.Schedule
import ChannelBot.Refresh.State
import ChannelBot.Router.Route
import ChannelBot.Script.Compile
import ChannelBot.Script.Fault
import ChannelBot.Script.Interpret
import ChannelBot.Script.Parse
import ChannelBot.Server.Authorization
import ChannelBot.Server.Backend
import ChannelBot.Server.Normal
import ChannelBot.Server.Channels
import ChannelBot.Server.Handle
import ChannelBot.Server.LogBook
import ChannelBot.Server.Page
import ChannelBot.Server.Payload
import ChannelBot.Server.Request
import ChannelBot.Server.Response
import ChannelBot.Server.Route
import ChannelBot.Server.Settings
import ChannelBot.Server.Tables
import ChannelBot.Server.Validation
import ChannelBot.Service.Account
import ChannelBot.Service.Keeper
import ChannelBot.Service.News
import ChannelBot.Store.Console
import ChannelBot.Store.Query
import ChannelBot.Stream.Client
import ChannelBot.Stream.Frame
import ChannelBot.Stream.Redemption
import ChannelBot.Text.Blank
import ChannelBot.Text.Case
import ChannelBot.Text.CaseTable
import ChannelBot.Text.Digit
import ChannelBot.Text.Order
import ChannelBot.Text.Percent
import ChannelBot.Text.Printable
import ChannelBot.Text.Units
import ChannelBot.Text.Utf8
import ChannelBot.Time.Calendar
import ChannelBot.Value.Access
import ChannelBot.Value.Basic
import ChannelBot.Value.Display
import ChannelBot.Value.Equal
import ChannelBot.Value.Order
import ChannelBot.Value.Read
import ChannelBot.Value.Write
import ChannelBot.Yaml.Block
import ChannelBot.Yaml.Datum
import ChannelBot.Yaml.Token
import ChannelBot.Yaml.Mark
import ChannelBot.Yaml.Node
import ChannelBot.Yaml.Outline
import ChannelBot.Yaml.Place
import ChannelBot.Yaml.Plain
import ChannelBot.Yaml.Quoted
import ChannelBot.Yaml.Scalar
import ChannelBot.Yaml.Tag
import ChannelBot.Proofs.Outbound.Pace
import ChannelBot.Proofs.Router.Inert
import ChannelBot.Proofs.Dialogue.Interleaving
import ChannelBot.Proofs.Store.Targets
import ChannelBot.Proofs.Action.Hits
import ChannelBot.Proofs.Server.Outsider
import ChannelBot.Proofs.Server.Settings
import ChannelBot.Proofs.Text.Form
import ChannelBot.Proofs.Server.Secrecy
import ChannelBot.Proofs.Authorization.Visits
import ChannelBot.Proofs.Authorization.Runs
import ChannelBot.Proofs.Authorization.SingleUse
import ChannelBot.Proofs.Authorization.Lifetime
import ChannelBot.Proofs.Refresh.Rotation
import ChannelBot.Proofs.Router.Response
import ChannelBot.Proofs.Service.Steps
import ChannelBot.Proofs.Service.Fingerprint
import ChannelBot.Proofs.Service.OneBot
import ChannelBot.Proofs.Authorization.Atomic
import ChannelBot.Proofs.Text.Blank
import ChannelBot.Proofs.Line.Spelling
import ChannelBot.Proofs.Line.Sigils
import ChannelBot.Proofs.Value.Access
import ChannelBot.Proofs.Stream.Frames
import ChannelBot.Proofs.Store.Faults
import ChannelBot.Proofs.Router.Asks
import ChannelBot.Proofs.Router.Shelf
import ChannelBot.Proofs.Router.Course
import ChannelBot.Proofs.Router.Management
import ChannelBot.Proofs.Text.LowerTwice
import ChannelBot.Proofs.Server.Naming
import ChannelBot.Proofs.Number.Written
import ChannelBot.Proofs.Bot.Timeouts
import ChannelBot.Proofs.Provider.Exchange
import ChannelBot.Proofs.Provider.Reports
import ChannelBot.Proofs.Provider.Music
import ChannelBot.Proofs.Action.Integrations
import ChannelBot.Proofs.Server.Bootstrap
import ChannelBot.Proofs.Server.Transparency
import ChannelBot.Proofs.Server.Profile
import ChannelBot.Proofs.Server.Coherence
import ChannelBot.Proofs.Server.Occasions
import ChannelBot.Proofs.Service.Configuration
import ChannelBot.Proofs.Refresh.Independence
import ChannelBot.Proofs.Bot.Refreshing
import ChannelBot.Proofs.Script.Grammar
import ChannelBot.Proofs.Script.Print
import ChannelBot.Proofs.Server.ScopeStorage
import ChannelBot.Proofs.Server.Pages
import ChannelBot.Proofs.Time.Written
import ChannelBot.Proofs.Server.Credentials
import ChannelBot.Proofs.Server.Expiry
import ChannelBot.Proofs.Authorization.Endings
import ChannelBot.Proofs.Refresh.Waits
import ChannelBot.Proofs.Value.Numeral
import ChannelBot.Proofs.Value.Reread
import ChannelBot.Proofs.Store.Renewal
import ChannelBot.Proofs.Refresh.Together
import ChannelBot.Proofs.Bot.Channels
import ChannelBot.Proofs.Bot.Joins
import ChannelBot.Proofs.Bot.Leaving
import ChannelBot.Proofs.Bot.Ready
import ChannelBot.Proofs.Router.Enrolment
import ChannelBot.Proofs.Server.Updates
import ChannelBot.Proofs.Store.Reasons
import ChannelBot.Proofs.Stream.Redemptions
import ChannelBot.Proofs.Stream.Topics
import ChannelBot.Proofs.Outbound.Completion
import ChannelBot.Proofs.Service.Announcements
import ChannelBot.Proofs.Line.Canonical
