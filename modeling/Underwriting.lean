import Underwriting.Lib.Lists
import Underwriting.Lib.Prog
import Underwriting.Lib.Retry
import Underwriting.Lib.Interleave
import Underwriting.Lib.Refine
import Underwriting.Lib.Serial
import Underwriting.Lib.Exclusive
import Underwriting.Lib.History
import Underwriting.Lib.Journal
import Underwriting.Lib.Sequential
import Underwriting.Lib.Calls
import Underwriting.Lib.Traces
import Underwriting.Lib.Interpret
import Underwriting.Lib.Along
import Underwriting.Lib.Instants
import Underwriting.Lib.Embed
import Underwriting.Lib.Ledger
import Underwriting.Lib.Latest
import Underwriting.Lib.OrderBy
import Underwriting.Lib.Paging
import Underwriting.Lib.Relational
import Underwriting.Lib.CaseTables
import Underwriting.Lib.Text
import Underwriting.Lib.PrintTables
import Underwriting.Lib.Json
import Underwriting.Lib.JsonText
import Underwriting.Lib.JsonRoundTrip
import Underwriting.Lib.Sha1
import Underwriting.Lib.Rounding
import Underwriting.Lib.Decimal
import Underwriting.Lib.DecimalValue
import Underwriting.Lib.DecimalText
import Underwriting.Lib.PyFloat
import Underwriting.Lib.Calendar
import Underwriting.Lib.Gregorian
import Underwriting.Lib.Rfc3339
import Underwriting.Lib.Schema
import Underwriting.Enums
import Underwriting.Errors
import Underwriting.Db
import Underwriting.Columns
import Underwriting.Effects
import Underwriting.Repositories
import Underwriting.Reads
import Underwriting.Appetite.Rules
import Underwriting.Rating.Engine
import Underwriting.Rating.Seeds
import Underwriting.Rating.Stages
import Underwriting.Rating.Amounts
import Underwriting.Rating.Items
import Underwriting.Rating.Exact
import Underwriting.Rating.Ceilings
import Underwriting.Rating.Service
import Underwriting.Submission.Service
import Underwriting.Submission.Inbox
import Underwriting.Bind.PolicyClient
import Underwriting.Bind.Service
import Underwriting.Bind.Publisher
import Underwriting.Bind.Payload
import Underwriting.Bind.Lifecycle
import Underwriting.Bind.PolicyStore
import Underwriting.Bind.Registry
import Underwriting.Bind.Stages
import Underwriting.Bind.Token
import Underwriting.Bind.HttpClient
import Underwriting.Bind.Contract
import Underwriting.Failures
import Underwriting.Startup.Database
import Underwriting.Startup.Lifespan
import Underwriting.Startup.Migrations
import Underwriting.Api.Routes
import Underwriting.Api.Auth
import Underwriting.Api.V1
import Underwriting.Workbench.SubmissionPage
import Underwriting.Machine.Phases
import Underwriting.Machine.Threads
import Underwriting.Machine.Steps
import Underwriting.Machine.Rows
import Underwriting.Machine.Milestones
import Underwriting.Machine.Policies
import Underwriting.Machine.Solo
import Underwriting.Machine.Scenario
import Underwriting.Machine.Stack
import Underwriting.Machine.Endpoints
import Underwriting.Machine.Deployment
import Underwriting.Properties.Audit
import Underwriting.Properties.Replay
import Underwriting.Properties.Lookup
import Underwriting.Properties.Workflow
import Underwriting.Properties.Freeze
import Underwriting.Properties.Events
import Underwriting.Properties.Activation
import Underwriting.Properties.OnePolicy
import Underwriting.Properties.Announcement
import Underwriting.Properties.Convergence
import Underwriting.Properties.Integrity
import Underwriting.Properties.Reassess
import Underwriting.Properties.Reconcile
import Underwriting.Properties.Monotone
import Underwriting.Properties.Band
import Underwriting.Properties.Cents
import Underwriting.Properties.Order
import Underwriting.Properties.Terminal
import Underwriting.Properties.Inbox
import Underwriting.Properties.Scopes
import Underwriting.Properties.Compatible
import Underwriting.Properties.StageOrder
import Underwriting.Properties.Checkable
import Underwriting.Properties.Displayed
import Underwriting.Properties.Tighten
import Underwriting.Properties.Columns
import Underwriting.Properties.Capacity
import Underwriting.Properties.Answered
import Underwriting.Properties.Paging
import Underwriting.Properties.Published
import Underwriting.Properties.Seeding
import Underwriting.Properties.Tokens
import Underwriting.Properties.Client
import Underwriting.Properties.Ledger
import Underwriting.Properties.Straight
import Underwriting.Properties.Endpoints
import Underwriting.Properties.Reads
import Underwriting.Properties.Current
import Underwriting.Properties.Refused
import Underwriting.Properties.Workbench
import Underwriting.Properties.Contract
import Underwriting.Properties.Waiting
import Underwriting.Properties.Deployment
