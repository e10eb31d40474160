import Harvest.Calendar
import Harvest.Command.Arguments
import Harvest.Command.Basic
import Harvest.Command.Files
import Harvest.Command.Machine
import Harvest.Command.Path
import Harvest.Command.Procedure
import Harvest.Course
import Harvest.Crawl.Basic
import Harvest.Crawl.Buffer
import Harvest.Crawl.Content
import Harvest.Crawl.Isolated
import Harvest.Crawl.Queue
import Harvest.Crawl.Round
import Harvest.Crawl.Run
import Harvest.Crawl.Sink
import Harvest.Equation.Basic
import Harvest.Equation.Reader
import Harvest.Http.Reply
import Harvest.Http.Request
import Harvest.Http.Sharing
import Harvest.Identity.Basic
import Harvest.Identity.Cookie
import Harvest.Json.Basic
import Harvest.Json.Printer
import Harvest.Json.Reader
import Harvest.Lease.Coordinator
import Harvest.Lease.Identifier
import Harvest.Lease.Link
import Harvest.Lease.Maintenance
import Harvest.Lease.Operation
import Harvest.Lease.Rule
import Harvest.Listing
import Harvest.Main
import Harvest.Markup.Arena
import Harvest.Markup.Builder
import Harvest.Markup.Carrying
import Harvest.Markup.Document
import Harvest.Markup.Element
import Harvest.Markup.Insertion
import Harvest.Markup.Node
import Harvest.Markup.Reference
import Harvest.Markup.ReferenceTable
import Harvest.Markup.Rules.Body
import Harvest.Markup.Rules.Finish
import Harvest.Markup.Rules.Foreign
import Harvest.Markup.Rules.Select
import Harvest.Markup.Rules.Start
import Harvest.Markup.Rules.Table
import Harvest.Markup.Token
import Harvest.Metrics
import Harvest.Number.Binary64
import Harvest.Number.Decimal
import Harvest.Number.Word
import Harvest.Pattern.Basic
import Harvest.Pattern.Evaluation
import Harvest.Pattern.Extraction
import Harvest.Pattern.Reader
import Harvest.Proofs.Course
import Harvest.Proofs.Crawl.Accounts
import Harvest.Proofs.Crawl.Attempts
import Harvest.Proofs.Crawl.Balance
import Harvest.Proofs.Crawl.Budget
import Harvest.Proofs.Crawl.Counters
import Harvest.Proofs.Crawl.Details
import Harvest.Proofs.Crawl.Ending
import Harvest.Proofs.Crawl.Fates
import Harvest.Proofs.Crawl.Filings
import Harvest.Proofs.Crawl.Flushes
import Harvest.Proofs.Crawl.Following
import Harvest.Proofs.Crawl.Limits
import Harvest.Proofs.Crawl.Log
import Harvest.Proofs.Crawl.Moves
import Harvest.Proofs.Crawl.Once
import Harvest.Proofs.Crawl.Order
import Harvest.Proofs.Crawl.Reporting
import Harvest.Proofs.Crawl.Schedule
import Harvest.Proofs.Crawl.Script
import Harvest.Proofs.Crawl.Sharing
import Harvest.Proofs.Crawl.Traffic
import Harvest.Proofs.Crawl.Values
import Harvest.Proofs.Crawl.Visits
import Harvest.Proofs.Equation.Grammar
import Harvest.Proofs.Equation.Tokens
import Harvest.Proofs.Equation.Trichotomy
import Harvest.Proofs.Identity.Cookie
import Harvest.Proofs.Identity.History
import Harvest.Proofs.Identity.Merging
import Harvest.Proofs.Identity.Pairs
import Harvest.Proofs.Identity.Rotation
import Harvest.Proofs.Json.Names
import Harvest.Proofs.Json.Sameness
import Harvest.Proofs.Json.Texts
import Harvest.Proofs.Lease.Alike
import Harvest.Proofs.Lease.Attempt
import Harvest.Proofs.Lease.Batches
import Harvest.Proofs.Lease.Book
import Harvest.Proofs.Lease.Cancellation
import Harvest.Proofs.Lease.Completion
import Harvest.Proofs.Lease.Conduct
import Harvest.Proofs.Lease.Distinct
import Harvest.Proofs.Lease.Documents
import Harvest.Proofs.Lease.Effect
import Harvest.Proofs.Lease.Exchange
import Harvest.Proofs.Lease.Exclusion
import Harvest.Proofs.Lease.Faring
import Harvest.Proofs.Lease.Generation
import Harvest.Proofs.Lease.Interruption
import Harvest.Proofs.Lease.LifeCycle
import Harvest.Proofs.Lease.Recovery
import Harvest.Proofs.Lease.Recurrence
import Harvest.Proofs.Lease.Replacement
import Harvest.Proofs.Lease.Selection
import Harvest.Proofs.Lease.Series
import Harvest.Proofs.Lease.Settling
import Harvest.Proofs.Lease.Soundness
import Harvest.Proofs.Lease.Spans
import Harvest.Proofs.Lease.System
import Harvest.Proofs.Lease.Terms
import Harvest.Proofs.Lease.Timer
import Harvest.Proofs.Lease.Turn
import Harvest.Proofs.Lease.Undisturbed
import Harvest.Proofs.Lease.Variants
import Harvest.Proofs.Lease.Withdrawal
import Harvest.Proofs.Listing
import Harvest.Proofs.Number.Binary64
import Harvest.Proofs.Number.Decimal
import Harvest.Proofs.Outcome
import Harvest.Proofs.Pattern.Cleaning
import Harvest.Proofs.Pattern.Leaves
import Harvest.Proofs.Pattern.Meaning
import Harvest.Proofs.Pattern.Precedence
import Harvest.Proofs.Pattern.Reach
import Harvest.Proofs.Pattern.Reading
import Harvest.Proofs.Pattern.Sites
import Harvest.Proofs.Service.Agreement
import Harvest.Proofs.Service.Refusals
import Harvest.Proofs.Store.Collections
import Harvest.Proofs.Store.Contract
import Harvest.Proofs.Store.Pages
import Harvest.Proofs.Text.Cutting
import Harvest.Proofs.Text.Replacing
import Harvest.Proofs.Text.Splitting
import Harvest.Proofs.Text.Trimming
import Harvest.Proofs.Url.Origin
import Harvest.Record
import Harvest.Selector.Basic
import Harvest.Selector.Matching
import Harvest.Selector.Reader
import Harvest.Selector.Token
import Harvest.Service.Jobs
import Harvest.Service.Router
import Harvest.Settings.Basic
import Harvest.Settings.Document
import Harvest.Settings.Environment
import Harvest.Store.Basic
import Harvest.Store.Call
import Harvest.Store.Error
import Harvest.Store.Filter
import Harvest.Text.Blank
import Harvest.Text.Pieces
import Harvest.Text.Utf8
import Harvest.Url.Basic
import Harvest.Url.Host
import Harvest.Url.Punycode
import Harvest.Url.Reader
import Harvest.Yaml.Cursor
import Harvest.Yaml.Kind
import Harvest.Yaml.Node
import Harvest.Yaml.Printer
import Harvest.Yaml.Scalar
import Harvest.Yaml.Token
import Harvest.Yaml.Value
