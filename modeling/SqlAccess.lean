import SqlAccess.Backend.Builtin
import SqlAccess.Backend.Wire
import SqlAccess.Config.Reader
import SqlAccess.Json.Reader
import SqlAccess.Rehearsal.Play
import SqlAccess.Template.Cache
import SqlAccess.Proofs.Template.Region
import SqlAccess.Proofs.Template.Lexeme
import SqlAccess.Proofs.Template.Token
import SqlAccess.Proofs.Template.Span
import SqlAccess.Proofs.Template.Order
import SqlAccess.Proofs.Template.Recency
import SqlAccess.Proofs.Template.Sharing
import SqlAccess.Proofs.Template.Traffic
import SqlAccess.Proofs.Pool.Exchange
import SqlAccess.Proofs.Pool.Caution
import SqlAccess.Proofs.Pool.Supply
import SqlAccess.Proofs.Transaction.Session
import SqlAccess.Proofs.Transaction.Scope
import SqlAccess.Proofs.Transaction.Course
import SqlAccess.Proofs.Transaction.Progress
import SqlAccess.Proofs.Transaction.Retention
import SqlAccess.Proofs.Transaction.Replay
import SqlAccess.Proofs.Transaction.Durability
import SqlAccess.Proofs.Transaction.Deferral
import SqlAccess.Proofs.Binding.Shape
import SqlAccess.Proofs.Binding.Writing
import SqlAccess.Proofs.Pool.Clients
import SqlAccess.Proofs.Pool.Engagement
import SqlAccess.Proofs.Pool.Hygiene
import SqlAccess.Proofs.Pool.Operations
import SqlAccess.Proofs.Binding.Retained
import SqlAccess.Proofs.Binding.Scan
import SqlAccess.Proofs.Binding.Markers
import SqlAccess.Proofs.Binding.Occurrence
import SqlAccess.Proofs.Binding.Inclusion
import SqlAccess.Proofs.Binding.Fault
import SqlAccess.Proofs.Binding.Demand
import SqlAccess.Proofs.Binding.Outcome
import SqlAccess.Proofs.Routing.Noise
import SqlAccess.Proofs.Number.Rounding
import SqlAccess.Proofs.Number.Conversion
import SqlAccess.Proofs.Backend.Wire
import SqlAccess.Proofs.Pool.Seeking
import SqlAccess.Proofs.Pool.Errand
import SqlAccess.Proofs.Pool.Tracking
import SqlAccess.Proofs.Pool.Crowd
import SqlAccess.Proofs.Pool.Chronicle
import SqlAccess.Proofs.Pool.Registry
import SqlAccess.Proofs.Pool.Balance
import SqlAccess.Proofs.Pool.Accounting
import SqlAccess.Proofs.Pool.Turnover
import SqlAccess.Proofs.Pool.Stock
import SqlAccess.Proofs.Pool.Occupancy
import SqlAccess.Proofs.Transaction.Ownership
import SqlAccess.Proofs.Pool.Readiness
import SqlAccess.Proofs.Routing.Rest
import SqlAccess.Proofs.Routing.Passage
import SqlAccess.Proofs.Routing.Cooldown
import SqlAccess.Proofs.Pool.Company
import SqlAccess.Proofs.Pool.Waiting
import SqlAccess.Proofs.Routing.Attempt
import SqlAccess.Proofs.Routing.Trail
import SqlAccess.Proofs.Routing.Journey
import SqlAccess.Proofs.Routing.Retry
import SqlAccess.Proofs.Routing.Alone
import SqlAccess.Proofs.Routing.Placement
import SqlAccess.Proofs.Template.Balance
import SqlAccess.Proofs.Template.Blame
import SqlAccess.Proofs.Template.Tree
import SqlAccess.Proofs.Routing.Choice
import SqlAccess.Proofs.Routing.Share
import SqlAccess.Proofs.Routing.Rotation
import SqlAccess.Proofs.Routing.Due
import SqlAccess.Proofs.Routing.Failover
import SqlAccess.Proofs.Backend.Loyalty
import SqlAccess.Proofs.Query.Naming
import SqlAccess.Proofs.Query.Failure
import SqlAccess.Proofs.Transaction.Body
import SqlAccess.Proofs.Pool.Retirement
import SqlAccess.Proofs.Transaction.Settlement
import SqlAccess.Proofs.Transaction.Undertaking
import SqlAccess.Proofs.Transaction.Atomicity
import SqlAccess.Proofs.Binding.Growth
import SqlAccess.Proofs.Result.Grouping
import SqlAccess.Proofs.Template.Inert
import SqlAccess.Proofs.Time.Digits
import SqlAccess.Proofs.Time.Pattern
import SqlAccess.Proofs.Time.Survival
import SqlAccess.Proofs.FirstFault
import SqlAccess.Proofs.Latest
import SqlAccess.Proofs.Text.Blank
import SqlAccess.Proofs.Value.Cast
import SqlAccess.Proofs.Value.Whole
import SqlAccess.Proofs.Routing.History
import SqlAccess.Proofs.Clause.Whitelist
import SqlAccess.Proofs.Binding.Splice
import SqlAccess.Proofs.Binding.Agreement
import SqlAccess.Proofs.Result.Lookup
