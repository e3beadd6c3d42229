import PayGuard.Lib.Runs
import PayGuard.Lib.Tables
import PayGuard.Lib.Pages
import PayGuard.Lib.Confinement
import PayGuard.Lib.TokenBucket
import PayGuard.Lib.WaitGraph
import PayGuard.Lib.Aggregates
import PayGuard.Lib.IntegerLiterals
import PayGuard.Lib.Lines
import PayGuard.Lib.Histories
import PayGuard.Lib.Escrow
import PayGuard.Domain.StateMachine
import PayGuard.Providers.Base
import PayGuard.Providers.Mock
import PayGuard.Providers.Concurrency
import PayGuard.Providers.Chaos
import PayGuard.Database.Models
import PayGuard.Ledger.Service
import PayGuard.Ledger.Invariants
import PayGuard.Idempotency.Service
import PayGuard.Idempotency.Protocol
import PayGuard.Idempotency.Exclusive
import PayGuard.Idempotency.Finality
import PayGuard.Idempotency.Lease
import PayGuard.Idempotency.Progress
import PayGuard.Risk.Service
import PayGuard.Payments.Service
import PayGuard.Payments.Validation
import PayGuard.Payments.Queries
import PayGuard.Payments.Paging
import PayGuard.Webhooks.Security
import PayGuard.Webhooks.Service
import PayGuard.Reconciliation.Service
import PayGuard.System.Machine
import PayGuard.Idempotency.Framing
import PayGuard.System.Effects
import PayGuard.System.Commits
import PayGuard.System.Held
import PayGuard.System.Reservations
import PayGuard.System.Deliveries
import PayGuard.System.Landings
import PayGuard.Outbox.Worker
import PayGuard.Outbox.Origins
import PayGuard.Outbox.Replay
import PayGuard.Outbox.Dispatch
import PayGuard.Outbox.Retries
import PayGuard.Outbox.Fairness
import PayGuard.Webhooks.Once
import PayGuard.Webhooks.Providers
import PayGuard.Webhooks.NeverLost
import PayGuard.Invariants.AuditTrail
import PayGuard.Invariants.Timeline
import PayGuard.Invariants.FailingCaptures
import PayGuard.Invariants.Settlement
import PayGuard.Invariants.RefundBalance
import PayGuard.Invariants.OneEffect
import PayGuard.Invariants.RefundLedger
import PayGuard.Invariants.Verdicts
import PayGuard.Invariants.HangingRefunds
import PayGuard.Invariants.RefundBatch
import PayGuard.Races.Departures
import PayGuard.Races.CaptureWebhook
import PayGuard.Races.Reconciliation
import PayGuard.System.Filings
import PayGuard.System.Signatures
import PayGuard.System.Messages
import PayGuard.System.Lifecycle
import PayGuard.System.Questions
import PayGuard.System.KeyRows
import PayGuard.Invariants.AttemptNumbers
import PayGuard.Invariants.CreationMetrics
import PayGuard.Invariants.DashboardVolumes
import PayGuard.Invariants.Legality
import PayGuard.Invariants.BlockedPayments
import PayGuard.Invariants.OneCapture
import PayGuard.Invariants.Refundability
import PayGuard.Invariants.EqualRefunds
import PayGuard.Invariants.Histories
import PayGuard.Webhooks.Causes
import PayGuard.System.Requests
import PayGuard.Invariants.RefundStatuses
import PayGuard.Invariants.Accounts
import PayGuard.Ledger.Audits
import PayGuard.Invariants.ClosedPayments
import PayGuard.Invariants.RefundAccount
import PayGuard.Invariants.Velocity
import PayGuard.Reconciliation.Answerable
import PayGuard.Reconciliation.Exits
import PayGuard.Reconciliation.Passes
import PayGuard.Reconciliation.Reports
import PayGuard.Reconciliation.Calls
import PayGuard.Reconciliation.KeyLinks
import PayGuard.Reconciliation.OriginalKey
import PayGuard.Locks.Transactions
import PayGuard.Locks.Deadlock
import PayGuard.Ratelimit.Service
import PayGuard.Ratelimit.Bounds
import PayGuard.Merchants.Service
import PayGuard.Merchants.Rotation
import PayGuard.Gateway.Service
import PayGuard.Gateway.Passages
import PayGuard.Gateway.Admission
import PayGuard.Gateway.Limits
import PayGuard.Gateway.Webhooks
import PayGuard.Tenancy.Rows
import PayGuard.Tenancy.Restriction
import PayGuard.Tenancy.Transactions
import PayGuard.Tenancy.Steps
import PayGuard.Tenancy.Api
import PayGuard.Tenancy.NonInterference
import PayGuard.Tenancy.Frame
import PayGuard.Tenancy.Isolation
