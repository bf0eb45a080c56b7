import RefundAgent.Foundation.Table
import RefundAgent.Foundation.Transaction
import RefundAgent.Foundation.Text
import RefundAgent.Foundation.Rounding
import RefundAgent.Foundation.Bytes
import RefundAgent.Foundation.Dict
import RefundAgent.Foundation.JsonTree
import RefundAgent.Foundation.Json
import RefundAgent.Foundation.Supply
import RefundAgent.Foundation.Ledger
import RefundAgent.Foundation.Program
import RefundAgent.Foundation.Trace
import RefundAgent.Foundation.Chronicle
import RefundAgent.Foundation.Run
import RefundAgent.Foundation.Workflow
import RefundAgent.Model.Vocabulary
import RefundAgent.Model.Operations
import RefundAgent.Model.Cases
import RefundAgent.Model.Messages
import RefundAgent.Model.Refunds
import RefundAgent.Model.Database
import RefundAgent.Model.Statements
import RefundAgent.Auth.Jwks
import RefundAgent.Auth.JwksRuns
import RefundAgent.Integrations.Retry
import RefundAgent.Integrations.PostgresWrites
import RefundAgent.Integrations.OutboxFinalizer
import RefundAgent.Integrations.OutboxRepository
import RefundAgent.Integrations.OutboxWorker
import RefundAgent.Integrations.InboxRepository
import RefundAgent.Integrations.ConnectionResolver
import RefundAgent.Integrations.Signing
import RefundAgent.Integrations.WebhookRouter
import RefundAgent.Integrations.InboxFinalizer
import RefundAgent.Integrations.ProviderOperations
import RefundAgent.Operations.Policy
import RefundAgent.Operations.Eligibility
import RefundAgent.Integrations.EnvelopeRow
import RefundAgent.Operations.Repository
import RefundAgent.Operations.Service
import RefundAgent.Integrations.ProviderFailure
import RefundAgent.Cases.Policy
import RefundAgent.Cases.Repository
import RefundAgent.Cases.Service
import RefundAgent.Refunds.Service
import RefundAgent.Graph.State
import RefundAgent.Graph.Conversation
import RefundAgent.Graph.Operations
import RefundAgent.Graph.Handoff
import RefundAgent.Graph.Turn
import RefundAgent.System.Effects
import RefundAgent.System.Move
import RefundAgent.System.OutboxInvariant
import RefundAgent.System.InboxInvariant
import RefundAgent.System.OperationInvariant
import RefundAgent.System.CaseInvariant
import RefundAgent.System.Sound
import RefundAgent.System.Work
import RefundAgent.System.DeliveryMoves
import RefundAgent.System.RedriveMoves
import RefundAgent.System.InboxMoves
import RefundAgent.System.OperationMoves
import RefundAgent.System.CaseMoves
import RefundAgent.System.Calls
import RefundAgent.System.CaseCalls
import RefundAgent.System.TurnCalls
import RefundAgent.System.World
import RefundAgent.System.Reach
import RefundAgent.System.Callbacks
import RefundAgent.System.CallbackOrder
import RefundAgent.System.CallTraces
import RefundAgent.System.ActiveOrders
import RefundAgent.System.Coupling
import RefundAgent.System.Delivery
import RefundAgent.System.CaseHistory
import RefundAgent.System.Dispatch
import RefundAgent.System.Fencing
import RefundAgent.System.FreshLeases
import RefundAgent.System.Lifecycle
import RefundAgent.System.Redrive
import RefundAgent.System.Provenance
import RefundAgent.System.Evaluation
import RefundAgent.System.Submission
import RefundAgent.System.Outcomes
import RefundAgent.System.Undisturbed
import RefundAgent.System.CaseWrites
import RefundAgent.System.HandoffRuns
import RefundAgent.System.Reasons
import RefundAgent.System.Urgency
import RefundAgent.System.Investigations
import RefundAgent.System.PolicyLayers
import RefundAgent.System.Envelopes
import RefundAgent.System.Receipts
import RefundAgent.System.References
import RefundAgent.System.StatusChanges
import RefundAgent.Integrations.RateLimit
import RefundAgent.System.RetryDecisions
import RefundAgent.System.InboxBatches
import RefundAgent.Risk.Matcher
import RefundAgent.Migrations.Runs
import RefundAgent.System.Timestamps
import RefundAgent.System.Replays
import RefundAgent.System.Footprint
import RefundAgent.System.WorkerFootprint
import RefundAgent.System.Permissions
import RefundAgent.System.RefundGrants
import RefundAgent.System.Consent
import RefundAgent.Graph.Paths
import RefundAgent.System.CaseRecords
import RefundAgent.System.Creations
import RefundAgent.System.RefundRequests
import RefundAgent.Integrations.SigningTime
import RefundAgent.Integrations.WebhookAdapter
import RefundAgent.System.TurnWrites
