import RefundAgent.Foundation.Supply
import RefundAgent.Foundation.Table
import RefundAgent.Foundation.Transaction
import RefundAgent.Model.Messages
import RefundAgent.Model.Refunds

/-!
# The database

Four groups of tables: order operations, support cases, the outbox and the
inbox, each with its event or attempt tables, and the table of refund requests.
The identifier supply stands for `uuid4`.

Unique constraints, and the CHECK constraints that depend on values from
outside, are enforced by the write statements below.  The CHECK constraints of
`outbox_messages` and `inbox_messages` on status, lease and counters are not
enforced here: that the code never violates them is proved.
-/

namespace RefundAgent

open Foundation

structure OperationTables where
  rows : Table OrderOperation UUID OrderOperation.operationId
  events : Table OrderOperationEvent UUID OrderOperationEvent.eventId

structure CaseTables where
  rows : Table SupportCase UUID SupportCase.caseId
  events : Table SupportCaseEvent UUID SupportCaseEvent.eventId

structure OutboxTables where
  messages : Table OutboxMessage UUID (fun m => m.commandId)
  attempts : Table OutboxDeliveryAttempt UUID OutboxDeliveryAttempt.attemptId
  redrives : Table OutboxRedrive UUID OutboxRedrive.redriveId

structure InboxTables where
  messages : Table InboxMessage UUID (fun m => m.inboxId)
  attempts : Table InboxProcessingAttempt UUID InboxProcessingAttempt.attemptId
  redrives : Table InboxRedrive UUID InboxRedrive.redriveId

structure Database where
  operations : OperationTables
  cases : CaseTables
  outbox : OutboxTables
  inbox : InboxTables
  refunds : RefundTable
  ids : Supply

namespace Database

/-- Every table empty, with a given supply of identifiers. -/
def initial (ids : Supply) : Database :=
  { operations := { rows := Table.empty, events := Table.empty }
    cases := { rows := Table.empty, events := Table.empty }
    outbox :=
      { messages := Table.empty, attempts := Table.empty, redrives := Table.empty }
    inbox :=
      { messages := Table.empty, attempts := Table.empty, redrives := Table.empty }
    refunds := Table.empty
    ids := ids }

end Database

/-!
## Errors
-/

/-- The unique constraints that an insert or update can violate. -/
inductive UniqueConstraint where
  | primaryKey
  | orderOperationsActiveOrder
  | orderOperationsSourceMessage
  | orderOperationsIdempotencyKey
  | orderOperationEventsIdempotencyKey
  | supportCasesActiveThreadType
  | supportCasesActiveDeliveryOrder
  | supportCaseEventsIdempotency
  | outboxMessagesTenantIdempotency
  | outboxDeliveryAttemptsCycleNumber
  | outboxRedrivesTenantRequest
  | inboxProcessingAttemptsNumber
  | inboxRedrivesTenantRequest
deriving DecidableEq, Repr

/-- The exceptions raised by the modelled code, with their texts. -/
inductive Failure where
  | valueError (message : String)
  | validationError (model : String)
  | uniqueViolation (constraint : UniqueConstraint)
  | checkViolation
  | foreignKeyViolation
  | poolTimeout
  | leaseConflict (id : UUID)
  | outboxAttemptsExhausted (id : UUID)
  | integrationPersistence (message : String)
  | inboxEventConflict (fields : List String)
  | forbidden (message : String)
  | providerOperationsNotFound
  | providerOperationsConflict (code : String)
  | providerOperationsPersistence
  | operationNotFound (id : UUID)
  | concurrentOperationUpdate (message : String)
  | activeOrderOperationConflict
  | duplicateOperationSourceMessage
  | duplicateOperationIdempotency
  | operationPersistence (message : String)
  | invalidOperationStatusTransition (message : String)
  | caseNotFound (id : UUID)
  | concurrentCaseUpdate (message : String)
  | activeCaseConflict (id : UUID)
  | duplicateSourceMessage (id : String)
  | duplicateIdempotencyKey (key : String)
  | casePersistence (message : String)
  | invalidCaseStatusTransition (current target : CaseStatus)
  | refundPersistence (message : String)
  | providerConnectionNotFound
  | providerConfigurationUnavailable
  | orderNotAccessible
  | unauthenticated (message : String)
  | keyError (key : String)
  | graphRecursion
  | assignmentTargetUnavailable
  | directoryInfrastructureUnavailable
  | runtimeError (message : String)
  | assertionError (message : String)
deriving DecidableEq, Repr

namespace Failure

/-- `ValueError` and its subclasses. -/
def isValueError : Failure -> Bool
  | valueError _ => true
  | validationError _ => true
  | invalidOperationStatusTransition _ => true
  | invalidCaseStatusTransition _ _ => true
  | _ => false

/-- `psycopg.errors.DatabaseError` and the pool's timeout. -/
def isDatabaseError : Failure -> Bool
  | uniqueViolation _ => true
  | checkViolation => true
  | foreignKeyViolation => true
  | poolTimeout => true
  | _ => false

end Failure

abbrev Tx (α : Type) := Transaction Database Failure α

end RefundAgent
