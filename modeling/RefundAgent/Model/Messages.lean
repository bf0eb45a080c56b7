import RefundAgent.Model.Operations
import RefundAgent.Model.Cases

/-!
# Provider messages

Command envelopes, the outbox and inbox rows with their attempts and redrive
records, and the validators of the persistence models.  The schema version is
the constant one and is left out.
-/

namespace RefundAgent

open Foundation

/-!
## Commands
-/

inductive ProviderCommandPayload where
  | orderOperation (orderId : OrderId) (operationType : OperationType)
      (reason : OperationReason) (replacementVariantId : Option CleanText)
  | deliveryInvestigation (orderId : OrderId) (issueType : DeliveryIssueType)
deriving DecidableEq

namespace ProviderCommandPayload

def orderId : ProviderCommandPayload -> OrderId
  | orderOperation orderId _ _ _ => orderId
  | deliveryInvestigation orderId _ => orderId

def isOrderOperation : ProviderCommandPayload -> Bool
  | orderOperation _ _ _ _ => true
  | deliveryInvestigation _ _ => false

def operationType? : ProviderCommandPayload -> Option OperationType
  | orderOperation _ operationType _ _ => some operationType
  | deliveryInvestigation _ _ => none

end ProviderCommandPayload

def commandTypeByOperation : OperationType -> ProviderCommandType
  | OperationType.cancellation => ProviderCommandType.cancelOrder
  | OperationType.return => ProviderCommandType.returnOrder
  | OperationType.exchange => ProviderCommandType.exchangeOrder

def operationTypeByCommand : ProviderCommandType -> Option OperationType
  | ProviderCommandType.cancelOrder => some OperationType.cancellation
  | ProviderCommandType.returnOrder => some OperationType.return
  | ProviderCommandType.exchangeOrder => some OperationType.exchange
  | ProviderCommandType.deliveryInvestigation => none

structure ProviderCommandEnvelope where
  commandId : UUID
  idempotencyKey : String
  sourceMessageId : CleanText
  aggregateType : ProviderAggregateType
  aggregateId : UUID
  expectedOrderVersion : Option Nat
  tenantId : CleanText
  customerId : CleanText
  connectionId : CleanText
  commandType : ProviderCommandType
  payload : ProviderCommandPayload
deriving DecidableEq

namespace ProviderCommandEnvelope

/-- `validate_payload_type` with the bound on the order version. -/
def valid (c : ProviderCommandEnvelope) : Bool :=
  (c.expectedOrderVersion.all fun v => decide (1 ≤ v)) &&
    match operationTypeByCommand c.commandType with
    | none =>
        decide (c.aggregateType = ProviderAggregateType.supportCase) &&
          c.expectedOrderVersion.isNone && !c.payload.isOrderOperation &&
          decide (c.idempotencyKey =
            "delivery-investigation:" ++ toString c.aggregateId)
    | some expectedType =>
        decide (c.aggregateType = ProviderAggregateType.orderOperation) &&
          c.expectedOrderVersion.isSome &&
          decide (c.payload.operationType? = some expectedType) &&
          decide (c.idempotencyKey = "order-operation:" ++ toString c.aggregateId)

/-- `for_order_operation`, before validation. -/
def forOrderOperation (operation : OrderOperation) (connectionId : CleanText)
    (commandId : UUID) : ProviderCommandEnvelope :=
  { commandId := commandId
    idempotencyKey := "order-operation:" ++ toString operation.operationId
    sourceMessageId := operation.sourceMessageId
    aggregateType := ProviderAggregateType.orderOperation
    aggregateId := operation.operationId
    expectedOrderVersion := some operation.orderVersion
    tenantId := operation.tenantId
    customerId := operation.customerId
    connectionId := connectionId
    commandType := commandTypeByOperation operation.operationType
    payload := ProviderCommandPayload.orderOperation operation.orderId
      operation.operationType operation.requestReasonCode
      operation.replacementVariantId }

/-- `for_delivery_investigation`, once the case and its order are checked. -/
def forDeliveryInvestigation (case : SupportCase) (orderId : OrderId)
    (issueType : DeliveryIssueType) (connectionId : CleanText)
    (commandId : UUID) : ProviderCommandEnvelope :=
  { commandId := commandId
    idempotencyKey := "delivery-investigation:" ++ toString case.caseId
    sourceMessageId := case.sourceMessageId
    aggregateType := ProviderAggregateType.supportCase
    aggregateId := case.caseId
    expectedOrderVersion := none
    tenantId := case.tenantId
    customerId := case.customerId
    connectionId := connectionId
    commandType := ProviderCommandType.deliveryInvestigation
    payload := ProviderCommandPayload.deliveryInvestigation orderId issueType }

end ProviderCommandEnvelope

/--
`ProviderCommandResult`.  The model refuses empty identifiers but does not
strip them.
-/
structure ProviderCommandResult where
  commandId : UUID
  providerOperationId : Option String
  providerReference : Option String
  status : ProviderCommandAcceptanceStatus
  receivedAt : Time
  nonEmpty : providerOperationId ≠ some "" ∧ providerReference ≠ some ""

/-!
## Outbox rows
-/

structure OutboxMessage extends ProviderCommandEnvelope where
  providerCapability : ProviderCapability
  status : OutboxDeliveryStatus
  deliveryCycle : Nat
  attemptsInCycle : Nat
  availableAt : Time
  leaseId : Option UUID
  leaseOwner : Option String
  leaseExpiresAt : Option Time
  lastFailureKind : Option ProviderFailureKind
  lastErrorCode : Option String
  lastErrorMessage : Option String
  createdAt : Time
  updatedAt : Time
  publishedAt : Option Time
  deadAt : Option Time
deriving DecidableEq

/-- A text that a stripping model with `min_length=1` accepts. -/
def textAccepted (s : String) : Bool :=
  decide (Text.trim s ≠ "")

/-- `max_length=500` on a stripped text. -/
def errorTextAccepted (s : String) : Bool :=
  decide ((Text.trim s).length ≤ 500)

namespace OutboxMessage

/-- `validate_state` with the field bounds, on a row read from the table. -/
def valid (m : OutboxMessage) : Bool :=
  decide (m.createdAt ≤ m.updatedAt) &&
    decide (m.status = OutboxDeliveryStatus.processing ↔ m.leaseId.isSome = true) &&
    decide (m.status = OutboxDeliveryStatus.processing ↔
      m.leaseOwner.isSome = true) &&
    decide (m.status = OutboxDeliveryStatus.processing ↔
      m.leaseExpiresAt.isSome = true) &&
    decide (m.status = OutboxDeliveryStatus.published ↔
      m.publishedAt.isSome = true) &&
    decide (m.status = OutboxDeliveryStatus.dead ↔ m.deadAt.isSome = true) &&
    (match m.aggregateType with
      | ProviderAggregateType.orderOperation => m.expectedOrderVersion.isSome &&
          decide (m.commandType ≠ ProviderCommandType.deliveryInvestigation)
      | ProviderAggregateType.supportCase => m.expectedOrderVersion.isNone &&
          decide (m.commandType = ProviderCommandType.deliveryInvestigation)) &&
    (m.expectedOrderVersion.all fun v => decide (1 ≤ v)) &&
    decide (1 ≤ m.deliveryCycle) &&
    m.leaseOwner.all textAccepted &&
    m.lastErrorCode.all errorTextAccepted &&
    m.lastErrorMessage.all errorTextAccepted

/-- The statuses in which a command still waits for the provider's answer. -/
def undelivered (m : OutboxMessage) : Bool :=
  decide (m.status = OutboxDeliveryStatus.pending ∨
    m.status = OutboxDeliveryStatus.processing ∨
    m.status = OutboxDeliveryStatus.retryScheduled)

end OutboxMessage

structure OutboxDeliveryAttempt where
  attemptId : UUID
  commandId : UUID
  deliveryCycle : Nat
  attemptNumber : Nat
  leaseId : UUID
  workerId : String
  startedAt : Time
  finishedAt : Option Time
  outcome : Option DeliveryAttemptOutcome
  failureKind : Option ProviderFailureKind
  httpStatus : Option Int
  providerOperationId : Option String
  providerReference : Option String
  safeErrorCode : Option String
  safeErrorMessage : Option String
  retryAfterSeconds : Option Rat
  nextAvailableAt : Option Time
deriving DecidableEq

namespace OutboxDeliveryAttempt

/-- The outcomes that must name a failure kind. -/
def outcomeNamesFailure : Option DeliveryAttemptOutcome -> Bool
  | some DeliveryAttemptOutcome.providerRejected => true
  | some DeliveryAttemptOutcome.retryScheduled => true
  | some DeliveryAttemptOutcome.terminalFailure => true
  | _ => false

/-- `validate_state` with the field bounds, on a row read from the table. -/
def valid (a : OutboxDeliveryAttempt) : Bool :=
  (a.finishedAt.all fun t => decide (a.startedAt ≤ t)) &&
    decide (a.outcome.isSome = a.finishedAt.isSome) &&
    decide (outcomeNamesFailure a.outcome = a.failureKind.isSome) &&
    decide (1 ≤ a.deliveryCycle) && decide (1 ≤ a.attemptNumber) &&
    textAccepted a.workerId &&
    (a.httpStatus.all fun n => decide (100 ≤ n)) &&
    a.providerOperationId.all textAccepted &&
    a.providerReference.all textAccepted &&
    a.safeErrorCode.all errorTextAccepted &&
    a.safeErrorMessage.all errorTextAccepted &&
    a.retryAfterSeconds.all fun r => decide (0 ≤ r)

/--
The CHECK constraints of `outbox_delivery_attempts` on values that come from
the provider: the HTTP status and the two identifiers, which PostgreSQL strips
of spaces only.
-/
def checks (a : OutboxDeliveryAttempt) : Bool :=
  (a.httpStatus.all fun n => decide (100 ≤ n)) &&
    (a.providerOperationId.all fun s => decide (Text.btrim s ≠ "")) &&
    a.providerReference.all fun s => decide (Text.btrim s ≠ "")

def isOpen (a : OutboxDeliveryAttempt) : Bool :=
  a.finishedAt.isNone

end OutboxDeliveryAttempt

/-- A claimed command: the row as the worker's model sees it, and its attempt. -/
structure ClaimedOutboxMessage extends OutboxMessage where
  attempt : OutboxDeliveryAttempt
deriving DecidableEq

namespace ClaimedOutboxMessage

/-- `validate_claim` on top of the inherited validators. -/
def valid (c : ClaimedOutboxMessage) : Bool :=
  c.toOutboxMessage.valid && c.attempt.valid &&
    decide (c.status = OutboxDeliveryStatus.processing) &&
    decide (c.attempt.commandId = c.commandId) &&
    decide (some c.attempt.leaseId = c.leaseId) &&
    decide (some c.attempt.workerId = c.leaseOwner)

/--
`model_validate` of a claimed row.  The columns that come from validated
models are clean already; the worker's name is the one that may change.
-/
def ofRow (m : OutboxMessage) (a : OutboxDeliveryAttempt) :
    ClaimedOutboxMessage :=
  { m with
    leaseOwner := m.leaseOwner.map Text.trim
    lastErrorCode := m.lastErrorCode.map Text.trim
    lastErrorMessage := m.lastErrorMessage.map Text.trim
    attempt := { a with workerId := Text.trim a.workerId } }

end ClaimedOutboxMessage

structure OutboxRedrive where
  redriveId : UUID
  commandId : UUID
  tenantId : CleanText
  requestId : String
  requestedBy : String
  reasonCode : RedriveReasonCode
  previousCycle : Nat
  newCycle : Nat
  createdAt : Time
deriving DecidableEq

/-- The pattern of a redrive request id. -/
def safeRequestId (s : String) : Bool :=
  match s.toList with
  | [] => false
  | c :: rest =>
      c.isAlphanum && decide (rest.length ≤ 127) &&
        rest.all fun d => d.isAlphanum || d == '.' || d == '_' || d == ':' || d == '-'

structure ProviderRedriveRequest where
  requestId : String
  reasonCode : RedriveReasonCode
  wellFormed : safeRequestId requestId = true

structure ProviderRedriveView where
  requestId : Option String
  reasonCode : RedriveReasonCode
  actor : String
  previousCycle : Nat
  newCycle : Nat
  createdAt : Time
deriving DecidableEq

/-!
## Inbox rows
-/

structure ProviderWebhookEventData where
  commandId : UUID
  aggregateType : ProviderAggregateType
  aggregateId : UUID
  commandStatus : ProviderCommandExecutionStatus
  providerOperationId : Option CleanText
  providerReference : Option CleanText
  orderId : Option OrderId
  occurredAt : Time
deriving DecidableEq

/--
The columns of an inbox row that are written once, when it is received.  The
connection and its tenant come from models that do not strip.
-/
structure ReceivedWebhook where
  inboxId : UUID
  providerConnectionId : String
  eventId : String
  tenantId : String
  commandId : UUID
  aggregateType : ProviderAggregateType
  aggregateId : UUID
  payload : ProviderWebhookEventData
  rawBodySha256 : String
  receivedAt : Time
deriving DecidableEq

structure InboxMessage extends ReceivedWebhook where
  status : InboxProcessingStatus
  processingAttempts : Nat
  processingCycle : Nat
  attemptsInCycle : Nat
  availableAt : Time
  leaseId : Option UUID
  leaseOwner : Option String
  leaseExpiresAt : Option Time
  lastErrorCode : Option String
  lastErrorMessage : Option String
  updatedAt : Time
  processedAt : Option Time
  failedAt : Option Time
deriving DecidableEq

/-- The pattern `^[0-9a-f]{64}$`. -/
def isSha256 (s : String) : Bool :=
  decide (s.toList.length = 64) &&
    s.toList.all fun c => c.isDigit || (97 ≤ c.toNat && c.toNat ≤ 102)

namespace InboxMessage

/-- `validate_state` with the field bounds, on a row read from the table. -/
def valid (m : InboxMessage) : Bool :=
  decide (m.receivedAt ≤ m.updatedAt) &&
    decide (m.status = InboxProcessingStatus.processing ↔
      m.leaseId.isSome = true) &&
    decide (m.status = InboxProcessingStatus.processing ↔
      m.leaseOwner.isSome = true) &&
    decide (m.status = InboxProcessingStatus.processing ↔
      m.leaseExpiresAt.isSome = true) &&
    decide (m.status = InboxProcessingStatus.processed ↔
      m.processedAt.isSome = true) &&
    decide (m.status = InboxProcessingStatus.failed ↔ m.failedAt.isSome = true) &&
    decide (1 ≤ m.processingCycle) && decide (m.attemptsInCycle ≤ 5) &&
    textAccepted m.providerConnectionId && textAccepted m.eventId &&
    textAccepted m.tenantId && isSha256 m.rawBodySha256 &&
    m.leaseOwner.all textAccepted &&
    m.lastErrorCode.all errorTextAccepted &&
    m.lastErrorMessage.all errorTextAccepted

/-- Stripping of the raw text columns when a row is read through the model. -/
def stripped (m : InboxMessage) : InboxMessage :=
  { m with
    providerConnectionId := Text.trim m.providerConnectionId
    eventId := Text.trim m.eventId
    tenantId := Text.trim m.tenantId
    leaseOwner := m.leaseOwner.map Text.trim
    lastErrorCode := m.lastErrorCode.map Text.trim
    lastErrorMessage := m.lastErrorMessage.map Text.trim }

/--
The CHECK constraints of `inbox_messages` on the values of a received event.
-/
def checks (m : InboxMessage) : Bool :=
  decide (Text.btrim m.providerConnectionId ≠ "") &&
    decide (Text.btrim m.eventId ≠ "") && decide (Text.btrim m.tenantId ≠ "") &&
    isSha256 m.rawBodySha256

end InboxMessage

structure InboxProcessingAttempt where
  attemptId : UUID
  inboxId : UUID
  processingCycle : Nat
  attemptNumber : Nat
  leaseId : UUID
  workerId : String
  startedAt : Time
  finishedAt : Option Time
  outcome : Option InboxAttemptOutcome
  safeErrorCode : Option String
  safeErrorMessage : Option String
deriving DecidableEq

namespace InboxProcessingAttempt

/-- `validate_state` with the field bounds, on a row read from the table. -/
def valid (a : InboxProcessingAttempt) : Bool :=
  (a.finishedAt.all fun t => decide (a.startedAt ≤ t)) &&
    decide (a.outcome.isSome = a.finishedAt.isSome) &&
    decide (1 ≤ a.processingCycle) && decide (1 ≤ a.attemptNumber) &&
    textAccepted a.workerId &&
    a.safeErrorCode.all errorTextAccepted &&
    a.safeErrorMessage.all errorTextAccepted

def isOpen (a : InboxProcessingAttempt) : Bool :=
  a.finishedAt.isNone

end InboxProcessingAttempt

structure ClaimedInboxMessage extends InboxMessage where
  attempt : InboxProcessingAttempt
deriving DecidableEq

namespace ClaimedInboxMessage

/-- `validate_claim` on top of the inherited validators. -/
def valid (c : ClaimedInboxMessage) : Bool :=
  c.toInboxMessage.valid && c.attempt.valid &&
    decide (c.status = InboxProcessingStatus.processing) &&
    decide (c.attempt.inboxId = c.inboxId) &&
    decide (c.attempt.processingCycle = c.processingCycle) &&
    decide (c.attempt.attemptNumber = c.processingAttempts) &&
    decide (some c.attempt.leaseId = c.leaseId) &&
    decide (some c.attempt.workerId = c.leaseOwner)

def ofRow (m : InboxMessage) (a : InboxProcessingAttempt) :
    ClaimedInboxMessage :=
  { m.stripped with attempt := { a with workerId := Text.trim a.workerId } }

end ClaimedInboxMessage

structure InboxRedrive where
  redriveId : UUID
  inboxId : UUID
  tenantId : CleanText
  requestId : String
  requestedBy : String
  reasonCode : RedriveReasonCode
  previousCycle : Nat
  newCycle : Nat
  createdAt : Time
deriving DecidableEq

end RefundAgent
