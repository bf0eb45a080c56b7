import RefundAgent.Foundation.Program
import RefundAgent.Integrations.InboxFinalizer

/-!
# Manual redrive

The eligibility policy and `PostgresProviderOperationsRepository`: one dead
command, or one failed callback, is given a new cycle on a supervisor's
request.
-/

namespace RefundAgent

open Foundation

/-!
## Policy
-/

inductive RedriveEligibilityCode where
  | eligible
  | statusNotRedrivable
  | activeLease
  | providerRejection
  | currentCycleTerminalEvidenceRequired
  | technicalTerminalFailureRequired
  | leaseExpiryNotAttemptExhausting
deriving DecidableEq, Repr

def RedriveEligibilityCode.value : RedriveEligibilityCode -> String
  | eligible => "eligible"
  | statusNotRedrivable => "status_not_redrivable"
  | activeLease => "active_lease"
  | providerRejection => "provider_rejection"
  | currentCycleTerminalEvidenceRequired => "current_cycle_terminal_evidence_required"
  | technicalTerminalFailureRequired => "technical_terminal_failure_required"
  | leaseExpiryNotAttemptExhausting => "lease_expiry_not_attempt_exhausting"

structure OutboxRedriveState where
  status : OutboxDeliveryStatus
  deliveryCycle : Nat
  attemptsInCycle : Nat
  hasActiveLease : Bool
  lastFailureKind : Option ProviderFailureKind
  terminalAttemptCycle : Option Nat
  terminalAttemptNumber : Option Nat
  terminalAttemptOutcome : Option DeliveryAttemptOutcome
  terminalAttemptFailureKind : Option ProviderFailureKind
deriving DecidableEq

def technicalFailureKinds : List ProviderFailureKind :=
  [ProviderFailureKind.networkError, ProviderFailureKind.timeout,
    ProviderFailureKind.httpRetryable, ProviderFailureKind.httpClientError,
    ProviderFailureKind.validationError]

/-- `decide_outbox_redrive_eligibility` at the default number of attempts. -/
def decideOutboxRedriveEligibility (state : OutboxRedriveState) :
    RedriveEligibilityCode :=
  if state.status ≠ OutboxDeliveryStatus.dead then
    RedriveEligibilityCode.statusNotRedrivable
  else if state.hasActiveLease = true then
    RedriveEligibilityCode.activeLease
  else if state.lastFailureKind = some ProviderFailureKind.providerRejection ∨
      state.terminalAttemptOutcome = some DeliveryAttemptOutcome.providerRejected ∨
      state.terminalAttemptFailureKind =
        some ProviderFailureKind.providerRejection then
    RedriveEligibilityCode.providerRejection
  else if state.deliveryCycle < 1 ∨ state.attemptsInCycle < 1 ∨
      state.terminalAttemptCycle ≠ some state.deliveryCycle ∨
      state.terminalAttemptNumber ≠ some state.attemptsInCycle then
    RedriveEligibilityCode.currentCycleTerminalEvidenceRequired
  else if state.terminalAttemptOutcome =
      some DeliveryAttemptOutcome.terminalFailure then
    if state.terminalAttemptFailureKind.any
        (fun k => decide (k ∈ technicalFailureKinds)) = true then
      RedriveEligibilityCode.eligible
    else
      RedriveEligibilityCode.technicalTerminalFailureRequired
  else if state.terminalAttemptOutcome =
      some DeliveryAttemptOutcome.leaseExpired then
    if state.terminalAttemptFailureKind ≠ none then
      RedriveEligibilityCode.technicalTerminalFailureRequired
    else if state.attemptsInCycle ≠ maxAttempts then
      RedriveEligibilityCode.leaseExpiryNotAttemptExhausting
    else
      RedriveEligibilityCode.eligible
  else
    RedriveEligibilityCode.technicalTerminalFailureRequired

/-- `decide_inbox_redrive_eligibility`. -/
def decideInboxRedriveEligibility (status : InboxProcessingStatus)
    (hasActiveLease : Bool) : RedriveEligibilityCode :=
  if status ≠ InboxProcessingStatus.failed then
    RedriveEligibilityCode.statusNotRedrivable
  else if hasActiveLease = true then
    RedriveEligibilityCode.activeLease
  else
    RedriveEligibilityCode.eligible

/-!
## Audit records
-/

/-- `_safe_request_id`. -/
def safeRequestId? (value : String) : Option String :=
  if safeRequestId value = true then some value else none

def OutboxRedrive.view (r : OutboxRedrive) : ProviderRedriveView :=
  { requestId := safeRequestId? r.requestId
    reasonCode := r.reasonCode
    actor := r.requestedBy
    previousCycle := r.previousCycle
    newCycle := r.newCycle
    createdAt := r.createdAt }

def InboxRedrive.view (r : InboxRedrive) : ProviderRedriveView :=
  { requestId := safeRequestId? r.requestId
    reasonCode := r.reasonCode
    actor := r.requestedBy
    previousCycle := r.previousCycle
    newCycle := r.newCycle
    createdAt := r.createdAt }

/-- `_outbox_audit_for_request`. -/
def outboxAuditForRequest (db : Database) (tenantId : CleanText)
    (requestId : String) : Option OutboxRedrive :=
  db.outbox.redrives.rows.find? fun r =>
    decide (r.tenantId = tenantId) && decide (r.requestId = requestId)

/-- `_inbox_audit_for_request`. -/
def inboxAuditForRequest (db : Database) (tenantId : CleanText)
    (requestId : String) : Option InboxRedrive :=
  db.inbox.redrives.rows.find? fun r =>
    decide (r.tenantId = tenantId) && decide (r.requestId = requestId)

/-- `_validate_outbox_replay`. -/
def validateOutboxReplay (row : OutboxRedrive) (commandId : UUID)
    (request : ProviderRedriveRequest) : Except Failure ProviderRedriveView :=
  if row.commandId = commandId ∧ row.reasonCode = request.reasonCode then
    Except.ok row.view
  else
    Except.error (Failure.providerOperationsConflict "request_id_conflict")

/-- `_validate_inbox_replay`. -/
def validateInboxReplay (row : InboxRedrive) (inboxId : UUID)
    (request : ProviderRedriveRequest) : Except Failure ProviderRedriveView :=
  if row.inboxId = inboxId ∧ row.reasonCode = request.reasonCode then
    Except.ok row.view
  else
    Except.error (Failure.providerOperationsConflict "request_id_conflict")

/-- Turn a computed outcome into a transaction that leaves the state alone. -/
def answer {α : Type} : Except Failure α -> Tx α
  | Except.ok a => pure a
  | Except.error e => Transaction.raise e

/-- `_authorize`. -/
def authorizeProviderOperations (scope : AccessScope) (permission : Permission) :
    Program Database Failure Unit :=
  Program.require (scope.hasProviderOperationsPermission permission = true)
    (Failure.forbidden "the caller cannot access Provider operations")

/-!
## Aggregates
-/

def stateConflict (code : String) : Failure :=
  Failure.providerOperationsConflict code

/-- `_insert_case_redrive_event`. -/
def insertCaseRedriveEvent (scope : AccessScope) (caseId : UUID)
    (customerId : CleanText) (commandId : UUID) (request : ProviderRedriveRequest)
    (redriveId : UUID) (now : Time) : Tx Unit := do
  let eventId ← newId
  insertCaseEvent
    { SupportCaseEvent.blank eventId
        ("provider-redrive:" ++ scope.tenantId.text ++ ":" ++ toString redriveId)
        caseId CaseEventType.providerRedrive customerId scope.tenantId now with
      providerCommandId := some commandId
      providerRedriveReasonCode := some request.reasonCode
      actor := some scope.identity }

/-- The state of an operation whose command may be redriven. -/
def OrderOperation.redrivable (o : OrderOperation) (customerId : CleanText) :
    Bool :=
  decide (o.customerId = customerId) &&
    decide (o.status = OperationRecordStatus.manualReview) &&
    o.requiresManualReview &&
    decide (o.reviewCaseType = some CaseType.orderOperationReview) &&
    o.supportCaseId.isSome

/-- The SET clause of `_recover_operation`. -/
def OrderOperation.setRedriven (now : Time) (r : OrderOperation) :
    OrderOperation :=
  { r with
    status := OperationRecordStatus.queued
    requiresManualReview := false
    reviewCaseType := none
    reviewPriority := none
    supportCaseId := none
    updatedAt := greatest now r.updatedAt r.createdAt
    version := r.version + 1 }

/-- The event of a redriven operation. -/
def redriveEvent (scope : AccessScope) (message : OutboxMessage)
    (operationId eventId : UUID) (request : ProviderRedriveRequest) (now : Time) :
    OrderOperationEvent :=
  { eventId := eventId
    idempotencyKey := "provider-redrive:" ++ scope.tenantId.text ++ ":" ++
      toString message.commandId ++ ":" ++ request.requestId
    operationId := operationId
    eventType := OperationEventType.statusChanged
    previousStatus := some OperationRecordStatus.manualReview
    currentStatus := some OperationRecordStatus.queued
    providerReference := none
    supportCaseId := none
    actor := scope.identity
    customerId := message.customerId
    tenantId := scope.tenantId
    createdAt := now }

/-- `_recover_operation`. -/
def recoverOperation (scope : AccessScope) (message : OutboxMessage)
    (request : ProviderRedriveRequest) (redriveId : UUID) (now : Time) :
    Tx Unit := do
  let operation ← Transaction.fetch
    (fun db => (db.operations.rows.get message.aggregateId).filter fun o =>
      decide (o.tenantId = scope.tenantId))
    (stateConflict "aggregate_association_mismatch")
  Transaction.require (operation.redrivable message.customerId = true)
    (stateConflict "aggregate_state_mismatch")
  let case ← Transaction.fetch
    (fun db => (operation.supportCaseId.bind db.cases.rows.get).filter fun c =>
      decide (c.tenantId = scope.tenantId))
    (stateConflict "review_case_association_mismatch")
  Transaction.require
    (case.customerId = message.customerId ∧
      case.caseType = CaseType.orderOperationReview)
    (stateConflict "review_case_association_mismatch")
  let affected ← updateOperation operation.operationId
    (fun r => decide (r.tenantId = scope.tenantId) &&
      decide (r.status = OperationRecordStatus.manualReview) &&
      decide (r.version = operation.version))
    (OrderOperation.setRedriven now)
  Transaction.require (affected = 1) (stateConflict "aggregate_state_changed")
  let eventId ← newId
  insertOperationEvent
    (redriveEvent scope message operation.operationId eventId request now)
  insertCaseRedriveEvent scope case.caseId message.customerId message.commandId
    request redriveId now

/-- `_audit_support_case`. -/
def auditSupportCase (scope : AccessScope) (message : OutboxMessage)
    (request : ProviderRedriveRequest) (redriveId : UUID) (now : Time) :
    Tx Unit := do
  let mismatch := stateConflict "aggregate_association_mismatch"
  Transaction.require
    (message.commandType = ProviderCommandType.deliveryInvestigation) mismatch
  let case ← Transaction.fetch
    (fun db => (db.cases.rows.get message.aggregateId).filter fun c =>
      decide (c.tenantId = scope.tenantId)) mismatch
  Transaction.require
    (case.customerId = message.customerId ∧
      case.caseType = CaseType.deliveryInvestigation) mismatch
  insertCaseRedriveEvent scope case.caseId message.customerId message.commandId
    request redriveId now

/-!
## Outbox redrive
-/

/-- `ORDER BY attempt_number DESC, attempt_id DESC`. -/
def laterAttempt (a b : OutboxDeliveryAttempt) : Prop :=
  b.attemptNumber < a.attemptNumber ∨
    (a.attemptNumber = b.attemptNumber ∧ b.attemptId ≤ a.attemptId)

instance : DecidableRel laterAttempt := fun a b =>
  inferInstanceAs (Decidable (b.attemptNumber < a.attemptNumber ∨
    (a.attemptNumber = b.attemptNumber ∧ b.attemptId ≤ a.attemptId)))

/-- The latest finished attempt of the current cycle. -/
def terminalAttempt (db : Database) (message : OutboxMessage) :
    Option OutboxDeliveryAttempt :=
  ((db.outbox.attempts.select fun a => decide (a.commandId = message.commandId) &&
    decide (a.deliveryCycle = message.deliveryCycle) && !a.isOpen).insertionSort
      laterAttempt).head?

/-- The evidence on which eligibility is decided. -/
def outboxRedriveState (message : OutboxMessage)
    (attempt : Option OutboxDeliveryAttempt) : OutboxRedriveState :=
  { status := message.status
    deliveryCycle := message.deliveryCycle
    attemptsInCycle := message.attemptsInCycle
    hasActiveLease := message.leaseId.isSome
    lastFailureKind := message.lastFailureKind
    terminalAttemptCycle := attempt.map OutboxDeliveryAttempt.deliveryCycle
    terminalAttemptNumber := attempt.map OutboxDeliveryAttempt.attemptNumber
    terminalAttemptOutcome := attempt.bind OutboxDeliveryAttempt.outcome
    terminalAttemptFailureKind := attempt.bind OutboxDeliveryAttempt.failureKind }

/-- The SET clause of the outbox redrive. -/
def OutboxMessage.setRedriven (newCycle : Nat) (availableAt now : Time)
    (m : OutboxMessage) : OutboxMessage :=
  { m with
    status := OutboxDeliveryStatus.retryScheduled
    deliveryCycle := newCycle
    attemptsInCycle := 0
    availableAt := availableAt
    leaseId := none
    leaseOwner := none
    leaseExpiresAt := none
    lastFailureKind := none
    lastErrorCode := none
    lastErrorMessage := none
    publishedAt := none
    deadAt := none
    updatedAt := greatest now m.updatedAt m.createdAt }

/-- The audit record of an outbox redrive. -/
def outboxRedriveRow (scope : AccessScope) (message : OutboxMessage)
    (request : ProviderRedriveRequest) (redriveId : UUID) (now : Time) :
    OutboxRedrive :=
  { redriveId := redriveId
    commandId := message.commandId
    tenantId := scope.tenantId
    requestId := request.requestId
    requestedBy := scope.identity
    reasonCode := request.reasonCode
    previousCycle := message.deliveryCycle
    newCycle := message.deliveryCycle + 1
    createdAt := now }

/-- The aggregate part of a redrive. -/
def redriveAggregate (scope : AccessScope) (message : OutboxMessage)
    (request : ProviderRedriveRequest) (redriveId : UUID) (now : Time) : Tx Unit :=
  match message.aggregateType with
  | ProviderAggregateType.orderOperation =>
      recoverOperation scope message request redriveId now
  | ProviderAggregateType.supportCase =>
      auditSupportCase scope message request redriveId now

/-- The new cycle of an eligible command. -/
def beginOutboxCycle (scope : AccessScope) (message : OutboxMessage)
    (request : ProviderRedriveRequest) (clock : Nat -> Time) :
    Tx ProviderRedriveView := do
  let now := max (clock 1) message.updatedAt
  let redriveId ← newId
  redriveAggregate scope message request redriveId now
  let affected ← updateOutbox message.commandId
    (fun m => decide (m.tenantId = scope.tenantId) &&
      decide (m.status = OutboxDeliveryStatus.dead) &&
      decide (m.deliveryCycle = message.deliveryCycle))
    (OutboxMessage.setRedriven (message.deliveryCycle + 1) (clock 0) now)
  Transaction.require (affected = 1) (stateConflict "redrive_state_changed")
  let row := outboxRedriveRow scope message request redriveId now
  insertOutboxRedrive row
  pure { row.view with requestId := some request.requestId }

/--
The look at the audit table under the lock of the command.  A record of this
command was written under the same lock and is seen; one of another command may
be committed after the look and before the insert, and is then missed.
-/
def lockedOutboxAudit (db : Database) (tenantId : CleanText) (commandId : UUID)
    (requestId : String) (missed : Bool) : Option OutboxRedrive :=
  (outboxAuditForRequest db tenantId requestId).filter fun r =>
    !missed || decide (r.commandId = commandId)

/-- The transaction of `redrive_outbox`, from the lock of the command on. -/
def redriveOutboxTransaction (scope : AccessScope) (commandId : UUID)
    (request : ProviderRedriveRequest) (missed : Bool) (clock : Nat -> Time) :
    Tx ProviderRedriveView := do
  let message ← Transaction.fetch
    (fun db => (db.outbox.messages.get commandId).filter fun m =>
      decide (m.tenantId = scope.tenantId))
    Failure.providerOperationsNotFound
  let replay ← Transaction.read
    (fun db => lockedOutboxAudit db scope.tenantId commandId request.requestId missed)
  match replay with
  | some row => answer (validateOutboxReplay row commandId request)
  | none => do
      let attempt ← Transaction.read (fun db => terminalAttempt db message)
      let decision :=
        decideOutboxRedriveEligibility (outboxRedriveState message attempt)
      Transaction.require (decision = RedriveEligibilityCode.eligible)
        (stateConflict decision.value)
      beginOutboxCycle scope message request clock

/-- What `redrive_outbox` does with the error of its transaction. -/
def redriveFailure (audit : UniqueConstraint)
    (reload : Program Database Failure ProviderRedriveView) (e : Failure) :
    Option (Program Database Failure ProviderRedriveView) :=
  match e with
  | Failure.uniqueViolation c =>
      if c = audit then some reload
      else some (Program.raise (stateConflict "audit_conflict"))
  | e =>
      if e.isDatabaseError then
        some (Program.raise Failure.providerOperationsPersistence)
      else
        none

/-- The first look at the audit table; a request on record is answered from it. -/
def replayOr {ρ : Type} (look : Database -> Option ρ)
    (validate : ρ -> Except Failure ProviderRedriveView)
    (tx : Tx ProviderRedriveView) : Program Database Failure ProviderRedriveView := do
  let replay ← Program.perform (Transaction.read look)
  match replay with
  | some row => Program.done (validate row)
  | none => Program.perform tx

/-- `redrive_outbox`. -/
def redriveOutbox (scope : AccessScope) (commandId : UUID)
    (request : ProviderRedriveRequest) (missed : Bool) (clock : Nat -> Time) :
    Program Database Failure ProviderRedriveView := do
  authorizeProviderOperations scope Permission.providerOpsRedrive
  (replayOr (fun db => outboxAuditForRequest db scope.tenantId request.requestId)
    (fun row => validateOutboxReplay row commandId request)
    (redriveOutboxTransaction scope commandId request missed clock)).rescue
    (redriveFailure UniqueConstraint.outboxRedrivesTenantRequest do
      let row ← Program.perform (Transaction.fetch
        (fun db => outboxAuditForRequest db scope.tenantId request.requestId)
        (stateConflict "request_id_conflict"))
      Program.done (validateOutboxReplay row commandId request))

/-!
## Inbox redrive
-/

/-- The SET clause of the inbox redrive. -/
def InboxMessage.setRedriven (newCycle : Nat) (availableAt now : Time)
    (m : InboxMessage) : InboxMessage :=
  { m with
    status := InboxProcessingStatus.received
    processingCycle := newCycle
    attemptsInCycle := 0
    availableAt := availableAt
    leaseId := none
    leaseOwner := none
    leaseExpiresAt := none
    lastErrorCode := none
    lastErrorMessage := none
    processedAt := none
    failedAt := none
    updatedAt := greatest now m.updatedAt m.receivedAt }

/-- The audit record of an inbox redrive. -/
def inboxRedriveRow (scope : AccessScope) (message : InboxMessage)
    (request : ProviderRedriveRequest) (redriveId : UUID) (now : Time) :
    InboxRedrive :=
  { redriveId := redriveId
    inboxId := message.inboxId
    tenantId := scope.tenantId
    requestId := request.requestId
    requestedBy := scope.identity
    reasonCode := request.reasonCode
    previousCycle := message.processingCycle
    newCycle := message.processingCycle + 1
    createdAt := now }

/-- The new cycle of a failed callback. -/
def beginInboxCycle (scope : AccessScope) (message : InboxMessage)
    (request : ProviderRedriveRequest) (clock : Nat -> Time) :
    Tx ProviderRedriveView := do
  let now := max (clock 1) message.updatedAt
  let redriveId ← newId
  let affected ← updateInbox message.inboxId
    (fun m => decide (m.tenantId = scope.tenantId.text) &&
      decide (m.status = InboxProcessingStatus.failed) &&
      decide (m.processingCycle = message.processingCycle))
    (InboxMessage.setRedriven (message.processingCycle + 1) (clock 0) now)
  Transaction.require (affected = 1) (stateConflict "redrive_state_changed")
  let row := inboxRedriveRow scope message request redriveId now
  insertInboxRedrive row
  pure { row.view with requestId := some request.requestId }

/-- The look at the audit table under the lock of the inbox message. -/
def lockedInboxAudit (db : Database) (tenantId : CleanText) (inboxId : UUID)
    (requestId : String) (missed : Bool) : Option InboxRedrive :=
  (inboxAuditForRequest db tenantId requestId).filter fun r =>
    !missed || decide (r.inboxId = inboxId)

/-- The transaction of `redrive_inbox`, from the lock of the message on. -/
def redriveInboxTransaction (scope : AccessScope) (inboxId : UUID)
    (request : ProviderRedriveRequest) (missed : Bool) (clock : Nat -> Time) :
    Tx ProviderRedriveView := do
  let message ← Transaction.fetch
    (fun db => (db.inbox.messages.get inboxId).filter fun m =>
      decide (m.tenantId = scope.tenantId.text))
    Failure.providerOperationsNotFound
  let replay ← Transaction.read
    (fun db => lockedInboxAudit db scope.tenantId inboxId request.requestId missed)
  match replay with
  | some row => answer (validateInboxReplay row inboxId request)
  | none => do
      let decision :=
        decideInboxRedriveEligibility message.status message.leaseId.isSome
      Transaction.require (decision = RedriveEligibilityCode.eligible)
        (stateConflict decision.value)
      beginInboxCycle scope message request clock

/-- `redrive_inbox`. -/
def redriveInbox (scope : AccessScope) (inboxId : UUID)
    (request : ProviderRedriveRequest) (missed : Bool) (clock : Nat -> Time) :
    Program Database Failure ProviderRedriveView := do
  authorizeProviderOperations scope Permission.providerOpsRedrive
  (replayOr (fun db => inboxAuditForRequest db scope.tenantId request.requestId)
    (fun row => validateInboxReplay row inboxId request)
    (redriveInboxTransaction scope inboxId request missed clock)).rescue
    (redriveFailure UniqueConstraint.inboxRedrivesTenantRequest do
      let row ← Program.perform (Transaction.fetch
        (fun db => inboxAuditForRequest db scope.tenantId request.requestId)
        (stateConflict "request_id_conflict"))
      Program.done (validateInboxReplay row inboxId request))

end RefundAgent
