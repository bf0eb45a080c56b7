import RefundAgent.Integrations.InboxRepository

/-!
# The inbox finalizer

The status policy for provider callbacks and `PostgresInboxFinalizer`, which
applies one claimed callback to its aggregate in one transaction.
-/

namespace RefundAgent

open Foundation

/-!
## Policy
-/

inductive InboxAction where
  | apply
  | duplicate
  | stale
  | conflict
deriving DecidableEq, Repr

inductive OutboxReadiness where
  | ready
  | retry
  | dead
deriving DecidableEq, Repr

structure InboxDecision where
  action : InboxAction
  targetStatus : Option OperationRecordStatus := none
deriving DecidableEq, Repr

/-- `_TARGETS`. -/
def callbackTarget : ProviderCommandExecutionStatus -> OperationRecordStatus
  | ProviderCommandExecutionStatus.accepted => OperationRecordStatus.submitted
  | ProviderCommandExecutionStatus.processing => OperationRecordStatus.processing
  | ProviderCommandExecutionStatus.completed => OperationRecordStatus.completed
  | ProviderCommandExecutionStatus.rejected => OperationRecordStatus.rejected

def providerReferenceIsCompatible (current incoming : Option String) : Bool :=
  current.isNone || incoming.isNone || decide (current = incoming)

def decideInboxOutboxReadiness : OutboxDeliveryStatus -> OutboxReadiness
  | OutboxDeliveryStatus.pending => OutboxReadiness.retry
  | OutboxDeliveryStatus.processing => OutboxReadiness.retry
  | OutboxDeliveryStatus.retryScheduled => OutboxReadiness.retry
  | OutboxDeliveryStatus.published => OutboxReadiness.ready
  | OutboxDeliveryStatus.dead => OutboxReadiness.dead

/-- The part of the status matrix where local and target status differ. -/
def decideStatusMatrix (localStatus : OperationRecordStatus)
    (providerStatus : ProviderCommandExecutionStatus) : InboxAction :=
  match localStatus, providerStatus with
  | OperationRecordStatus.submitted, ProviderCommandExecutionStatus.accepted =>
      InboxAction.stale
  | OperationRecordStatus.submitted, _ => InboxAction.apply
  | OperationRecordStatus.processing, ProviderCommandExecutionStatus.accepted =>
      InboxAction.stale
  | OperationRecordStatus.processing, ProviderCommandExecutionStatus.processing =>
      InboxAction.duplicate
  | OperationRecordStatus.processing, _ => InboxAction.apply
  | OperationRecordStatus.completed, ProviderCommandExecutionStatus.accepted =>
      InboxAction.stale
  | OperationRecordStatus.completed, ProviderCommandExecutionStatus.processing =>
      InboxAction.stale
  | _, _ => InboxAction.conflict

/-- `decide_order_operation_callback`. -/
def decideOrderOperationCallback (localStatus : OperationRecordStatus)
    (providerStatus : ProviderCommandExecutionStatus)
    (currentReference incomingReference : Option String) : InboxDecision :=
  if providerReferenceIsCompatible currentReference incomingReference = false then
    { action := InboxAction.conflict }
  else if localStatus ∈ [OperationRecordStatus.pendingConfirmation,
      OperationRecordStatus.queued, OperationRecordStatus.manualReview,
      OperationRecordStatus.cancelledByCustomer] then
    { action := InboxAction.conflict }
  else if localStatus = callbackTarget providerStatus then
    { action := InboxAction.duplicate
      targetStatus := some (callbackTarget providerStatus) }
  else
    match decideStatusMatrix localStatus providerStatus with
    | InboxAction.conflict => { action := InboxAction.conflict }
    | action =>
        { action := action, targetStatus := some (callbackTarget providerStatus) }

/-!
## Locking
-/

inductive InboxFinalizationOutcome where
  | applied
  | duplicate
  | stale
  | failed
  | retryScheduled
deriving DecidableEq, Repr

structure InboxFinalizationResult where
  outcome : InboxFinalizationOutcome
  aggregateType : ProviderAggregateType
  previousStatus : Option OperationRecordStatus := none
  currentStatus : Option OperationRecordStatus := none
  safeErrorCode : Option String := none
deriving DecidableEq, Repr

/-- The comparison of the locked row with the caller's handle. -/
def inboxMessageCurrent (m : InboxMessage) (claimed : ClaimedInboxMessage)
    (databaseNow : Time) : Bool :=
  decide (m.status = InboxProcessingStatus.processing) &&
    decide (m.leaseId = claimed.leaseId) &&
    decide (m.leaseOwner = claimed.leaseOwner) &&
    m.leaseExpiresAt.any fun t => decide (databaseNow < t)

/-- The open attempt a handle names. -/
def openInboxAttemptOf (db : Database) (claimed : ClaimedInboxMessage) :
    Option InboxProcessingAttempt :=
  (db.inbox.attempts.get claimed.attempt.attemptId).filter fun a =>
    decide (a.inboxId = claimed.inboxId) &&
      decide (some a.leaseId = claimed.leaseId) &&
      decide (some a.workerId = claimed.leaseOwner) && a.isOpen

/-- The comparison of the locked attempt with the row and the handle. -/
def inboxAttemptCurrent (m : InboxMessage) (a : InboxProcessingAttempt)
    (claimed : ClaimedInboxMessage) : Bool :=
  decide (m.processingCycle = claimed.processingCycle) &&
    decide (m.processingAttempts = claimed.processingAttempts) &&
    decide (m.attemptsInCycle = claimed.attemptsInCycle) &&
    decide (a.processingCycle = m.processingCycle) &&
    decide (a.processingCycle = claimed.attempt.processingCycle) &&
    decide (a.attemptNumber = m.processingAttempts) &&
    decide (a.attemptNumber = claimed.attempt.attemptNumber) &&
    decide (a.inboxId = m.inboxId) && decide (some a.leaseId = m.leaseId) &&
    decide (some a.workerId = m.leaseOwner)

/-- `_lock_inbox`. -/
def lockInbox (claimed : ClaimedInboxMessage) (databaseNow : Time) :
    Tx (InboxMessage × Time) := do
  let conflict := Failure.leaseConflict claimed.inboxId
  let row ← Transaction.fetch
    (fun db => db.inbox.messages.get claimed.inboxId) conflict
  let persisted ← Transaction.fetch (fun _ => (inboxFromRow row).toOption)
    (Failure.validationError "InboxMessage")
  Transaction.require (inboxMessageCurrent persisted claimed databaseNow = true)
    conflict
  let attempt ← Transaction.fetch (fun db => openInboxAttemptOf db claimed) conflict
  Transaction.require (inboxAttemptCurrent persisted attempt claimed = true) conflict
  pure (persisted, max databaseNow
    (greatest persisted.receivedAt persisted.updatedAt attempt.startedAt))

/-- `_payload_association_matches`. -/
def payloadAssociationMatches (inbox : InboxMessage) : Bool :=
  decide (inbox.commandId = inbox.payload.commandId) &&
    decide (inbox.aggregateType = inbox.payload.aggregateType) &&
    decide (inbox.aggregateId = inbox.payload.aggregateId)

/-- `_claimed_business_fields_match`. -/
def claimedBusinessFieldsMatch (claimed : ClaimedInboxMessage)
    (inbox : InboxMessage) : Bool :=
  decide (claimed.commandId = inbox.commandId) &&
    decide (claimed.tenantId = inbox.tenantId) &&
    decide (claimed.providerConnectionId = inbox.providerConnectionId) &&
    decide (claimed.aggregateType = inbox.aggregateType) &&
    decide (claimed.aggregateId = inbox.aggregateId) &&
    decide (claimed.payload = inbox.payload)

/-!
## Ending the attempt
-/

structure InboxLease where
  leaseId : UUID
  leaseOwner : String

/-- `_process`. -/
def processCallback (claimed : ClaimedInboxMessage) (lease : InboxLease)
    (now : Time) : Tx Unit := do
  let finished ← finishInboxAttempt claimed.attempt.attemptId claimed.inboxId
    lease.leaseId lease.leaseOwner
    { finishedAt := now, outcome := InboxAttemptOutcome.processed }
  Transaction.require (finished = 1) (Failure.leaseConflict claimed.inboxId)
  let affected ← markInboxProcessed claimed.inboxId lease.leaseId lease.leaseOwner
    now
  Transaction.require (affected = 1) (Failure.leaseConflict claimed.inboxId)

/-- `_fail`. -/
def failCallback (claimed : ClaimedInboxMessage) (lease : InboxLease)
    (now : Time) (code : String) (aggregateType : ProviderAggregateType) :
    Tx InboxFinalizationResult := do
  failAttempt claimed.attempt.attemptId claimed.inboxId lease.leaseId
    lease.leaseOwner now (some code) (some "Provider webhook could not be applied.")
  pure
    { outcome := InboxFinalizationOutcome.failed
      aggregateType := aggregateType
      safeErrorCode := some code }

/-- `_retry_or_fail`. -/
def retryOrFail (claimed : ClaimedInboxMessage) (lease : InboxLease)
    (attemptsInCycle : Nat) (now availableAt : Time)
    (aggregateType : ProviderAggregateType) : Tx InboxFinalizationResult :=
  if 5 ≤ attemptsInCycle then
    failCallback claimed lease now "outbox_not_finalized_attempts_exhausted"
      aggregateType
  else do
    retryAttempt claimed.attempt.attemptId claimed.inboxId lease.leaseId
      lease.leaseOwner availableAt now (some "outbox_not_finalized")
      (some "Provider command is not finalized.")
    pure
      { outcome := InboxFinalizationOutcome.retryScheduled
        aggregateType := aggregateType
        safeErrorCode := some "outbox_not_finalized" }

/-!
## The steps both finalizers share
-/

def payloadKindMatches (kind : ProviderAggregateType) (m : OutboxMessage) : Bool :=
  match kind with
  | ProviderAggregateType.orderOperation => m.payload.isOrderOperation
  | ProviderAggregateType.supportCase => !m.payload.isOrderOperation

def outboxAssociationMatches (outbox : OutboxMessage) (inbox : InboxMessage) :
    Bool :=
  decide (outbox.tenantId.text = inbox.tenantId) &&
    decide (outbox.connectionId.text = inbox.providerConnectionId) &&
    decide (outbox.aggregateType = inbox.aggregateType) &&
    decide (outbox.aggregateId = inbox.aggregateId) &&
    decide (outbox.commandId = inbox.commandId)

/-- A callback whose command is settled, ready to meet its aggregate. -/
structure SettledCallback where
  inbox : InboxMessage
  outbox : OutboxMessage
  dead : Bool
  now : Time

/-- The command of a callback: settled, or the attempt has been ended. -/
def settleCommand (claimed : ClaimedInboxMessage) (lease : InboxLease)
    (kind : ProviderAggregateType) (inbox : InboxMessage)
    (now retryAvailableAt : Time) :
    Tx (Except InboxFinalizationResult SettledCallback) := do
  let found ← Transaction.read (fun db => db.outbox.messages.get inbox.commandId)
  match found with
  | none => Except.error <$> failCallback claimed lease now "outbox_not_found" kind
  | some outbox => do
      Transaction.require (outbox.valid = true)
        (Failure.validationError "OutboxMessage")
      if payloadKindMatches kind outbox = false then
        Except.error <$>
          failCallback claimed lease now "outbox_association_mismatch" kind
      else do
        Transaction.require (outbox.toProviderCommandEnvelope.valid = true)
          (Failure.validationError "ProviderCommandEnvelope")
        if outboxAssociationMatches outbox inbox = false then
          Except.error <$>
            failCallback claimed lease now "outbox_association_mismatch" kind
        else
          match decideInboxOutboxReadiness outbox.status with
          | OutboxReadiness.retry => do
              Transaction.require (now < retryAvailableAt) (Failure.valueError
                "retry_available_at must be aware and later than database time")
              Except.error <$> retryOrFail claimed lease inbox.attemptsInCycle now
                retryAvailableAt kind
          | OutboxReadiness.ready => pure (Except.ok ⟨inbox, outbox, false, now⟩)
          | OutboxReadiness.dead => pure (Except.ok ⟨inbox, outbox, true, now⟩)

/-- From the lock to the settled command. -/
def openCallback (claimed : ClaimedInboxMessage) (lease : InboxLease)
    (kind : ProviderAggregateType) (wrongKind : String)
    (databaseNow retryAvailableAt : Time) :
    Tx (Except InboxFinalizationResult SettledCallback) := do
  let locked ← lockInbox claimed databaseNow
  Transaction.require (locked.1.aggregateType = kind) (Failure.valueError wrongKind)
  if payloadAssociationMatches locked.1 = false then
    Except.error <$> failCallback claimed lease locked.2
      "inbox_payload_association_mismatch" kind
  else do
    Transaction.require (claimedBusinessFieldsMatch claimed locked.1 = true)
      (Failure.leaseConflict claimed.inboxId)
    settleCommand claimed lease kind locked.1 locked.2 retryAvailableAt

/-- The lease of a handle, which both finalizers demand first. -/
def leaseOf (claimed : ClaimedInboxMessage) : Option InboxLease :=
  match claimed.leaseId, claimed.leaseOwner with
  | some leaseId, some leaseOwner => some ⟨leaseId, leaseOwner⟩
  | _, _ => none

/-- `event.provider_reference or event.provider_operation_id`. -/
def incomingReference (event : ProviderWebhookEventData) : Option String :=
  (event.providerReference.orElse fun _ => event.providerOperationId).map
    CleanText.text

/-!
## Order operations
-/

def operationAssociationMatches (operation : OrderOperation)
    (c : SettledCallback) : Bool :=
  decide (operation.tenantId.text = c.inbox.tenantId) &&
    decide (operation.customerId = c.outbox.customerId) &&
    decide (operation.operationId = c.outbox.aggregateId) &&
    decide (operation.orderId = c.outbox.payload.orderId) &&
    decide (some operation.operationType = c.outbox.payload.operationType?) &&
    decide (some operation.orderVersion = c.outbox.expectedOrderVersion) &&
    decide (operation.sourceMessageId = c.outbox.sourceMessageId) &&
    c.inbox.payload.orderId.all fun o => decide (o = operation.orderId)

/-- The SET clause of an applied callback. -/
def OrderOperation.setCallback (operation : OrderOperation)
    (status : OperationRecordStatus) (reference : Option String) (now : Time)
    (r : OrderOperation) : OrderOperation :=
  { r with
    status := status
    providerReference := reference
    updatedAt := greatest now r.updatedAt r.createdAt
    version := operation.version + 1 }

/-- The SET clause that fills a missing reference. -/
def OrderOperation.setReference (operation : OrderOperation)
    (reference : Option String) (now : Time) (r : OrderOperation) :
    OrderOperation :=
  { r with
    providerReference := reference
    updatedAt := greatest now r.updatedAt r.createdAt
    version := operation.version + 1 }

/-- UPDATE of an operation whose version is still the one that was read. -/
def updateCurrentOperation (claimed : ClaimedInboxMessage)
    (operation : OrderOperation) (set_ : OrderOperation -> OrderOperation) :
    Tx Unit := do
  let affected ← updateOperation operation.operationId
    (fun r => decide (r.version = operation.version)) set_
  Transaction.require (affected = 1) (Failure.leaseConflict claimed.inboxId)

/-- The branch that changes the status of the operation. -/
def applyCallback (claimed : ClaimedInboxMessage) (lease : InboxLease)
    (operation : OrderOperation) (target : OperationRecordStatus)
    (incoming : Option String) (now : Time) : Tx InboxFinalizationResult := do
  let reference := incoming.orElse fun _ => operation.providerReference
  updateCurrentOperation claimed operation
    (operation.setCallback target reference now)
  let eventId ← newId
  let eventReference ← parseReference "OrderOperationEvent" reference
  insertOperationEvent (statusChangedEvent operation eventId
    ("provider-webhook:" ++ toString claimed.inboxId ++ ":operation-status")
    target eventReference "system" now)
  processCallback claimed lease now
  pure
    { outcome := InboxFinalizationOutcome.applied
      aggregateType := ProviderAggregateType.orderOperation
      previousStatus := some operation.status
      currentStatus := some target }

/-- The branch that leaves the status alone. -/
def absorbCallback (claimed : ClaimedInboxMessage) (lease : InboxLease)
    (operation : OrderOperation) (outcome : InboxFinalizationOutcome)
    (incoming : Option String) (now : Time) : Tx InboxFinalizationResult := do
  if outcome = InboxFinalizationOutcome.duplicate ∧
      operation.providerReference = none ∧ incoming ≠ none then
    updateCurrentOperation claimed operation
      (operation.setReference incoming now)
  processCallback claimed lease now
  pure
    { outcome := outcome
      aggregateType := ProviderAggregateType.orderOperation
      previousStatus := some operation.status
      currentStatus := some operation.status }

/-- The error code of a conflicting callback. -/
def conflictCode (operation : OrderOperation) (incoming : Option String) : String :=
  if operation.providerReference ≠ none ∧ incoming ≠ none ∧
      operation.providerReference ≠ incoming then
    "provider_reference_conflict"
  else
    "terminal_status_conflict"

/-- The policy decision on a callback and what follows from it. -/
def meetOperation (claimed : ClaimedInboxMessage) (lease : InboxLease)
    (c : SettledCallback) (operation : OrderOperation) :
    Tx InboxFinalizationResult := do
  let kind := ProviderAggregateType.orderOperation
  let incoming := incomingReference c.inbox.payload
  let decision := decideOrderOperationCallback operation.status
    c.inbox.payload.commandStatus operation.providerReference incoming
  if decision.action = InboxAction.conflict then
    failCallback claimed lease c.now (conflictCode operation incoming) kind
  else if c.dead = true ∧ decision.action ≠ InboxAction.duplicate then
    failCallback claimed lease c.now "terminal_status_conflict" kind
  else if decision.action = InboxAction.apply then do
    let target ← Transaction.fetch (fun _ => decision.targetStatus)
      (Failure.assertionError "decision.target_status is not None")
    applyCallback claimed lease operation target incoming c.now
  else if decision.action = InboxAction.duplicate then
    absorbCallback claimed lease operation InboxFinalizationOutcome.duplicate
      incoming c.now
  else
    absorbCallback claimed lease operation InboxFinalizationOutcome.stale
      incoming c.now

/-- `finalize_order_operation`. -/
def finalizeOrderOperation (claimed : ClaimedInboxMessage)
    (retryAvailableAt databaseNow : Time) : Tx InboxFinalizationResult :=
  Transaction.translate
    (persistenceError "Failed to finalize provider Inbox message") do
      let kind := ProviderAggregateType.orderOperation
      let lease ← Transaction.fetch (fun _ => leaseOf claimed)
        (Failure.leaseConflict claimed.inboxId)
      let opened ← openCallback claimed lease kind
        "order-operation finalizer requires order_operation Inbox" databaseNow
        retryAvailableAt
      match opened with
      | Except.error result => pure result
      | Except.ok c => do
          let found ← Transaction.read
            (fun db => db.operations.rows.get c.inbox.aggregateId)
          match found with
          | none => failCallback claimed lease c.now "operation_not_found" kind
          | some row => do
              let operation ← operationFromRow row
              if operationAssociationMatches operation c = false then
                failCallback claimed lease c.now "order_association_mismatch" kind
              else
                meetOperation claimed lease c operation

/-!
## Support cases
-/

def caseAssociationMatches (case : SupportCase) (c : SettledCallback) : Bool :=
  decide (case.tenantId.text = c.inbox.tenantId) &&
    decide (case.customerId = c.outbox.customerId) &&
    decide (case.caseId = c.outbox.aggregateId) &&
    decide (case.caseType = CaseType.deliveryInvestigation) &&
    decide (case.orderId.map TrimmedText.text = some c.outbox.payload.orderId.text) &&
    decide (case.sourceMessageId = c.outbox.sourceMessageId) &&
    c.inbox.payload.orderId.all fun o =>
      decide (case.orderId.map TrimmedText.text = some o.text)

/-- `finalize_support_case`. -/
def finalizeSupportCase (claimed : ClaimedInboxMessage)
    (retryAvailableAt databaseNow : Time) : Tx InboxFinalizationResult :=
  Transaction.translate
    (persistenceError "Failed to finalize provider Inbox message") do
      let kind := ProviderAggregateType.supportCase
      let lease ← Transaction.fetch (fun _ => leaseOf claimed)
        (Failure.leaseConflict claimed.inboxId)
      let opened ← openCallback claimed lease kind
        "support-case finalizer requires support_case Inbox" databaseNow
        retryAvailableAt
      match opened with
      | Except.error result => pure result
      | Except.ok c => do
          let found ← Transaction.read
            (fun db => db.cases.rows.get c.inbox.aggregateId)
          match found with
          | none => failCallback claimed lease c.now "case_not_found" kind
          | some row => do
              let case ← caseFromRow row
              if caseAssociationMatches case c = false then
                failCallback claimed lease c.now
                  "support_case_association_mismatch" kind
              else do
                let eventId ← newId
                let reference ← parseReference "SupportCaseEvent"
                  (incomingReference c.inbox.payload)
                insertCaseEvent (providerUpdateEvent case eventId
                  ("provider-webhook:" ++ toString c.inbox.inboxId ++
                    ":case-provider-update")
                  c.inbox.commandId c.inbox.payload.commandStatus reference c.now)
                processCallback claimed lease c.now
                pure
                  { outcome := InboxFinalizationOutcome.applied
                    aggregateType := kind }

end RefundAgent
