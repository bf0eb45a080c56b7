import RefundAgent.Model.Statements

/-!
# Cursor-scoped writes of provider messaging

Each helper is one guarded statement.  The helpers that finish an attempt match
the full fencing identity: attempt, message, lease and worker.
-/

namespace RefundAgent

open Foundation

/-- PostgreSQL's `GREATEST` of three times. -/
def greatest (a b c : Time) : Time :=
  max a (max b c)

/-- `_validate_error_fields` for one field. -/
def validateErrorField (name : String) (value : Option String) : Tx Unit :=
  match value with
  | none => pure ()
  | some v => do
      Transaction.require (Text.strip v ≠ "")
        (Failure.valueError (name ++ " must not be blank"))
      Transaction.require (v.length ≤ 500)
        (Failure.valueError (name ++ " must not exceed 500 characters"))

def validateErrorFields (errorCode errorMessage : Option String) : Tx Unit := do
  validateErrorField "error_code" errorCode
  validateErrorField "error_message" errorMessage

/-- An error text that `_validate_error_fields` lets through. -/
def errorFieldValid (value : Option String) : Prop :=
  forall v, value = some v -> Text.strip v ≠ "" ∧ v.length ≤ 500

theorem validateErrorField_eq_ok {name : String} {value : Option String}
    {db : Database} {r : Unit × Database} :
    validateErrorField name value db = Except.ok r ↔
      errorFieldValid value ∧ db = r.2 := by
  cases value with
  | none => simp [validateErrorField, errorFieldValid, Prod.ext_iff]
  | some v =>
      simp [validateErrorField, errorFieldValid, Prod.ext_iff, and_assoc]

theorem validateErrorFields_eq_ok {errorCode errorMessage : Option String}
    {db : Database} {r : Unit × Database} :
    validateErrorFields errorCode errorMessage db = Except.ok r ↔
      errorFieldValid errorCode ∧ errorFieldValid errorMessage ∧ db = r.2 := by
  simp only [validateErrorFields, Transaction.bind_eq_ok,
    validateErrorField_eq_ok]
  constructor
  · rintro ⟨_, _, ⟨hc, rfl⟩, hm, hr⟩
    exact ⟨hc, hm, hr⟩
  · rintro ⟨hc, hm, hr⟩
    exact ⟨(), db, ⟨hc, rfl⟩, hm, hr⟩

/-!
## Outbox
-/

/-- The row that `insert_outbox_message` writes for a command. -/
def outboxRow (command : ProviderCommandEnvelope) (now : Time) : OutboxMessage :=
  { command with
    providerCapability := ProviderCapability.orderOperation
    status := OutboxDeliveryStatus.pending
    deliveryCycle := 1
    attemptsInCycle := 0
    availableAt := now
    leaseId := none
    leaseOwner := none
    leaseExpiresAt := none
    lastFailureKind := none
    lastErrorCode := none
    lastErrorMessage := none
    createdAt := now
    updatedAt := now
    publishedAt := none
    deadAt := none }

/--
`insert_outbox_message`.  Every caller passes the status `pending`, the default
capability, and one time as both the due time and the creation time.
-/
def insertOutboxMessage (command : ProviderCommandEnvelope) (now : Time) :
    Tx Unit :=
  insertOutboxRow (outboxRow command now)

/-- The columns that `update_outbox_transition` may set. -/
structure OutboxTransition where
  targetStatus : OutboxDeliveryStatus
  updatedAt : Time
  availableAt : Option Time := none
  publishedAt : Option Time := none
  deadAt : Option Time := none
  lastFailureKind : Option ProviderFailureKind := none
  lastErrorCode : Option String := none
  lastErrorMessage : Option String := none

/-- The SET clause of `update_outbox_transition`. -/
def OutboxTransition.apply (t : OutboxTransition) (m : OutboxMessage) :
    OutboxMessage :=
  { m with
    status := t.targetStatus
    updatedAt := greatest t.updatedAt m.updatedAt m.createdAt
    leaseId := none
    leaseOwner := none
    leaseExpiresAt := none
    availableAt := t.availableAt.getD m.availableAt
    publishedAt :=
      match t.publishedAt with
      | some p => some (greatest p m.updatedAt m.createdAt)
      | none => m.publishedAt
    deadAt :=
      match t.deadAt with
      | some d => some (greatest d m.updatedAt m.createdAt)
      | none => m.deadAt
    lastFailureKind := t.lastFailureKind.orElse fun _ => m.lastFailureKind
    lastErrorCode := t.lastErrorCode.orElse fun _ => m.lastErrorCode
    lastErrorMessage := t.lastErrorMessage.orElse fun _ => m.lastErrorMessage }

/-- `update_outbox_transition` on a leased message. -/
def updateOutboxTransition (commandId leaseId : UUID) (leaseOwner : String)
    (t : OutboxTransition) : Tx Nat := do
  validateErrorFields t.lastErrorCode t.lastErrorMessage
  updateOutbox commandId
    (fun m => decide (m.status = OutboxDeliveryStatus.processing) &&
      decide (m.leaseId = some leaseId) && decide (m.leaseOwner = some leaseOwner))
    t.apply

/-- The columns that `finish_delivery_attempt` sets. -/
structure DeliveryAttemptResult where
  finishedAt : Time
  outcome : DeliveryAttemptOutcome
  failureKind : Option ProviderFailureKind := none
  httpStatus : Option Int := none
  providerOperationId : Option String := none
  providerReference : Option String := none
  safeErrorCode : Option String := none
  safeErrorMessage : Option String := none
  retryAfterSeconds : Option Rat := none
  nextAvailableAt : Option Time := none

/-- The SET clause of `finish_delivery_attempt`. -/
def DeliveryAttemptResult.apply (r : DeliveryAttemptResult)
    (a : OutboxDeliveryAttempt) : OutboxDeliveryAttempt :=
  { a with
    finishedAt := some (max r.finishedAt a.startedAt)
    outcome := some r.outcome
    failureKind := r.failureKind
    httpStatus := r.httpStatus
    providerOperationId := r.providerOperationId
    providerReference := r.providerReference
    safeErrorCode := r.safeErrorCode
    safeErrorMessage := r.safeErrorMessage
    retryAfterSeconds := r.retryAfterSeconds
    nextAvailableAt := r.nextAvailableAt }

def finishDeliveryAttempt (attemptId commandId leaseId : UUID)
    (workerId : String) (r : DeliveryAttemptResult) : Tx Nat := do
  validateErrorFields r.safeErrorCode r.safeErrorMessage
  Transaction.require (forall s, r.retryAfterSeconds = some s -> 0 ≤ s)
    (Failure.valueError "retry_after_seconds must not be negative")
  updateDeliveryAttempts
    (fun a => decide (a.attemptId = attemptId) && decide (a.commandId = commandId) &&
      decide (a.leaseId = leaseId) && decide (a.workerId = workerId) && a.isOpen)
    r.apply (fun _ => rfl)

/-!
## Inbox
-/

/-- The columns that `finish_inbox_attempt` sets. -/
structure InboxAttemptResult where
  finishedAt : Time
  outcome : InboxAttemptOutcome
  safeErrorCode : Option String := none
  safeErrorMessage : Option String := none

/-- The SET clause of `finish_inbox_attempt`. -/
def InboxAttemptResult.apply (r : InboxAttemptResult)
    (a : InboxProcessingAttempt) : InboxProcessingAttempt :=
  { a with
    finishedAt := some (max r.finishedAt a.startedAt)
    outcome := some r.outcome
    safeErrorCode := r.safeErrorCode
    safeErrorMessage := r.safeErrorMessage }

def finishInboxAttempt (attemptId inboxId leaseId : UUID) (workerId : String)
    (r : InboxAttemptResult) : Tx Nat := do
  validateErrorFields r.safeErrorCode r.safeErrorMessage
  updateProcessingAttempts
    (fun a => decide (a.attemptId = attemptId) && decide (a.inboxId = inboxId) &&
      decide (a.leaseId = leaseId) && decide (a.workerId = workerId) && a.isOpen)
    r.apply (fun _ => rfl)

/-- The WHERE clause shared by the guarded inbox updates. -/
def inboxLeaseHeld (leaseId : UUID) (leaseOwner : String) (m : InboxMessage) :
    Bool :=
  decide (m.leaseId = some leaseId) && decide (m.leaseOwner = some leaseOwner) &&
    decide (m.status = InboxProcessingStatus.processing)

def InboxMessage.setProcessed (processedAt : Time) (m : InboxMessage) :
    InboxMessage :=
  { m with
    status := InboxProcessingStatus.processed
    processedAt := some (greatest processedAt m.updatedAt m.receivedAt)
    updatedAt := greatest processedAt m.updatedAt m.receivedAt
    leaseId := none
    leaseOwner := none
    leaseExpiresAt := none }

def markInboxProcessed (inboxId leaseId : UUID) (leaseOwner : String)
    (processedAt : Time) : Tx Nat :=
  updateInbox inboxId (inboxLeaseHeld leaseId leaseOwner)
    (InboxMessage.setProcessed processedAt)

def InboxMessage.setFailed (failedAt : Time) (errorCode errorMessage : Option String)
    (m : InboxMessage) : InboxMessage :=
  { m with
    status := InboxProcessingStatus.failed
    failedAt := some (greatest failedAt m.updatedAt m.receivedAt)
    updatedAt := greatest failedAt m.updatedAt m.receivedAt
    leaseId := none
    leaseOwner := none
    leaseExpiresAt := none
    lastErrorCode := errorCode
    lastErrorMessage := errorMessage }

def markInboxFailedRow (inboxId leaseId : UUID) (leaseOwner : String)
    (failedAt : Time) (errorCode errorMessage : Option String) : Tx Nat := do
  validateErrorFields errorCode errorMessage
  updateInbox inboxId (inboxLeaseHeld leaseId leaseOwner)
    (InboxMessage.setFailed failedAt errorCode errorMessage)

def InboxMessage.setRetry (availableAt updatedAt : Time)
    (errorCode errorMessage : Option String) (m : InboxMessage) : InboxMessage :=
  { m with
    status := InboxProcessingStatus.received
    availableAt := availableAt
    updatedAt := greatest updatedAt m.updatedAt m.receivedAt
    leaseId := none
    leaseOwner := none
    leaseExpiresAt := none
    lastErrorCode := errorCode
    lastErrorMessage := errorMessage }

def scheduleInboxRetryRow (inboxId leaseId : UUID) (leaseOwner : String)
    (availableAt updatedAt : Time) (errorCode errorMessage : Option String) :
    Tx Nat := do
  validateErrorFields errorCode errorMessage
  updateInbox inboxId (inboxLeaseHeld leaseId leaseOwner)
    (InboxMessage.setRetry availableAt updatedAt errorCode errorMessage)

end RefundAgent
