import RefundAgent.Integrations.OutboxRepository

/-!
# The inbox side of the integration repository

Receiving, claiming, lease renewal, lease recovery, and the two methods that
end an attempt without touching an aggregate.
-/

namespace RefundAgent

open Foundation

/-- `_inbox_from_row`. -/
def inboxFromRow (m : InboxMessage) : Except Failure InboxMessage :=
  if m.valid = true then
    Except.ok m.stripped
  else
    Except.error (Failure.validationError "InboxMessage")

/-!
## Receiving
-/

/-- The row that `receive_inbox_idempotently` inserts. -/
def receivedRow (inboxId : UUID) (providerConnectionId eventId tenantId : String)
    (event : ProviderWebhookEventData) (rawBodySha256 : String)
    (receivedAt : Time) : InboxMessage :=
  { inboxId := inboxId
    providerConnectionId := providerConnectionId
    eventId := eventId
    tenantId := tenantId
    commandId := event.commandId
    aggregateType := event.aggregateType
    aggregateId := event.aggregateId
    payload := event
    rawBodySha256 := rawBodySha256
    receivedAt := receivedAt
    status := InboxProcessingStatus.received
    processingAttempts := 0
    processingCycle := 1
    attemptsInCycle := 0
    availableAt := receivedAt
    leaseId := none
    leaseOwner := none
    leaseExpiresAt := none
    lastErrorCode := none
    lastErrorMessage := none
    updatedAt := receivedAt
    processedAt := none
    failedAt := none }

/-- The field names that `_verify_inbox_exact_replay` reports. -/
def replayConflicts (existing incoming : InboxMessage) : List String :=
  let checks : List (Bool × String) :=
    [(decide (existing.providerConnectionId = incoming.providerConnectionId),
        "provider_connection_id"),
      (decide (existing.eventId = incoming.eventId), "event_id"),
      (decide (existing.tenantId = incoming.tenantId), "tenant_id"),
      (decide (existing.commandId = incoming.commandId), "command_id"),
      (decide (existing.aggregateType = incoming.aggregateType), "aggregate_type"),
      (decide (existing.aggregateId = incoming.aggregateId), "aggregate_id"),
      (decide (existing.rawBodySha256 = incoming.rawBodySha256), "raw_body_sha256"),
      (decide (existing.payload = incoming.payload), "payload")]
  (checks.filter fun check => !check.1).map Prod.snd

/-- The stored row of an event id, if the connection has sent it before. -/
def storedEvent (db : Database) (providerConnectionId eventId : String) :
    Option InboxMessage :=
  (db.inbox.messages.select fun m =>
    decide (m.providerConnectionId = providerConnectionId) &&
      decide (m.eventId = eventId)).head?

/--
`receive_inbox_idempotently`.  The row is read through the model after the
commit, so a refusal there does not undo the insert.
-/
def receiveInboxIdempotently (incoming : InboxMessage) :
    Tx (Except Failure InboxMessage) :=
  Transaction.translate (persistenceError "Failed to receive inbox message") do
    let stored ← Transaction.read
      (fun db => storedEvent db incoming.providerConnectionId incoming.eventId)
    match stored with
    | none => do
        insertInboxRow incoming
        pure (inboxFromRow incoming)
    | some row => do
        let existing ← Transaction.fetch (fun _ => (inboxFromRow row).toOption)
          (Failure.validationError "InboxMessage")
        Transaction.require (replayConflicts existing incoming = [])
          (Failure.inboxEventConflict (replayConflicts existing incoming))
        pure (inboxFromRow row)

/-!
## Claiming
-/

namespace InboxMessage

/-- The WHERE clause of the claim. -/
def due (now : Time) (m : InboxMessage) : Bool :=
  decide (m.status = InboxProcessingStatus.received) &&
    decide (m.attemptsInCycle < 5) && decide (m.availableAt ≤ now)

/-- `ORDER BY available_at, received_at, inbox_id`. -/
def dueBefore (a b : InboxMessage) : Prop :=
  a.availableAt < b.availableAt ∨ (a.availableAt = b.availableAt ∧
    (a.receivedAt < b.receivedAt ∨ (a.receivedAt = b.receivedAt ∧
      a.inboxId ≤ b.inboxId)))

instance : DecidableRel dueBefore := fun a b =>
  inferInstanceAs (Decidable (a.availableAt < b.availableAt ∨
    (a.availableAt = b.availableAt ∧ (a.receivedAt < b.receivedAt ∨
      (a.receivedAt = b.receivedAt ∧ a.inboxId ≤ b.inboxId)))))

/-- The SET clause of the claim. -/
def setClaimed (leaseId : UUID) (workerId : String) (leaseExpiresAt now : Time)
    (m : InboxMessage) : InboxMessage :=
  { m with
    status := InboxProcessingStatus.processing
    leaseId := some leaseId
    leaseOwner := some workerId
    leaseExpiresAt := some leaseExpiresAt
    processingAttempts := m.processingAttempts + 1
    attemptsInCycle := m.attemptsInCycle + 1
    updatedAt := greatest now m.updatedAt m.receivedAt }

end InboxMessage

/-- The attempt inserted with a claim. -/
def claimInboxAttempt (m : InboxMessage) (attemptId leaseId : UUID)
    (workerId : String) : InboxProcessingAttempt :=
  { attemptId := attemptId
    inboxId := m.inboxId
    processingCycle := m.processingCycle
    attemptNumber := m.processingAttempts
    leaseId := leaseId
    workerId := workerId
    startedAt := m.updatedAt
    finishedAt := none
    outcome := none
    safeErrorCode := none
    safeErrorMessage := none }

/-- The rows one claim takes. -/
def dueInbox (db : Database) (scan : List UUID) (clock : UUID -> Nat -> Time)
    (batchSize : Int) : List InboxMessage :=
  (((db.inbox.messages.visit scan).filter
    fun m => m.due (clock m.inboxId 0)).insertionSort
      InboxMessage.dueBefore).take batchSize.toNat

/-- The body of the claim loop. -/
def claimInboxRow (workerId : String) (leaseSeconds : Rat)
    (clock : UUID -> Nat -> Time) (row : InboxMessage) :
    Tx ClaimedInboxMessage := do
  let leaseId ← newId
  let attemptId ← newId
  let affected ← updateInbox row.inboxId
    (fun m => decide (m.status = InboxProcessingStatus.received) &&
      decide (m.attemptsInCycle < 5))
    (InboxMessage.setClaimed leaseId workerId
      (clock row.inboxId 1 + seconds leaseSeconds) (clock row.inboxId 2))
  Transaction.require (affected = 1) (Failure.leaseConflict row.inboxId)
  let updated ← Transaction.fetch (fun db => db.inbox.messages.get row.inboxId)
    (Failure.leaseConflict row.inboxId)
  let attempt := claimInboxAttempt updated attemptId leaseId workerId
  insertProcessingAttempt attempt
  let claimed := ClaimedInboxMessage.ofRow updated attempt
  Transaction.require (claimed.valid = true)
    (Failure.validationError "ClaimedInboxMessage")
  pure claimed

/-- `claim_due_inbox`. -/
def claimDueInbox (workerId : String) (batchSize : Int) (leaseSeconds : Rat)
    (scan : List UUID) (clock : UUID -> Nat -> Time) :
    Tx (List ClaimedInboxMessage) := do
  validateClaimParameters workerId batchSize leaseSeconds
  Transaction.translate (persistenceError "Failed to claim inbox messages") do
    let rows ← Transaction.read (fun db => dueInbox db scan clock batchSize)
    Transaction.forEach rows (claimInboxRow workerId leaseSeconds clock)

/-!
## Renewal
-/

/-- The SET clause of the renewal. -/
def InboxMessage.setRenewed (leaseExpiresAt now : Time) (m : InboxMessage) :
    InboxMessage :=
  { m with
    leaseExpiresAt := some leaseExpiresAt
    updatedAt := greatest now m.updatedAt m.receivedAt }

/-- `renew_inbox_lease`. -/
def renewInboxLease (inboxId leaseId : UUID) (leaseOwner : String)
    (leaseSeconds : Rat) (clock : Nat -> Time) : Tx Bool := do
  validateClaimParameters leaseOwner 1 leaseSeconds
  let affected ← updateInbox inboxId
    (fun m => inboxLeaseHeld leaseId leaseOwner m &&
      m.leaseExpiresAt.any fun t => decide (clock 0 < t))
    (InboxMessage.setRenewed (clock 1 + seconds leaseSeconds) (clock 2))
  pure (decide (affected = 1))

/-!
## Recovery
-/

namespace InboxMessage

/-- The WHERE clause of the recovery. -/
def leaseExpired (now : Time) (m : InboxMessage) : Bool :=
  decide (m.status = InboxProcessingStatus.processing) &&
    m.leaseExpiresAt.any fun t => decide (t < now)

def setRecovered (availableAt now : Time) (m : InboxMessage) : InboxMessage :=
  { m with
    status := InboxProcessingStatus.received
    availableAt := availableAt
    leaseId := none
    leaseOwner := none
    leaseExpiresAt := none
    updatedAt := greatest now m.updatedAt m.receivedAt }

/-- The fifth attempt: the message fails. -/
def setExhausted (failedAt now : Time) (m : InboxMessage) : InboxMessage :=
  { m with
    status := InboxProcessingStatus.failed
    failedAt := some (greatest failedAt m.updatedAt m.receivedAt)
    leaseId := none
    leaseOwner := none
    leaseExpiresAt := none
    lastErrorCode := some "lease_expired_attempts_exhausted"
    updatedAt := greatest now m.updatedAt m.receivedAt }

end InboxMessage

/-- The SET clause on the attempt of an expired lease. -/
def InboxProcessingAttempt.setLeaseExpired (now : Time)
    (a : InboxProcessingAttempt) : InboxProcessingAttempt :=
  { a with
    finishedAt := some (max now a.startedAt)
    outcome := some InboxAttemptOutcome.leaseExpired
    safeErrorCode := some "lease_expired" }

/-- The WHERE clause that finds the attempt of an expired lease. -/
def inboxAttemptOfLease (row : InboxMessage) (a : InboxProcessingAttempt) : Bool :=
  decide (a.inboxId = row.inboxId) && decide (some a.leaseId = row.leaseId) &&
    decide (some a.workerId = row.leaseOwner) && a.isOpen

/-- The body of the recovery loop. -/
def recoverInboxRow (clock : UUID -> Nat -> Time) (row : InboxMessage) :
    Tx Unit := do
  let finished ← updateProcessingAttempts (inboxAttemptOfLease row)
    (InboxProcessingAttempt.setLeaseExpired (clock row.inboxId 1)) (fun _ => rfl)
  Transaction.require (finished = 1) (Failure.leaseConflict row.inboxId)
  let affected ← updateInbox row.inboxId
    (fun m => decide (m.status = InboxProcessingStatus.processing) &&
      decide (m.leaseId = row.leaseId) && decide (m.leaseOwner = row.leaseOwner) &&
      m.leaseExpiresAt.any fun t => decide (t < clock row.inboxId 2))
    (if 5 ≤ row.attemptsInCycle then
      InboxMessage.setExhausted (clock row.inboxId 3) (clock row.inboxId 4)
    else
      InboxMessage.setRecovered (clock row.inboxId 3) (clock row.inboxId 4))
  Transaction.require (affected = 1) (Failure.leaseConflict row.inboxId)

/-- The rows one recovery takes. -/
def expiredInbox (db : Database) (scan : List UUID)
    (clock : UUID -> Nat -> Time) (batchSize : Nat) : List InboxMessage :=
  ((db.inbox.messages.visit scan).filter
    fun m => m.leaseExpired (clock m.inboxId 0)).take batchSize

/-- `recover_expired_inbox_leases`. -/
def recoverExpiredInboxLeases (batchSize : Nat) (scan : List UUID)
    (clock : UUID -> Nat -> Time) : Tx Nat :=
  Transaction.translate
    (persistenceError "Failed to recover expired inbox leases") do
      let rows ← Transaction.read (fun db => expiredInbox db scan clock batchSize)
      let recovered ← Transaction.forEach rows (recoverInboxRow clock)
      pure recovered.length

/-!
## Ending an attempt
-/

/-- Finish the attempt, then fail the message. -/
def failAttempt (attemptId inboxId leaseId : UUID) (leaseOwner : String)
    (now : Time) (errorCode errorMessage : Option String) : Tx Unit := do
  let finished ← finishInboxAttempt attemptId inboxId leaseId leaseOwner
    { finishedAt := now
      outcome := InboxAttemptOutcome.terminalFailure
      safeErrorCode := errorCode
      safeErrorMessage := errorMessage }
  Transaction.require (finished = 1) (Failure.leaseConflict inboxId)
  let affected ← markInboxFailedRow inboxId leaseId leaseOwner now errorCode
    errorMessage
  Transaction.require (affected = 1) (Failure.leaseConflict inboxId)

/-- Finish the attempt, then return the message to `received`. -/
def retryAttempt (attemptId inboxId leaseId : UUID) (leaseOwner : String)
    (availableAt now : Time) (errorCode errorMessage : Option String) :
    Tx Unit := do
  let finished ← finishInboxAttempt attemptId inboxId leaseId leaseOwner
    { finishedAt := now
      outcome := InboxAttemptOutcome.retryScheduled
      safeErrorCode := errorCode
      safeErrorMessage := errorMessage }
  Transaction.require (finished = 1) (Failure.leaseConflict inboxId)
  let affected ← scheduleInboxRetryRow inboxId leaseId leaseOwner availableAt now
    errorCode errorMessage
  Transaction.require (affected = 1) (Failure.leaseConflict inboxId)

/-- The open attempt of a lease with the highest number. -/
def latestOpenAttempt (db : Database) (inboxId leaseId : UUID) :
    Option InboxProcessingAttempt :=
  ((db.inbox.attempts.select fun a => decide (a.inboxId = inboxId) &&
    decide (a.leaseId = leaseId) && a.isOpen).insertionSort
      fun a b => b.attemptNumber ≤ a.attemptNumber).head?

/-- `mark_inbox_failed`. -/
def markInboxFailed (inboxId leaseId : UUID) (leaseOwner : String)
    (errorCode errorMessage : Option String) (now : Time) : Tx Unit :=
  Transaction.translate
    (persistenceError "Failed to mark inbox message failed") do
      let attempt ← Transaction.fetch
        (fun db => latestOpenAttempt db inboxId leaseId)
        (Failure.leaseConflict inboxId)
      failAttempt attempt.attemptId inboxId leaseId leaseOwner now errorCode
        errorMessage

/-- `schedule_inbox_retry`. -/
def scheduleInboxRetry (inboxId leaseId : UUID) (leaseOwner : String)
    (attemptId : UUID) (nextAvailableAt : Time)
    (errorCode errorMessage : Option String) (now : Time) : Tx Unit :=
  Transaction.translate (persistenceError "Failed to schedule inbox retry") do
    let row ← Transaction.fetch
      (fun db => (db.inbox.messages.get inboxId).filter
        (inboxLeaseHeld leaseId leaseOwner))
      (Failure.leaseConflict inboxId)
    if 5 ≤ row.attemptsInCycle then
      failAttempt attemptId inboxId leaseId leaseOwner now
        (some "inbox_attempts_exhausted")
        (some "Inbox processing attempts were exhausted.")
    else
      retryAttempt attemptId inboxId leaseId leaseOwner nextAvailableAt now
        errorCode errorMessage

end RefundAgent
