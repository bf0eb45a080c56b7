import RefundAgent.Foundation.Rounding
import RefundAgent.Integrations.OutboxFinalizer
import RefundAgent.Integrations.Retry
import Mathlib.Data.List.Sort

/-!
# The outbox side of the integration repository

Claiming, lease renewal, lease recovery and retry scheduling.  A transaction
that reads the clock more than once may see a different time at each reading,
so the readings are a function of the row and the place in the code.  A scan
with SKIP LOCKED meets an arbitrary part of the table.
-/

namespace RefundAgent

open Foundation

/-- `_validate_claim_parameters`. -/
def validateClaimParameters (workerId : String) (batchSize : Int)
    (leaseSeconds : Rat) : Tx Unit := do
  Transaction.require (Text.strip workerId ≠ "")
    (Failure.valueError "worker_id must not be blank")
  Transaction.require (1 ≤ batchSize)
    (Failure.valueError "batch_size must be at least 1")
  Transaction.require (0 < leaseSeconds)
    (Failure.valueError "lease_seconds must be positive")

theorem validateClaimParameters_eq_ok {workerId : String} {batchSize : Int}
    {leaseSeconds : Rat} {db : Database} {r : Unit × Database} :
    validateClaimParameters workerId batchSize leaseSeconds db = Except.ok r ↔
      Text.strip workerId ≠ "" ∧ 1 ≤ batchSize ∧ 0 < leaseSeconds ∧ db = r.2 := by
  simp only [validateClaimParameters, Transaction.bind_eq_ok,
    Transaction.require_eq_ok, Prod.mk.injEq]
  constructor
  · rintro ⟨_, _, ⟨hw, _, rfl⟩, _, _, ⟨hb, _, rfl⟩, hl, hr⟩
    exact ⟨hw, hb, hl, by rw [← hr]⟩
  · rintro ⟨hw, hb, hl, hr⟩
    exact ⟨(), db, ⟨hw, trivial, rfl⟩, (), db, ⟨hb, trivial, rfl⟩, hl,
      by rw [hr]⟩

/-- `seconds * interval '1 second'`, in microseconds: a product of doubles, rounded. -/
def seconds (s : Rat) : Time :=
  roundHalfEven (binary64 (s * 1000000))

/-- Report the database errors of a repository method under one text. -/
def persistenceError (message : String) (e : Failure) : Failure :=
  if e.isDatabaseError then Failure.integrationPersistence message else e

/-!
## Claiming
-/

namespace OutboxMessage

/-- The WHERE clause of the claim. -/
def due (now : Time) (m : OutboxMessage) : Bool :=
  decide (m.status = OutboxDeliveryStatus.pending ∨
      m.status = OutboxDeliveryStatus.retryScheduled) &&
    decide (m.availableAt ≤ now) && decide (m.attemptsInCycle < 8)

/-- `ORDER BY available_at, created_at, command_id`. -/
def dueBefore (a b : OutboxMessage) : Prop :=
  a.availableAt < b.availableAt ∨ (a.availableAt = b.availableAt ∧
    (a.createdAt < b.createdAt ∨ (a.createdAt = b.createdAt ∧
      a.commandId ≤ b.commandId)))

instance : DecidableRel dueBefore := fun a b =>
  inferInstanceAs (Decidable (a.availableAt < b.availableAt ∨
    (a.availableAt = b.availableAt ∧ (a.createdAt < b.createdAt ∨
      (a.createdAt = b.createdAt ∧ a.commandId ≤ b.commandId)))))

/-- The SET clause of the claim. -/
def setClaimed (leaseId : UUID) (workerId : String) (leaseExpiresAt now : Time)
    (m : OutboxMessage) : OutboxMessage :=
  { m with
    status := OutboxDeliveryStatus.processing
    leaseId := some leaseId
    leaseOwner := some workerId
    leaseExpiresAt := some leaseExpiresAt
    attemptsInCycle := m.attemptsInCycle + 1
    updatedAt := greatest now m.updatedAt m.createdAt }

end OutboxMessage

/-- The attempt inserted with a claim. -/
def claimAttempt (m : OutboxMessage) (attemptId leaseId : UUID)
    (workerId : String) : OutboxDeliveryAttempt :=
  { attemptId := attemptId
    commandId := m.commandId
    deliveryCycle := m.deliveryCycle
    attemptNumber := m.attemptsInCycle
    leaseId := leaseId
    workerId := workerId
    startedAt := m.updatedAt
    finishedAt := none
    outcome := none
    failureKind := none
    httpStatus := none
    providerOperationId := none
    providerReference := none
    safeErrorCode := none
    safeErrorMessage := none
    retryAfterSeconds := none
    nextAvailableAt := none }

/-- The rows one claim takes. -/
def dueOutbox (db : Database) (scan : List UUID) (clock : UUID -> Nat -> Time)
    (batchSize : Int) : List OutboxMessage :=
  (((db.outbox.messages.visit scan).filter
    fun m => m.due (clock m.commandId 0)).insertionSort
      OutboxMessage.dueBefore).take batchSize.toNat

/-- The body of the claim loop. -/
def claimOutboxRow (workerId : String) (leaseSeconds : Rat)
    (clock : UUID -> Nat -> Time) (row : OutboxMessage) :
    Tx ClaimedOutboxMessage := do
  let leaseId ← newId
  let attemptId ← newId
  let affected ← updateOutbox row.commandId (fun _ => true)
    (OutboxMessage.setClaimed leaseId workerId
      (clock row.commandId 1 + seconds leaseSeconds) (clock row.commandId 2))
  Transaction.require (affected = 1)
    (Failure.integrationPersistence "Claim update returned no outbox row")
  let updated ← Transaction.fetch
    (fun db => db.outbox.messages.get row.commandId)
    (Failure.integrationPersistence "Claim update returned no outbox row")
  let attempt := claimAttempt updated attemptId leaseId workerId
  insertDeliveryAttempt attempt
  let claimed := ClaimedOutboxMessage.ofRow updated attempt
  Transaction.require (claimed.valid = true)
    (Failure.validationError "ClaimedOutboxMessage")
  pure claimed

/-- `claim_due_outbox`. -/
def claimDueOutbox (workerId : String) (batchSize : Int) (leaseSeconds : Rat)
    (scan : List UUID) (clock : UUID -> Nat -> Time) :
    Tx (List ClaimedOutboxMessage) := do
  validateClaimParameters workerId batchSize leaseSeconds
  Transaction.translate (persistenceError "Failed to claim outbox messages") do
    let rows ← Transaction.read (fun db => dueOutbox db scan clock batchSize)
    Transaction.forEach rows (claimOutboxRow workerId leaseSeconds clock)

/-!
## Renewal
-/

/-- The SET clause of the renewal. -/
def OutboxMessage.setRenewed (leaseExpiresAt now : Time) (m : OutboxMessage) :
    OutboxMessage :=
  { m with
    leaseExpiresAt := some leaseExpiresAt
    updatedAt := greatest now m.updatedAt m.createdAt }

/-- `renew_outbox_lease`; the statement reads the clock three times. -/
def renewOutboxLease (commandId leaseId : UUID) (leaseOwner : String)
    (leaseSeconds : Rat) (clock : Nat -> Time) : Tx Bool := do
  validateClaimParameters leaseOwner 1 leaseSeconds
  let affected ← updateOutbox commandId
    (fun m => decide (m.leaseId = some leaseId) &&
      decide (m.leaseOwner = some leaseOwner) &&
      decide (m.status = OutboxDeliveryStatus.processing) &&
      m.leaseExpiresAt.any fun t => decide (clock 0 < t))
    (OutboxMessage.setRenewed (clock 1 + seconds leaseSeconds) (clock 2))
  pure (decide (affected = 1))

/-!
## Recovery
-/

namespace OutboxMessage

/-- The WHERE clause of the recovery. -/
def leaseExpired (now : Time) (m : OutboxMessage) : Bool :=
  decide (m.status = OutboxDeliveryStatus.processing) &&
    m.leaseExpiresAt.any fun t => decide (t < now)

/-- Attempts one to seven: the message may be retried. -/
def setRecovered (availableAt now : Time) (m : OutboxMessage) : OutboxMessage :=
  { m with
    status := OutboxDeliveryStatus.retryScheduled
    availableAt := availableAt
    leaseId := none
    leaseOwner := none
    leaseExpiresAt := none
    updatedAt := greatest now m.updatedAt m.createdAt }

/-- The eighth attempt: the message goes straight to dead. -/
def setExhausted (deadAt now : Time) (m : OutboxMessage) : OutboxMessage :=
  { m with
    status := OutboxDeliveryStatus.dead
    deadAt := some (greatest deadAt m.updatedAt m.createdAt)
    leaseId := none
    leaseOwner := none
    leaseExpiresAt := none
    lastErrorCode := some "lease_expired_attempts_exhausted"
    updatedAt := greatest now m.updatedAt m.createdAt }

end OutboxMessage

/-- The SET clause on the attempt of an expired lease. -/
def OutboxDeliveryAttempt.setLeaseExpired (now : Time) (code : String)
    (a : OutboxDeliveryAttempt) : OutboxDeliveryAttempt :=
  { a with
    finishedAt := some (max now a.startedAt)
    outcome := some DeliveryAttemptOutcome.leaseExpired
    safeErrorCode := some code }

/-- The WHERE clause that finds the attempt of an expired lease. -/
def attemptOfLease (row : OutboxMessage) (a : OutboxDeliveryAttempt) : Bool :=
  decide (a.commandId = row.commandId) && decide (some a.leaseId = row.leaseId) &&
    a.isOpen

/-- The error code an expired lease leaves on its attempt. -/
def expiredCode (row : OutboxMessage) : String :=
  if row.attemptsInCycle < 8 then
    "lease_expired"
  else
    "lease_expired_attempts_exhausted"

/-- On the eighth expiry of an order operation the operation goes to review. -/
def recoverAggregate (row : OutboxMessage) (attempt : OutboxDeliveryAttempt)
    (now : Time) : Tx Unit :=
  if 8 ≤ row.attemptsInCycle ∧
      row.aggregateType = ProviderAggregateType.orderOperation then do
    let claimed := ClaimedOutboxMessage.ofRow row attempt
    Transaction.require (claimed.valid = true)
      (Failure.validationError "ClaimedOutboxMessage")
    finalizeOperation claimed FinalTarget.dead none none now
  else
    pure ()

/-- The body of the recovery loop. -/
def recoverOutboxRow (clock : UUID -> Nat -> Time) (row : OutboxMessage) :
    Tx Unit := do
  let attempt ← Transaction.fetch
    (fun db => (db.outbox.attempts.select (attemptOfLease row)).head?)
    (Failure.leaseConflict row.commandId)
  let now := max (clock row.commandId 1)
    (greatest row.createdAt row.updatedAt attempt.startedAt)
  recoverAggregate row attempt now
  let finished ← updateDeliveryAttempts (attemptOfLease row)
    (OutboxDeliveryAttempt.setLeaseExpired now (expiredCode row)) (fun _ => rfl)
  Transaction.require (finished = 1) (Failure.leaseConflict row.commandId)
  let _ ← updateOutbox row.commandId (fun _ => true)
    (if row.attemptsInCycle < 8 then
      OutboxMessage.setRecovered (clock row.commandId 2) (clock row.commandId 3)
    else
      OutboxMessage.setExhausted (clock row.commandId 2) (clock row.commandId 3))
  pure ()

/-- Recovery also reports a `ValueError` as a persistence failure. -/
def recoveryError (e : Failure) : Failure :=
  if e.isDatabaseError || e.isValueError then
    Failure.integrationPersistence "Failed to recover expired outbox leases"
  else
    e

/-- The rows one recovery takes. -/
def expiredOutbox (db : Database) (scan : List UUID)
    (clock : UUID -> Nat -> Time) (batchSize : Nat) : List OutboxMessage :=
  ((db.outbox.messages.visit scan).filter
    fun m => m.leaseExpired (clock m.commandId 0)).take batchSize

/-- `recover_expired_outbox_leases`. -/
def recoverExpiredOutboxLeases (batchSize : Nat) (scan : List UUID)
    (clock : UUID -> Nat -> Time) : Tx Nat :=
  Transaction.translate recoveryError do
    let rows ← Transaction.read (fun db => expiredOutbox db scan clock batchSize)
    let recovered ← Transaction.forEach rows (recoverOutboxRow clock)
    pure recovered.length

/-!
## Retry
-/

/-- The arguments of `schedule_outbox_retry`. -/
structure OutboxRetry where
  commandId : UUID
  leaseId : UUID
  leaseOwner : String
  attemptId : UUID
  failureKind : ProviderFailureKind
  errorCode : Option String
  errorMessage : Option String
  retryAfterSeconds : Option Rat
  nextAvailableAt : Time
  httpStatus : Option Int
deriving DecidableEq

namespace OutboxRetry

def attemptResult (r : OutboxRetry) (now : Time) : DeliveryAttemptResult :=
  { finishedAt := now
    outcome := DeliveryAttemptOutcome.retryScheduled
    failureKind := some r.failureKind
    httpStatus := r.httpStatus
    safeErrorCode := r.errorCode
    safeErrorMessage := r.errorMessage
    retryAfterSeconds := r.retryAfterSeconds
    nextAvailableAt := some r.nextAvailableAt }

def transition (r : OutboxRetry) (now : Time) : OutboxTransition :=
  { targetStatus := OutboxDeliveryStatus.retryScheduled
    updatedAt := now
    availableAt := some r.nextAvailableAt
    lastFailureKind := some r.failureKind
    lastErrorCode := r.errorCode
    lastErrorMessage := r.errorMessage }

end OutboxRetry

/-- `schedule_outbox_retry`. -/
def scheduleOutboxRetry (r : OutboxRetry) (now : Time) : Tx Unit :=
  Transaction.translate (persistenceError "Failed to schedule outbox retry") do
    let conflict := Failure.leaseConflict r.commandId
    let m ← Transaction.fetch
      (fun db => db.outbox.messages.get r.commandId) conflict
    Transaction.require (m.status = OutboxDeliveryStatus.processing) conflict
    Transaction.require (m.leaseId = some r.leaseId) conflict
    Transaction.require (m.leaseOwner = some r.leaseOwner) conflict
    Transaction.require (m.attemptsInCycle < 8)
      (Failure.outboxAttemptsExhausted r.commandId)
    let finished ← finishDeliveryAttempt r.attemptId r.commandId r.leaseId
      r.leaseOwner (r.attemptResult now)
    Transaction.require (finished = 1) (Failure.leaseConflict r.attemptId)
    let affected ← updateOutboxTransition r.commandId r.leaseId r.leaseOwner
      (r.transition now)
    Transaction.require (affected = 1) conflict

end RefundAgent
