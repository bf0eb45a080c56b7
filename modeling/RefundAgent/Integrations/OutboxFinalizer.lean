import RefundAgent.Integrations.PostgresWrites

/-!
# The outbox finalizer

`PostgresOutboxFinalizer`: the aggregate, the attempt and the outbox row of one
claimed command move together in one transaction.  The part that moves an order
operation is also used by lease recovery.
-/

namespace RefundAgent

open Foundation

/-!
## Reading aggregates
-/

/-- `OrderOperation.model_validate` of a row: strip, then validate. -/
def OrderOperation.ofRow? (row : OrderOperation) : Option OrderOperation :=
  let o : OrderOperation :=
    { row with providerReference := row.providerReference.map Text.trim }
  if o.valid = true ∧ o.providerReference ≠ some "" then some o else none

/-- `_operation_from_row`. -/
def operationFromRow (row : OrderOperation) : Tx OrderOperation :=
  match row.ofRow? with
  | some o => pure o
  | none => Transaction.raise (Failure.validationError "OrderOperation")

/-- `_case_from_row`. -/
def caseFromRow (row : SupportCase) : Tx SupportCase := do
  Transaction.require (row.valid = true) (Failure.validationError "SupportCase")
  pure row

/-- Validation of a provider reference carried by an event. -/
def parseReference (model : String) : Option String -> Tx (Option CleanText)
  | none => pure none
  | some s =>
      match CleanText.parse? s with
      | some t => pure (some t)
      | none => Transaction.raise (Failure.validationError model)

theorem operationFromRow_eq_ok {row : OrderOperation} {db : Database}
    {r : OrderOperation × Database} :
    operationFromRow row db = Except.ok r ↔ row.ofRow? = some r.1 ∧ db = r.2 := by
  unfold operationFromRow
  cases row.ofRow? with
  | none => simp
  | some o => simp [Prod.ext_iff]

theorem caseFromRow_eq_ok {row : SupportCase} {db : Database}
    {r : SupportCase × Database} :
    caseFromRow row db = Except.ok r ↔
      row.valid = true ∧ row = r.1 ∧ db = r.2 := by
  simp only [caseFromRow, Transaction.bind_eq_ok, Transaction.require_eq_ok,
    Transaction.pure_eq_ok, Prod.ext_iff]
  constructor
  · rintro ⟨_, _, ⟨hv, _, rfl⟩, h1, h2⟩
    exact ⟨hv, h1, h2⟩
  · rintro ⟨hv, h1, h2⟩
    exact ⟨(), db, ⟨hv, trivial, rfl⟩, h1, h2⟩

theorem parseReference_eq_ok {model : String} {reference : Option String}
    {db : Database} {r : Option CleanText × Database}
    (h : parseReference model reference db = Except.ok r) :
    r.1.map CleanText.text = reference.map Text.trim ∧ r.2 = db := by
  cases reference with
  | none =>
      simp only [parseReference, Transaction.pure_eq_ok] at h
      rw [← h]
      exact ⟨rfl, rfl⟩
  | some s =>
      cases hp : CleanText.parse? s with
      | none => simp only [parseReference, hp, Transaction.raise_eq_ok] at h
      | some t =>
          simp only [parseReference, hp, Transaction.pure_eq_ok] at h
          rw [← h]
          exact ⟨congrArg some (CleanText.parse?_eq_some.mp hp), rfl⟩

theorem OrderOperation.ofRow?_eq_some {row o : OrderOperation}
    (h : row.ofRow? = some o) :
    o = { row with providerReference := row.providerReference.map Text.trim } ∧
      o.valid = true := by
  unfold OrderOperation.ofRow? at h
  simp only at h
  by_cases hv : ({ row with
      providerReference := row.providerReference.map Text.trim } :
      OrderOperation).valid = true ∧
      row.providerReference.map Text.trim ≠ some ""
  · rw [if_pos hv] at h
    cases h
    exact ⟨rfl, hv.left⟩
  · rw [if_neg hv] at h
    cases h

/-!
## Fencing
-/

/-- The comparison of the locked message with the caller's handle. -/
def claimedMessageCurrent (m : OutboxMessage) (claimed : ClaimedOutboxMessage)
    (databaseNow : Time) : Bool :=
  decide (m.status = OutboxDeliveryStatus.processing) &&
    decide (m.deliveryCycle = claimed.deliveryCycle) &&
    decide (m.attemptsInCycle = claimed.attemptsInCycle) &&
    decide (m.leaseId = claimed.leaseId) &&
    decide (m.leaseOwner = claimed.leaseOwner) &&
    m.leaseExpiresAt.any fun t => decide (databaseNow < t)

/-- The comparison of the locked attempt with the caller's handle. -/
def claimedAttemptCurrent (a : OutboxDeliveryAttempt)
    (claimed : ClaimedOutboxMessage) : Bool :=
  decide (a.deliveryCycle = claimed.deliveryCycle) &&
    decide (a.deliveryCycle = claimed.attempt.deliveryCycle) &&
    decide (a.attemptNumber = claimed.attemptsInCycle) &&
    decide (a.attemptNumber = claimed.attempt.attemptNumber) &&
    decide (some a.leaseId = claimed.leaseId) &&
    decide (some a.workerId = claimed.leaseOwner)

/-- The open attempt a handle names. -/
def openAttemptOf (db : Database) (attemptId commandId : UUID) :
    Option OutboxDeliveryAttempt :=
  (db.outbox.attempts.get attemptId).filter fun a =>
    decide (a.commandId = commandId) && a.isOpen

/-- `_lock_claimed_command`. -/
def lockClaimedCommand (claimed : ClaimedOutboxMessage) (databaseNow : Time) :
    Tx Time := do
  let conflict := Failure.leaseConflict claimed.commandId
  let m ← Transaction.fetch
    (fun db => db.outbox.messages.get claimed.commandId) conflict
  Transaction.require (claimedMessageCurrent m claimed databaseNow = true) conflict
  let a ← Transaction.fetch
    (fun db => openAttemptOf db claimed.attempt.attemptId claimed.commandId) conflict
  Transaction.require (claimedAttemptCurrent a claimed = true) conflict
  pure (max databaseNow (greatest m.createdAt m.updatedAt a.startedAt))

/-!
## Order operations
-/

inductive FinalTarget where
  | published
  | dead
deriving DecidableEq, Repr

def FinalTarget.status : FinalTarget -> OutboxDeliveryStatus
  | published => OutboxDeliveryStatus.published
  | dead => OutboxDeliveryStatus.dead

def commandKey (claimed : ClaimedOutboxMessage) (suffix : String) : String :=
  "provider-command:" ++ toString claimed.commandId ++ ":cycle:" ++
    toString claimed.deliveryCycle ++ ":" ++ suffix

/-- The unresolved review case of a thread. -/
def activeReviewCase (db : Database) (tenantId threadId : CleanText) :
    Option SupportCase :=
  db.cases.rows.rows.find? fun c =>
    decide (c.tenantId = tenantId) && decide (c.threadId = threadId) &&
      decide (c.caseType = CaseType.orderOperationReview) && c.unresolved

/-- The reason codes with the technical failure appended once. -/
def withDeliveryFailed (reasons : List HandoffReason) : List HandoffReason :=
  fromKeys (reasons ++ [HandoffReason.providerDeliveryFailed])

/-- The SET clause that appends the technical failure to a review case. -/
def SupportCase.setTechnicalReview (existing : SupportCase) (now : Time)
    (r : SupportCase) : SupportCase :=
  { r with
    priority := CasePriority.p1
    reasonCodes := withDeliveryFailed existing.reasonCodes
    updatedAt := greatest now r.updatedAt r.createdAt
    version := existing.version + 1 }

/-- The review case opened for an operation whose delivery failed. -/
def technicalReviewCase (operation : OrderOperation) (caseId : UUID)
    (now : Time) : SupportCase :=
  { caseId := caseId
    threadId := operation.threadId
    sourceMessageId := operation.sourceMessageId
    orderId := some (TrimmedText.ofString operation.orderId.text)
    caseType := CaseType.orderOperationReview
    priority := CasePriority.p1
    status := CaseStatus.open
    riskLevel := none
    riskCategories := []
    reasonCodes := [HandoffReason.providerDeliveryFailed]
    triggeringMessageExcerpt := operation.requestExcerpt
    onHoldReason := none
    createdAt := now
    updatedAt := now
    version := 1
    customerId := operation.customerId
    tenantId := operation.tenantId
    assignedAgentId := none }

/-- The event that opens or extends a review case after a failed delivery. -/
def technicalReviewEvent (operation : OrderOperation) (case : SupportCase)
    (eventId : UUID) (key : String) (eventType : CaseEventType)
    (previousPriority : Option CasePriority) (actor : Option String)
    (now : Time) : SupportCaseEvent :=
  { SupportCaseEvent.blank eventId key case.caseId eventType case.customerId
      case.tenantId now with
    sourceMessageId := some operation.sourceMessageId
    orderId := some (TrimmedText.ofString operation.orderId.text)
    reasonCodes := [HandoffReason.providerDeliveryFailed]
    triggeringMessageExcerpt := operation.requestExcerpt.text
    previousPriority := previousPriority
    currentPriority := some CasePriority.p1
    currentStatus := some case.status
    actor := actor }

/-- `_ensure_technical_review_case`. -/
def ensureTechnicalReviewCase (claimed : ClaimedOutboxMessage)
    (operation : OrderOperation) (now : Time) : Tx UUID := do
  let found ← Transaction.read
    (fun db => activeReviewCase db operation.tenantId operation.threadId)
  match found with
  | some row => do
      let existing ← caseFromRow row
      let affected ← updateCase existing.caseId
        (fun c => decide (c.version = existing.version))
        (SupportCase.setTechnicalReview existing now)
      Transaction.require (affected = 1) (Failure.leaseConflict claimed.commandId)
      let eventId ← newId
      insertCaseEventOnce (technicalReviewEvent operation existing eventId
        (commandKey claimed "technical-review") CaseEventType.triggerAppended
        (some existing.priority) (some "system") now)
      pure existing.caseId
  | none => do
      let caseId ← newId
      let case := technicalReviewCase operation caseId now
      let eventId ← newId
      insertCase case
      insertCaseEvent (technicalReviewEvent operation case eventId
        (commandKey claimed "technical-review") CaseEventType.caseCreated
        none none now)
      pure caseId

/-- The operation status a finalized command leads to. -/
def finalStatus (target : FinalTarget) (failureKind : Option ProviderFailureKind) :
    OperationRecordStatus :=
  if target = FinalTarget.published then
    OperationRecordStatus.submitted
  else if failureKind = some ProviderFailureKind.providerRejection then
    OperationRecordStatus.rejected
  else
    OperationRecordStatus.manualReview

/-- The SET clause of `_finalize_operation`. -/
def OrderOperation.setFinalized (operation : OrderOperation)
    (newStatus : OperationRecordStatus) (supportCaseId : Option UUID)
    (reference : Option String) (now : Time) (r : OrderOperation) :
    OrderOperation :=
  let manual := decide (newStatus = OperationRecordStatus.manualReview)
  { r with
    requiresManualReview := if manual then true else operation.requiresManualReview
    reviewCaseType :=
      if manual then some CaseType.orderOperationReview else operation.reviewCaseType
    reviewPriority :=
      if manual then some CasePriority.p1 else operation.reviewPriority
    supportCaseId := supportCaseId
    providerReference := reference
    status := newStatus
    updatedAt := greatest now r.updatedAt r.createdAt
    version := operation.version + 1 }

def statusChangedEvent (operation : OrderOperation) (eventId : UUID) (key : String)
    (newStatus : OperationRecordStatus) (reference : Option CleanText)
    (actor : String) (now : Time) : OrderOperationEvent :=
  { eventId := eventId
    idempotencyKey := key
    operationId := operation.operationId
    eventType := OperationEventType.statusChanged
    previousStatus := some operation.status
    currentStatus := some newStatus
    providerReference := reference
    supportCaseId := none
    actor := actor
    customerId := operation.customerId
    tenantId := operation.tenantId
    createdAt := now }

def confirmationRecordedEvent (operation : OrderOperation) (eventId : UUID)
    (key actor : String) (now : Time) : OrderOperationEvent :=
  { eventId := eventId
    idempotencyKey := key
    operationId := operation.operationId
    eventType := OperationEventType.confirmationRecorded
    previousStatus := none
    currentStatus := none
    providerReference := none
    supportCaseId := none
    actor := actor
    customerId := operation.customerId
    tenantId := operation.tenantId
    createdAt := now }

def supportCaseAttachedEvent (operation : OrderOperation) (eventId : UUID)
    (key : String) (supportCaseId : UUID) (now : Time) : OrderOperationEvent :=
  { eventId := eventId
    idempotencyKey := key
    operationId := operation.operationId
    eventType := OperationEventType.supportCaseAttached
    previousStatus := none
    currentStatus := none
    providerReference := none
    supportCaseId := some supportCaseId
    actor := "system"
    customerId := operation.customerId
    tenantId := operation.tenantId
    createdAt := now }

/-- The case a manual review is linked to, created when there is none. -/
def reviewCaseOf (claimed : ClaimedOutboxMessage) (operation : OrderOperation)
    (newStatus : OperationRecordStatus) (now : Time) : Tx (Option UUID) :=
  if newStatus = OperationRecordStatus.manualReview ∧
      operation.supportCaseId = none then do
    let caseId ← ensureTechnicalReviewCase claimed operation now
    pure (some caseId)
  else
    pure operation.supportCaseId

/-- The second event of a manual review names the linked case. -/
def recordAttachedCase (claimed : ClaimedOutboxMessage)
    (operation : OrderOperation) (newStatus : OperationRecordStatus)
    (supportCaseId : Option UUID) (now : Time) : Tx Unit :=
  match supportCaseId with
  | some caseId =>
      if newStatus = OperationRecordStatus.manualReview then do
        let eventId ← newId
        insertOperationEvent (supportCaseAttachedEvent operation eventId
          (commandKey claimed "case-attached") caseId now)
      else
        pure ()
  | none => pure ()

/-- The reference the operation is left with. -/
def finalReference (providerResult : Option ProviderCommandResult)
    (operation : OrderOperation) : Option String :=
  match providerResult with
  | some result => result.providerReference
  | none => operation.providerReference

/-- `_finalize_operation`. -/
def finalizeOperation (claimed : ClaimedOutboxMessage) (target : FinalTarget)
    (providerResult : Option ProviderCommandResult)
    (failureKind : Option ProviderFailureKind) (now : Time) : Tx Unit := do
  let row ← Transaction.fetch
    (fun db => db.operations.rows.get claimed.aggregateId)
    (Failure.valueError "provider command operation was not found")
  let operation ← operationFromRow row
  Transaction.require
    (operation.tenantId = claimed.tenantId ∧
      operation.status = OperationRecordStatus.queued)
    (Failure.valueError "provider command operation association is invalid")
  let newStatus := finalStatus target failureKind
  let supportCaseId ← reviewCaseOf claimed operation newStatus now
  let reference := finalReference providerResult operation
  let affected ← updateOperation operation.operationId
    (fun r => decide (r.version = operation.version))
    (operation.setFinalized newStatus supportCaseId reference now)
  Transaction.require (affected = 1) (Failure.leaseConflict claimed.commandId)
  let eventId ← newId
  let eventReference ← parseReference "OrderOperationEvent" reference
  insertOperationEvent (statusChangedEvent operation eventId
    (commandKey claimed "status") newStatus eventReference "system" now)
  recordAttachedCase claimed operation newStatus supportCaseId now

/-!
## Delivery investigations
-/

/-- The SET clause that adds the technical failure to an investigation. -/
def SupportCase.setDeliveryFailed (case : SupportCase) (now : Time)
    (r : SupportCase) : SupportCase :=
  { r with
    reasonCodes := case.reasonCodes ++ [HandoffReason.providerDeliveryFailed]
    updatedAt := greatest now r.updatedAt r.createdAt
    version := case.version + 1 }

/-- A dead command leaves its reason on the case, once. -/
def recordDeliveryFailed (claimed : ClaimedOutboxMessage) (target : FinalTarget)
    (case : SupportCase) (now : Time) : Tx Unit :=
  if target = FinalTarget.dead ∧
      HandoffReason.providerDeliveryFailed ∉ case.reasonCodes then do
    let affected ← updateCase case.caseId
      (fun r => decide (r.version = case.version)) (case.setDeliveryFailed now)
    Transaction.require (affected = 1) (Failure.leaseConflict claimed.commandId)
  else
    pure ()

def FinalTarget.commandStatus : FinalTarget -> ProviderCommandExecutionStatus
  | published => ProviderCommandExecutionStatus.accepted
  | dead => ProviderCommandExecutionStatus.rejected

def FinalTarget.word : FinalTarget -> String
  | published => "accepted"
  | dead => "rejected"

def providerUpdateEvent (case : SupportCase) (eventId : UUID) (key : String)
    (commandId : UUID) (status : ProviderCommandExecutionStatus)
    (reference : Option CleanText) (now : Time) : SupportCaseEvent :=
  { SupportCaseEvent.blank eventId key case.caseId CaseEventType.providerUpdate
      case.customerId case.tenantId now with
    providerCommandId := some commandId
    providerCommandStatus := some status
    providerReference := reference
    actor := some "system" }

/-- `_finalize_case`. -/
def finalizeCase (claimed : ClaimedOutboxMessage) (target : FinalTarget)
    (providerResult : Option ProviderCommandResult) (now : Time) : Tx Unit := do
  let row ← Transaction.fetch (fun db => db.cases.rows.get claimed.aggregateId)
    (Failure.valueError "provider command case was not found")
  let case ← caseFromRow row
  Transaction.require
    (case.tenantId = claimed.tenantId ∧
      case.caseType = CaseType.deliveryInvestigation)
    (Failure.valueError "provider command case association is invalid")
  recordDeliveryFailed claimed target case now
  let eventId ← newId
  let eventReference ← parseReference "SupportCaseEvent"
    (providerResult.bind fun result => result.providerReference)
  insertCaseEvent (providerUpdateEvent case eventId
    (commandKey claimed target.word) claimed.commandId target.commandStatus
    eventReference now)

/-!
## The finalizer
-/

/-- The attempt outcome of a finalized command. -/
def finalOutcome (target : FinalTarget) (failureKind : Option ProviderFailureKind) :
    DeliveryAttemptOutcome :=
  if target = FinalTarget.published then
    DeliveryAttemptOutcome.accepted
  else if failureKind = some ProviderFailureKind.providerRejection then
    DeliveryAttemptOutcome.providerRejected
  else
    DeliveryAttemptOutcome.terminalFailure

/-- What the caller of `_finalize` decided about a claimed command. -/
structure Finalization where
  target : FinalTarget
  providerResult : Option ProviderCommandResult
  failureKind : Option ProviderFailureKind
  errorCode : Option String
  errorMessage : Option String

namespace Finalization

def attemptResult (f : Finalization) (now : Time) : DeliveryAttemptResult :=
  { finishedAt := now
    outcome := finalOutcome f.target f.failureKind
    failureKind := f.failureKind
    safeErrorCode := f.errorCode
    safeErrorMessage := f.errorMessage
    providerOperationId := f.providerResult.bind fun r => r.providerOperationId
    providerReference := f.providerResult.bind fun r => r.providerReference }

def transition (f : Finalization) (now : Time) : OutboxTransition :=
  { targetStatus := f.target.status
    updatedAt := now
    publishedAt := if f.target = FinalTarget.published then some now else none
    deadAt := if f.target = FinalTarget.dead then some now else none
    lastFailureKind := f.failureKind
    lastErrorCode := f.errorCode
    lastErrorMessage := f.errorMessage }

end Finalization

/-- Database errors of a finalizer are reported as a persistence failure. -/
def finalizerError (message : String) (e : Failure) : Failure :=
  if e.isDatabaseError then Failure.integrationPersistence message else e

/-- The aggregate part of `_finalize`. -/
def finalizeAggregate (claimed : ClaimedOutboxMessage) (f : Finalization)
    (now : Time) : Tx Unit :=
  match claimed.aggregateType with
  | ProviderAggregateType.orderOperation =>
      finalizeOperation claimed f.target f.providerResult f.failureKind now
  | ProviderAggregateType.supportCase =>
      finalizeCase claimed f.target f.providerResult now

/-- `_finalize`; `databaseNow` is the one clock reading it takes. -/
def finalize (claimed : ClaimedOutboxMessage) (f : Finalization)
    (databaseNow : Time) : Tx Unit :=
  Transaction.translate (finalizerError "Failed to finalize provider command") do
    let leaseId ← Transaction.fetch (fun _ => claimed.leaseId)
      (Failure.assertionError "claimed.lease_id is not None")
    let leaseOwner ← Transaction.fetch (fun _ => claimed.leaseOwner)
      (Failure.assertionError "claimed.lease_owner is not None")
    let now ← lockClaimedCommand claimed databaseNow
    finalizeAggregate claimed f now
    let finished ← finishDeliveryAttempt claimed.attempt.attemptId claimed.commandId
      leaseId leaseOwner (f.attemptResult now)
    Transaction.require (finished = 1) (Failure.leaseConflict claimed.commandId)
    let affected ← updateOutboxTransition claimed.commandId leaseId leaseOwner
      (f.transition now)
    Transaction.require (affected = 1) (Failure.leaseConflict claimed.commandId)

/-- What `accepted` asks of `_finalize`. -/
def Finalization.accepted (result : ProviderCommandResult) : Finalization :=
  { target := FinalTarget.published
    providerResult := some result
    failureKind := none
    errorCode := none
    errorMessage := none }

/-- What `rejected` asks of `_finalize`. -/
def Finalization.rejected (result : ProviderCommandResult) : Finalization :=
  { target := FinalTarget.dead
    providerResult := some result
    failureKind := some ProviderFailureKind.providerRejection
    errorCode := some "provider_rejected"
    errorMessage := some "Provider rejected the command." }

/-- What `terminal_failure` asks of `_finalize`. -/
def Finalization.terminalFailure (failureKind : ProviderFailureKind)
    (errorCode errorMessage : Option String) : Finalization :=
  { target := FinalTarget.dead
    providerResult := none
    failureKind := some failureKind
    errorCode := errorCode
    errorMessage := errorMessage }

inductive Verdict where
  | accepted (result : ProviderCommandResult)
  | rejected (result : ProviderCommandResult)
  | terminalFailure (failureKind : ProviderFailureKind)
      (errorCode errorMessage : Option String)

def Verdict.finalization : Verdict -> Finalization
  | accepted result => Finalization.accepted result
  | rejected result => Finalization.rejected result
  | terminalFailure failureKind errorCode errorMessage =>
      Finalization.terminalFailure failureKind errorCode errorMessage

end RefundAgent
