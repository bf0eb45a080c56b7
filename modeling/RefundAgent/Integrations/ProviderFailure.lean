import RefundAgent.Operations.Service

/-!
# Fallback when no provider connection is available

`PostgresProviderQueueFailureCoordinator`: a confirmed operation that cannot be
queued goes to manual review together with its review case and the audit events.
-/

namespace RefundAgent

open Foundation

inductive QueueFailureAction where
  | created
  | reused
  | duplicateIgnored
deriving DecidableEq, Repr

structure ProviderQueueFailureResult where
  operation : OrderOperation
  supportCase : SupportCase
  action : QueueFailureAction
deriving DecidableEq

/-- The idempotency keys of the events of one fallback. -/
def queueFailureKey (operationId : UUID) (word requestId : String) : String :=
  "provider-queue-failure:" ++ toString operationId ++ ":" ++ word ++ ":" ++ requestId

/-- The review case with the failure merged in. -/
def SupportCase.withQueueFailure (existing : SupportCase) (now : Time) :
    SupportCase :=
  { existing with
    priority := CasePriority.p1
    reasonCodes := withDeliveryFailed existing.reasonCodes
    updatedAt := now
    version := existing.version + 1 }

/-- The SET clause of the case update. -/
def SupportCase.setQueueFailure (case r : SupportCase) : SupportCase :=
  { r with
    priority := case.priority
    reasonCodes := case.reasonCodes
    updatedAt := case.updatedAt
    version := case.version }

/-- The operation after the fallback. -/
def OrderOperation.withReview (operation : OrderOperation) (caseId : UUID)
    (now : Time) : OrderOperation :=
  { operation with
    status := OperationRecordStatus.manualReview
    requiresManualReview := true
    reviewCaseType := some CaseType.orderOperationReview
    reviewPriority := some CasePriority.p1
    supportCaseId := some caseId
    updatedAt := now
    version := operation.version + 1 }

/-- The SET clause of the operation update. -/
def OrderOperation.setReview (operation : OrderOperation) (caseId : UUID)
    (now : Time) (r : OrderOperation) : OrderOperation :=
  { r with
    requiresManualReview := true
    reviewCaseType := some CaseType.orderOperationReview
    reviewPriority := some CasePriority.p1
    supportCaseId := some caseId
    status := OperationRecordStatus.manualReview
    updatedAt := now
    version := operation.version + 1 }

/-- A fallback that has happened before: the linked case answers. -/
def linkedReviewCase (operation : OrderOperation) (caseId : UUID) :
    Tx ProviderQueueFailureResult := do
  let row ← Transaction.fetch (fun db => db.cases.rows.get caseId)
    (Failure.valueError "operation manual-review case is unavailable")
  let case ← caseFromRow row
  Transaction.require
    (case.tenantId = operation.tenantId ∧ case.customerId = operation.customerId ∧
      case.caseType = CaseType.orderOperationReview)
    (Failure.valueError "operation manual-review case association is invalid")
  pure ⟨operation, case, QueueFailureAction.duplicateIgnored⟩

/-- The review case of the fallback, opened or extended. -/
def queueFailureCase (operation : OrderOperation) (requestId : String)
    (now : Time) : Tx (SupportCase × QueueFailureAction) := do
  let key := queueFailureKey operation.operationId "case" requestId
  let found ← Transaction.read
    (fun db => activeReviewCase db operation.tenantId operation.threadId)
  match found with
  | none => do
      let caseId ← newId
      let eventId ← newId
      let case := technicalReviewCase operation caseId now
      insertCase case
      insertCaseEvent (technicalReviewEvent operation case eventId key
        CaseEventType.caseCreated none none now)
      pure (case, QueueFailureAction.created)
  | some row => do
      let existing ← caseFromRow row
      let case := existing.withQueueFailure now
      let affected ← updateCase case.caseId
        (fun c => decide (c.version = existing.version)) case.setQueueFailure
      Transaction.require (affected = 1)
        (Failure.concurrentOperationUpdate "operation version changed")
      let eventId ← newId
      insertCaseEvent (technicalReviewEvent operation case eventId key
        CaseEventType.triggerAppended (some existing.priority) (some "system") now)
      pure (case, QueueFailureAction.reused)

/-- The three events of a fallback. -/
def queueFailureEvents (scope : AccessScope) (operation : OrderOperation)
    (caseId : UUID) (requestId : String) (first second third : UUID) (now : Time) :
    List OrderOperationEvent :=
  [confirmationRecordedEvent operation first
      (queueFailureKey operation.operationId "confirmed" requestId) scope.identity now,
    statusChangedEvent operation second
      (queueFailureKey operation.operationId "status" requestId)
      OperationRecordStatus.manualReview none "system" now,
    supportCaseAttachedEvent operation third
      (queueFailureKey operation.operationId "case-attached" requestId) caseId now]

/-- The branch of `_move_once` that moves a pending operation. -/
def moveToReview (scope : AccessScope) (operation : OrderOperation)
    (requestId : String) (replay : Bool) (now : Time) :
    Tx ProviderQueueFailureResult := do
  let found ← queueFailureCase operation requestId now
  let affected ← updateOperation operation.operationId
    (fun r => decide (r.version = operation.version))
    (operation.setReview found.1.caseId now)
  Transaction.require (affected = 1)
    (Failure.concurrentOperationUpdate "operation version changed")
  if replay then
    pure ()
  else do
    let first ← newId
    let second ← newId
    let third ← newId
    insertOperationEvents (queueFailureEvents scope operation found.1.caseId requestId
      first second third now)
  pure ⟨operation.withReview found.1.caseId now, found.1, found.2⟩

/-- An event with the confirmation key of this fallback exists. -/
def queueFailureReplay (db : Database) (operationId : UUID) (requestId : String) :
    Bool :=
  db.operations.events.rows.any fun e =>
    decide (e.idempotencyKey = queueFailureKey operationId "confirmed" requestId)

/-- `_move_once`. -/
def moveOnce (scope : AccessScope) (operationId : UUID) (requestId : String)
    (now : Time) : Tx ProviderQueueFailureResult := do
  let row ← Transaction.fetch (fun db => db.operations.rows.get operationId)
    (Failure.operationNotFound operationId)
  let operation ← operationFromRow row
  Transaction.require
    (operation.tenantId = scope.tenantId ∧
      some operation.customerId = scope.customerId)
    (Failure.operationNotFound operationId)
  let replay ← Transaction.read
    (fun db => queueFailureReplay db operationId requestId)
  match operation.supportCaseId with
  | some caseId =>
      if operation.status = OperationRecordStatus.manualReview then
        linkedReviewCase operation caseId
      else do
        Transaction.require
          (operation.status = OperationRecordStatus.pendingConfirmation)
          (Failure.valueError "operation is not eligible for provider manual review")
        moveToReview scope operation requestId replay now
  | none => do
      Transaction.require
        (operation.status = OperationRecordStatus.pendingConfirmation)
        (Failure.valueError "operation is not eligible for provider manual review")
      moveToReview scope operation requestId replay now

/-- What one try of the fallback does with an error. -/
def moveFailure (attempt : Nat) (again : Call ProviderQueueFailureResult)
    (e : Failure) : Option (Call ProviderQueueFailureResult) :=
  match e with
  | Failure.uniqueViolation c =>
      if c = UniqueConstraint.supportCasesActiveThreadType ∧ attempt ≠ 2 then
        some again
      else
        some (Program.raise (Failure.operationPersistence
          "Could not create provider manual-review case"))
  | Failure.poolTimeout =>
      some (Program.raise (Failure.operationPersistence
        "Timed out acquiring PostgreSQL connection"))
  | e =>
      if e.isDatabaseError then
        some (Program.raise (Failure.operationPersistence
          "Could not persist provider manual-review fallback"))
      else
        none

/-- The tries of `move_to_manual_review`, counted down. -/
def moveAttempts (scope : AccessScope) (operationId : UUID) (requestId : String)
    (clock : Nat -> Time) : Nat -> Call ProviderQueueFailureResult
  | 0 => Program.raise
      (Failure.assertionError "provider manual-review retry loop exhausted")
  | n + 1 =>
      (Program.perform (moveOnce scope operationId requestId (clock (2 - n)))).rescue
        (moveFailure (2 - n) (moveAttempts scope operationId requestId clock n))

/-- `move_to_provider_manual_review` of the service and its coordinator. -/
def moveToProviderManualReview (scope : AccessScope) (operationId : UUID)
    (requestId : String) (clock : Nat -> Time) :
    Call ProviderQueueFailureResult := do
  let request ← Program.done (normalizeRequestId requestId)
  moveAttempts scope operationId request clock 3

end RefundAgent
