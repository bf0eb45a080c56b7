import RefundAgent.Foundation.Program
import RefundAgent.Operations.Repository

/-!
# The order-operation service

Each method is a program of repository transactions.  Between two of them other
callers may run, so a method writes with the version it has read and tries
again when the version has moved on.  Clock readings are a function of the
place in the code and the try.

`update_operation_status` has no caller in the repository and is left out.
-/

namespace RefundAgent

open Foundation

abbrev Call (α : Type) := Program Database Failure α

/-- `max_write_attempts`. -/
def maxWriteAttempts : Nat := 3

/-- `uuid4()` in the service, outside any transaction. -/
def freshId : Call UUID :=
  Program.perform newId

/-- `get_operation` of the service. -/
def getOperation (scope : AccessScope) (operationId : UUID) :
    Call OrderOperation := do
  let found ← Program.perform (findOperation scope operationId)
  match found with
  | some operation => pure operation
  | none => Program.raise (Failure.operationNotFound operationId)

/-- `_unchanged_result`. -/
def unchangedResult (scope : AccessScope) (operationId : UUID) :
    Call OperationServiceResult := do
  let operation ← getOperation scope operationId
  pure
    { action := OperationServiceAction.statusUnchanged
      operation := operation
      events := [] }

/-- Validation of the provider reference of an event. -/
def eventReference : Option String -> Except Failure (Option CleanText)
  | none => Except.ok none
  | some s =>
      match CleanText.parse? s with
      | some t => Except.ok (some t)
      | none => Except.error (Failure.validationError "OrderOperationEvent")

/-- `request_id.strip()`, refused when nothing is left. -/
def normalizeRequestId (requestId : String) : Except Failure String :=
  if Text.strip requestId = "" then
    Except.error (Failure.valueError "request_id must not be empty")
  else
    Except.ok (Text.strip requestId)

/-- The aggregate half of `_build_status_update`. -/
def OrderOperation.withStatus (current : OrderOperation)
    (targetStatus : OperationRecordStatus) (reference : Option String)
    (now : Time) : OrderOperation :=
  { current with
    status := targetStatus
    providerReference := reference.orElse fun _ => current.providerReference
    updatedAt := now
    version := current.version + 1 }

/-- The event half of `_build_status_update`. -/
def statusUpdateEvent (current updated : OrderOperation) (eventId : UUID)
    (key actor : String) : Except Failure OrderOperationEvent := do
  let reference ← eventReference updated.providerReference
  pure (statusChangedEvent current eventId key updated.status reference actor
    updated.updatedAt)

/-- The idempotency key of an event written by this service. -/
def operationKey (operationId : UUID) (rest : String) : String :=
  "operation:" ++ toString operationId ++ ":" ++ rest

/-!
## Creation
-/

/-- `_build_pending_operation`: the operation. -/
def pendingOperation (scope : AccessScope) (customerId : CleanText)
    (request : OrderOperationRequest) (snapshot : OrderSnapshot)
    (decision : OperationDecision) (excerpt : CleanText) (operationId : UUID)
    (now : Time) : OrderOperation :=
  { operationId := operationId
    idempotencyKey := "operation:" ++ request.threadId.text ++ ":" ++
      request.sourceMessageId.text ++ ":created"
    threadId := request.threadId
    sourceMessageId := request.sourceMessageId
    orderId := request.orderId
    operationType := request.operationType
    requestReasonCode := request.reason
    policyReasonCodes := decision.reasonCodes
    replacementVariantId := request.replacementVariantId
    requestExcerpt := excerpt
    orderVersion := snapshot.version
    requiresManualReview :=
      decide (decision.outcome = OperationOutcome.manualReview)
    reviewCaseType := decision.caseRecommendation.map CaseRecommendation.caseType
    reviewPriority := decision.caseRecommendation.map CaseRecommendation.priority
    supportCaseId := none
    providerReference := none
    status := OperationRecordStatus.pendingConfirmation
    createdAt := now
    updatedAt := now
    version := 1
    customerId := customerId
    tenantId := scope.tenantId }

/-- `_build_pending_operation`: its creation event. -/
def operationCreatedEvent (operation : OrderOperation) (eventId : UUID) :
    OrderOperationEvent :=
  { eventId := eventId
    idempotencyKey := operation.idempotencyKey
    operationId := operation.operationId
    eventType := OperationEventType.operationCreated
    previousStatus := none
    currentStatus := none
    providerReference := none
    supportCaseId := none
    actor := "system"
    customerId := operation.customerId
    tenantId := operation.tenantId
    createdAt := operation.createdAt }

/-- The two lookups before and after the write attempts. -/
def findExistingOperation (scope : AccessScope) (request : OrderOperationRequest) :
    Call (Option OrderOperation) := do
  let duplicate ← Program.perform
    (findBySourceMessage scope request.threadId request.sourceMessageId)
  match duplicate with
  | some operation => pure (some operation)
  | none => Program.perform (findActiveByOrderId scope request.orderId)

def duplicateIgnored (operation : OrderOperation) : OperationServiceResult :=
  { action := OperationServiceAction.duplicateIgnored
    operation := operation
    events := [] }

/-- The three write conflicts after which creation starts over. -/
def creationConflict : Failure -> Bool
  | Failure.activeOrderOperationConflict => true
  | Failure.duplicateOperationIdempotency => true
  | Failure.duplicateOperationSourceMessage => true
  | _ => false

/-- Build the operation and write it with its creation event. -/
def writePendingOperation (scope : AccessScope) (customerId : CleanText)
    (request : OrderOperationRequest) (snapshot : OrderSnapshot)
    (decision : OperationDecision) (excerpt : CleanText) (now : Time) :
    Call OperationServiceResult := do
  let operationId ← freshId
  let operation := pendingOperation scope customerId request snapshot decision
    excerpt operationId now
  Program.require (operation.valid = true)
    (Failure.validationError "OrderOperation")
  let eventId ← freshId
  let event := operationCreatedEvent operation eventId
  Program.perform (createOperationWithEvents scope operation [event])
  pure
    { action := OperationServiceAction.created
      operation := operation
      events := [event] }

/-- The write attempts of `create_pending_operation`. -/
def createAttempts (scope : AccessScope) (customerId : CleanText)
    (request : OrderOperationRequest) (snapshot : OrderSnapshot)
    (decision : OperationDecision) (excerpt : CleanText) (clock : Nat -> Time) :
    Nat -> Call OperationServiceResult
  | 0 => do
      let existing ← findExistingOperation scope request
      match existing with
      | some operation => pure (duplicateIgnored operation)
      | none => Program.raise (Failure.concurrentOperationUpdate
          "Could not create the order operation after concurrent write conflicts")
  | n + 1 => do
      let existing ← findExistingOperation scope request
      match existing with
      | some operation => pure (duplicateIgnored operation)
      | none =>
          (writePendingOperation scope customerId request snapshot decision excerpt
            (clock n)).rescue fun e =>
              if creationConflict e then
                some (createAttempts scope customerId request snapshot decision
                  excerpt clock n)
              else
                none

/-- `create_pending_operation`. -/
def createPendingOperation (scope : AccessScope) (request : OrderOperationRequest)
    (snapshot : OrderSnapshot) (decision : OperationDecision)
    (requestExcerpt : String) (clock : Nat -> Time) :
    Call OperationServiceResult :=
  match scope.customerId with
  | none =>
      Program.raise (Failure.valueError "only customers may create order operations")
  | some customerId => do
      Program.require (Text.strip requestExcerpt ≠ "")
        (Failure.valueError "request_excerpt must not be empty")
      Program.require (request.orderId = snapshot.orderId)
        (Failure.valueError "request and snapshot must have the same order_id")
      Program.require (decision.operationType = request.operationType)
        (Failure.valueError "decision and request must have the same operation_type")
      Program.require (decision.outcome = OperationOutcome.eligible ∨
          decision.outcome = OperationOutcome.manualReview)
        (Failure.valueError
          "only eligible or manual_review decisions can be persisted")
      Program.require (decision.requiresConfirmation = true)
        (Failure.valueError "persisted operations must require confirmation")
      match CleanText.parse? (Text.strip requestExcerpt) with
      | none => Program.raise (Failure.validationError "OrderOperation")
      | some excerpt =>
          createAttempts scope customerId request snapshot decision excerpt clock
            maxWriteAttempts

/-!
## Customer decisions
-/

/-- The conflicts after which a versioned update is tried again. -/
def updateConflict : Failure -> Bool
  | Failure.concurrentOperationUpdate _ => true
  | Failure.duplicateOperationIdempotency => true
  | _ => false

/--
One versioned update: on a conflict the recorded event of an identical request
answers, otherwise the next try.
-/
def updateOrRetry (scope : AccessScope) (key : String) (current : OrderOperation)
    (result : OperationServiceResult) (again : Call OperationServiceResult) :
    Call OperationServiceResult :=
  (do
    Program.perform (updateOperationWithEvents scope result.operation result.events
      current.version)
    pure result : Call OperationServiceResult).rescue fun e =>
      if updateConflict e then
        some do
          let prior ← Program.perform (findEventByIdempotencyKey scope key)
          match prior with
          | some event => unchangedResult scope event.operationId
          | none => again
      else
        none

inductive PendingAction where
  | confirmed
  | cancelled
deriving DecidableEq, Repr

namespace PendingAction

def word : PendingAction -> String
  | confirmed => "confirmed"
  | cancelled => "cancelled"

def action : PendingAction -> OperationServiceAction
  | confirmed => OperationServiceAction.confirmed
  | cancelled => OperationServiceAction.cancelled

/-- The status a decision leads to. -/
def nextStatus (a : PendingAction) (current : OrderOperation) :
    OperationRecordStatus :=
  match a with
  | confirmed =>
      if current.requiresManualReview then OperationRecordStatus.manualReview
      else OperationRecordStatus.submitted
  | cancelled => OperationRecordStatus.cancelledByCustomer

/-- A repeated decision that has already taken effect. -/
def alreadyDone (a : PendingAction) (current : OrderOperation) : Bool :=
  match a with
  | confirmed => current.active
  | cancelled => decide (current.status = OperationRecordStatus.cancelledByCustomer)

end PendingAction

/-- The update and the events of one decision on a pending operation. -/
def pendingDecision (a : PendingAction) (current : OrderOperation)
    (key actor : String) (statusId decisionId : UUID) (now : Time) :
    Except Failure OperationServiceResult := do
  let updated := current.withStatus (a.nextStatus current) none now
  match a with
  | PendingAction.confirmed => do
      let status ← statusUpdateEvent current updated statusId (key ++ ":status") actor
      pure
        { action := a.action
          operation := updated
          events := [confirmationRecordedEvent current decisionId key actor
            updated.updatedAt, status] }
  | PendingAction.cancelled => do
      let status ← statusUpdateEvent current updated statusId key actor
      pure { action := a.action, operation := updated, events := [status] }

/-- The write attempts of `_change_from_pending`. -/
def pendingAttempts (scope : AccessScope) (operationId : UUID) (a : PendingAction)
    (key : String) (clock : Nat -> Time) : Nat -> Call OperationServiceResult
  | 0 => Program.raise (Failure.concurrentOperationUpdate
      ("Could not " ++ a.word ++
        " the operation after concurrent write conflicts"))
  | n + 1 => do
      let current ← getOperation scope operationId
      if current.status ≠ OperationRecordStatus.pendingConfirmation then
        if a.alreadyDone current then
          pure
            { action := OperationServiceAction.statusUnchanged
              operation := current
              events := [] }
        else
          Program.raise (Failure.invalidOperationStatusTransition
            ("cannot " ++ a.word ++ " an operation"))
      else do
        let statusId ← freshId
        let decisionId ← freshId
        let result ← Program.done
          (pendingDecision a current key scope.identity statusId decisionId (clock n))
        updateOrRetry scope key current result
          (pendingAttempts scope operationId a key clock n)

/-- `_change_from_pending`. -/
def changeFromPending (scope : AccessScope) (operationId : UUID)
    (requestId : String) (a : PendingAction) (clock : Nat -> Time) :
    Call OperationServiceResult := do
  let request ← Program.done (normalizeRequestId requestId)
  let key := operationKey operationId (a.word ++ ":" ++ request)
  let prior ← Program.perform (findEventByIdempotencyKey scope key)
  match prior with
  | some event => unchangedResult scope event.operationId
  | none => pendingAttempts scope operationId a key clock maxWriteAttempts

/-- `confirm_operation`. -/
def confirmOperation (scope : AccessScope) (operationId : UUID)
    (requestId : String) (clock : Nat -> Time) : Call OperationServiceResult := do
  let operation ← getOperation scope operationId
  Program.require (operation.requiresManualReview = true)
    (Failure.valueError "automatic operations must use submit_confirmed_operation")
  changeFromPending scope operationId requestId PendingAction.confirmed clock

/-- `cancel_pending_operation`. -/
def cancelPendingOperation (scope : AccessScope) (operationId : UUID)
    (requestId : String) (clock : Nat -> Time) : Call OperationServiceResult :=
  changeFromPending scope operationId requestId PendingAction.cancelled clock

/-!
## Submission
-/

/-- What the synchronous provider returns for a submitted operation. -/
structure SubmittedOperation where
  operationId : String
  providerReference : Option String

/-- `provider_operation.provider_reference or provider_operation.operation_id`. -/
def SubmittedOperation.reference (s : SubmittedOperation) : String :=
  match s.providerReference with
  | some r => if r = "" then s.operationId else r
  | none => s.operationId

/-- The update and the events of a submission. -/
def submission (current : OrderOperation) (reference key actor : String)
    (statusId confirmationId : UUID) (now : Time) :
    Except Failure OperationServiceResult := do
  let updated :=
    current.withStatus OperationRecordStatus.submitted (some reference) now
  let status ← statusUpdateEvent current updated statusId (key ++ ":status") actor
  pure
    { action := OperationServiceAction.submitted
      operation := updated
      events := [confirmationRecordedEvent current confirmationId key actor
        updated.updatedAt, status] }

/-- The write attempts of `submit_confirmed_operation`. -/
def submitAttempts (scope : AccessScope) (operationId : UUID) (key : String)
    (provider : Nat -> Except Failure SubmittedOperation) (clock : Nat -> Time) :
    Nat -> Call OperationServiceResult
  | 0 => Program.raise (Failure.concurrentOperationUpdate
      "Could not submit the operation after concurrent write conflicts")
  | n + 1 => do
      let current ← getOperation scope operationId
      Program.require (current.requiresManualReview = false)
        (Failure.valueError
          "manual-review operations must not be submitted to a provider")
      if current.status = OperationRecordStatus.submitted ∧
          current.providerReference ≠ none then
        pure
          { action := OperationServiceAction.statusUnchanged
            operation := current
            events := [] }
      else do
        Program.require
          (current.status = OperationRecordStatus.pendingConfirmation)
          (Failure.invalidOperationStatusTransition "cannot submit an operation")
        let submitted ← Program.done (provider n)
        let statusId ← freshId
        let confirmationId ← freshId
        let result ← Program.done (submission current submitted.reference key
          scope.identity statusId confirmationId (clock n))
        updateOrRetry scope key current result
          (submitAttempts scope operationId key provider clock n)

/-- `submit_confirmed_operation`. -/
def submitConfirmedOperation (scope : AccessScope) (operationId : UUID)
    (requestId : String) (provider : Nat -> Except Failure SubmittedOperation)
    (clock : Nat -> Time) : Call OperationServiceResult := do
  let request ← Program.done (normalizeRequestId requestId)
  let key := operationKey operationId ("submitted:" ++ request)
  let prior ← Program.perform (findEventByIdempotencyKey scope key)
  match prior with
  | some event => unchangedResult scope event.operationId
  | none => submitAttempts scope operationId key provider clock maxWriteAttempts

/-!
## Queueing
-/

/-- The update and the events of a queued operation. -/
def queueing (current : OrderOperation) (request actor : String)
    (statusId confirmationId : UUID) (now updatedAt : Time) :
    Except Failure OperationServiceResult := do
  let queued := current.withStatus OperationRecordStatus.queued none updatedAt
  let status ← statusUpdateEvent current queued statusId
    (operationKey current.operationId ("queued:" ++ request)) actor
  pure
    { action := OperationServiceAction.queued
      operation := queued
      events := [confirmationRecordedEvent current confirmationId
        (operationKey current.operationId ("confirmed:" ++ request)) actor now,
        status] }

/-- `queue_confirmed_operation`. -/
def queueConfirmedOperation (scope : AccessScope) (operationId : UUID)
    (requestId connectionId : String) (clock : Nat -> Time) :
    Call OperationServiceResult := do
  let request ← Program.done (normalizeRequestId requestId)
  match CleanText.parse? (Text.strip connectionId) with
  | none => Program.raise (Failure.valueError "connection_id must not be empty")
  | some connection => do
      let current ← getOperation scope operationId
      Program.require (current.requiresManualReview = false)
        (Failure.valueError
          "manual-review operations must not enter the provider outbox")
      if current.status = OperationRecordStatus.queued then
        pure
          { action := OperationServiceAction.statusUnchanged
            operation := current
            events := [] }
      else do
        Program.require
          (current.status = OperationRecordStatus.pendingConfirmation)
          (Failure.invalidOperationStatusTransition "cannot queue an operation")
        let statusId ← freshId
        let confirmationId ← freshId
        let result ← Program.done (queueing current request scope.identity statusId
          confirmationId (clock 0) (clock 1))
        let commandId ← freshId
        let command := ProviderCommandEnvelope.forOrderOperation result.operation
          connection commandId
        Program.require (command.valid = true)
          (Failure.validationError "ProviderCommandEnvelope")
        Program.perform (queueOperationWithEventsAndCommand scope result.operation
          result.events command current.version)
        pure result

/-!
## Support cases
-/

/-- The update and the event of a linked support case. -/
def attachment (current : OrderOperation) (supportCaseId eventId : UUID)
    (key : String) (now : Time) : OperationServiceResult :=
  { action := OperationServiceAction.supportCaseAttached
    operation :=
      { current with
        supportCaseId := some supportCaseId
        updatedAt := now
        version := current.version + 1 }
    events := [supportCaseAttachedEvent current eventId key supportCaseId now] }

/-- The write attempts of `attach_support_case`. -/
def attachAttempts (scope : AccessScope) (operationId supportCaseId : UUID)
    (key : String) (clock : Nat -> Time) : Nat -> Call OperationServiceResult
  | 0 => Program.raise (Failure.concurrentOperationUpdate
      "Could not attach the support case after concurrent write conflicts")
  | n + 1 => do
      let current ← getOperation scope operationId
      Program.require (current.requiresManualReview = true ∧
          current.status = OperationRecordStatus.manualReview)
        (Failure.valueError "only a manual-review operation may receive a support case")
      match current.supportCaseId with
      | some attached =>
          if attached = supportCaseId then
            pure
              { action := OperationServiceAction.statusUnchanged
                operation := current
                events := [] }
          else
            Program.raise (Failure.valueError
              "a manual-review operation already has a support case")
      | none => do
          let eventId ← freshId
          updateOrRetry scope key current
            (attachment current supportCaseId eventId key (clock n))
            (attachAttempts scope operationId supportCaseId key clock n)

/-- `attach_support_case`. -/
def attachSupportCase (scope : AccessScope) (operationId supportCaseId : UUID)
    (requestId : String) (clock : Nat -> Time) : Call OperationServiceResult := do
  let request ← Program.done (normalizeRequestId requestId)
  let key := operationKey operationId ("support-case:" ++ request)
  let prior ← Program.perform (findEventByIdempotencyKey scope key)
  match prior with
  | some event => unchangedResult scope event.operationId
  | none =>
      attachAttempts scope operationId supportCaseId key clock maxWriteAttempts

end RefundAgent
