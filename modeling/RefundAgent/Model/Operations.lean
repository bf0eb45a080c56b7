import RefundAgent.Model.Vocabulary

/-!
# Order operations

Requests, policy decisions, the persisted aggregate and its events.  A text
field of a stripping model is a `CleanText`.  The provider reference of a
stored operation is the one text column that is written raw, so it stays a
`String` and is stripped whenever the row is read through the model.

Amount, currency, the display text and the creation stamp of an operation are
stored but read by nothing that is modelled; they are left out.  So are the
owner fields of an order snapshot.
-/

namespace RefundAgent

open Foundation

def cancellationReasons : List OperationReason :=
  [OperationReason.orderedByMistake, OperationReason.noLongerNeeded,
    OperationReason.incorrectItemOrQuantity, OperationReason.deliveryTooSlow,
    OperationReason.paymentIssue, OperationReason.other]

/-- `validate_operation_specific_fields`. -/
def operationSpecificFieldsValid (operationType : OperationType)
    (reason : OperationReason) (replacementVariantId : Option CleanText) : Bool :=
  match operationType with
  | OperationType.cancellation =>
      decide (reason ∈ cancellationReasons) && replacementVariantId.isNone
  | OperationType.return =>
      !decide (reason ∈ cancellationReasons ∧ reason ≠ OperationReason.other) &&
        replacementVariantId.isNone
  | OperationType.exchange =>
      !decide (reason ∈ cancellationReasons ∧ reason ≠ OperationReason.other) &&
        replacementVariantId.isSome

structure OrderOperationRequest where
  threadId : CleanText
  sourceMessageId : CleanText
  orderId : OrderId
  operationType : OperationType
  reason : OperationReason
  replacementVariantId : Option CleanText
  customerId : CleanText
  tenantId : CleanText
  fieldsValid :
    operationSpecificFieldsValid operationType reason replacementVariantId = true

structure ExistingOperation where
  operationId : CleanText
  operationType : ExistingOperationType
  status : OperationStatus
  providerReference : Option CleanText
deriving DecidableEq

/-- The pattern `^[A-Z]{3}$`. -/
def matchesCurrencyPattern (s : String) : Bool :=
  s.length == 3 && s.toList.all fun c => 'A' ≤ c && c ≤ 'Z'

/-- `OrderSnapshot`; the amount has two decimal places and is counted in hundredths. -/
structure OrderSnapshot where
  orderId : OrderId
  version : Nat
  amount : Nat
  currency : String
  orderStatus : OrderStatus
  paymentStatus : PaymentStatus
  fulfillmentStatus : FulfillmentStatus
  createdAt : Time
  shippedAt : Option Time
  deliveredAt : Option Time
  promisedDeliveryAt : Option Time
  lastTrackingEventAt : Option Time
  returnEligible : Option Bool
  exchangeEligible : Option Bool
  existingOperations : List ExistingOperation
  version_pos : 1 ≤ version
  currency_valid : matchesCurrencyPattern currency = true

structure CaseRecommendation where
  caseType : CaseType
  priority : CasePriority
  reasonCodes : List String
deriving DecidableEq

/-- `OperationDecision`; `validate_outcome_fields` is the field `outcomeValid`. -/
structure OperationDecision where
  outcome : OperationOutcome
  operationType : OperationType
  requiresConfirmation : Bool
  reasonCodes : List String
  displayReason : String
  existingOperation : Option ExistingOperation
  caseRecommendation : Option CaseRecommendation
  outcomeValid :
    (outcome = OperationOutcome.existingOperation ↔ existingOperation.isSome = true) ∧
    (outcome = OperationOutcome.eligible ∨ outcome = OperationOutcome.manualReview ↔
      requiresConfirmation = true) ∧
    (outcome = OperationOutcome.manualReview ↔ caseRecommendation.isSome = true)

structure DeliveryIssueRequest where
  threadId : CleanText
  sourceMessageId : CleanText
  orderId : OrderId
  issueType : DeliveryIssueType
  investigationRequested : Bool

/-- `DeliveryDecision`; `validate_outcome_fields` is the field `outcomeValid`. -/
structure DeliveryDecision where
  outcome : DeliveryOutcome
  issueType : DeliveryIssueType
  reasonCodes : List String
  displayReason : String
  caseRecommendation : Option CaseRecommendation
  outcomeValid :
    outcome = DeliveryOutcome.manualReview ↔ caseRecommendation.isSome = true

structure OrderOperation where
  operationId : UUID
  idempotencyKey : String
  threadId : CleanText
  sourceMessageId : CleanText
  orderId : OrderId
  operationType : OperationType
  requestReasonCode : OperationReason
  policyReasonCodes : List String
  replacementVariantId : Option CleanText
  requestExcerpt : CleanText
  orderVersion : Nat
  requiresManualReview : Bool
  reviewCaseType : Option CaseType
  reviewPriority : Option CasePriority
  supportCaseId : Option UUID
  providerReference : Option String
  status : OperationRecordStatus
  createdAt : Time
  updatedAt : Time
  version : Nat
  customerId : CleanText
  tenantId : CleanText
deriving DecidableEq

namespace OrderOperation

/-- The review metadata is present exactly for a manual review. -/
def reviewValid (o : OrderOperation) : Bool :=
  if o.requiresManualReview then
    decide (o.reviewCaseType = some CaseType.orderOperationReview) &&
      decide (o.reviewPriority = some CasePriority.p1 ∨
        o.reviewPriority = some CasePriority.p2)
  else
    o.reviewCaseType.isNone && o.reviewPriority.isNone

/-- `validate_persisted_operation` with the field bounds. -/
def valid (o : OrderOperation) : Bool :=
  operationSpecificFieldsValid o.operationType o.requestReasonCode
      o.replacementVariantId &&
    o.reviewValid &&
    (o.supportCaseId.isNone || o.requiresManualReview) &&
    decide (o.createdAt ≤ o.updatedAt) &&
    decide (o.requestExcerpt.text.length ≤ 500) &&
    decide (1 ≤ o.orderVersion) &&
    decide (o.policyReasonCodes ≠ []) &&
    decide (1 ≤ o.version)

/--
The CHECK constraints of `order_operations` that an update can violate:
`ck_order_operations_manual_review`, `ck_order_operations_support_case` and
`ck_order_operations_timestamps`.
-/
def checks (o : OrderOperation) : Bool :=
  o.reviewValid && (o.supportCaseId.isNone || o.requiresManualReview) &&
    decide (o.createdAt ≤ o.updatedAt)

/-- The statuses covered by `uq_order_operations_active_order`. -/
def active (o : OrderOperation) : Bool :=
  decide (o.status = OperationRecordStatus.pendingConfirmation ∨
    o.status = OperationRecordStatus.queued ∨
    o.status = OperationRecordStatus.submitted ∨
    o.status = OperationRecordStatus.processing ∨
    o.status = OperationRecordStatus.manualReview)

end OrderOperation

structure OrderOperationEvent where
  eventId : UUID
  idempotencyKey : String
  operationId : UUID
  eventType : OperationEventType
  previousStatus : Option OperationRecordStatus
  currentStatus : Option OperationRecordStatus
  providerReference : Option CleanText
  supportCaseId : Option UUID
  actor : String
  customerId : CleanText
  tenantId : CleanText
  createdAt : Time
deriving DecidableEq

namespace OrderOperationEvent

def isStatusChange (e : OrderOperationEvent) : Bool :=
  decide (e.eventType = OperationEventType.statusChanged)

end OrderOperationEvent

structure OperationServiceResult where
  action : OperationServiceAction
  operation : OrderOperation
  events : List OrderOperationEvent
deriving DecidableEq

/-- `_ALLOWED_STATUS_TRANSITIONS` of the operation service. -/
def allowedStatusTransitions :
    OperationRecordStatus -> List OperationRecordStatus
  | OperationRecordStatus.pendingConfirmation =>
      [OperationRecordStatus.queued, OperationRecordStatus.submitted,
        OperationRecordStatus.manualReview, OperationRecordStatus.rejected,
        OperationRecordStatus.cancelledByCustomer]
  | OperationRecordStatus.queued =>
      [OperationRecordStatus.submitted, OperationRecordStatus.manualReview,
        OperationRecordStatus.rejected]
  | OperationRecordStatus.submitted =>
      [OperationRecordStatus.processing, OperationRecordStatus.completed,
        OperationRecordStatus.rejected]
  | OperationRecordStatus.processing =>
      [OperationRecordStatus.completed, OperationRecordStatus.rejected]
  | OperationRecordStatus.manualReview =>
      [OperationRecordStatus.processing, OperationRecordStatus.completed,
        OperationRecordStatus.rejected]
  | OperationRecordStatus.completed => []
  | OperationRecordStatus.rejected => []
  | OperationRecordStatus.cancelledByCustomer => []

end RefundAgent
