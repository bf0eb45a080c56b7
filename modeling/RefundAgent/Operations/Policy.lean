import RefundAgent.Model.Database

/-!
# Order-operation and delivery policy

Both policies are functions of the request, one order snapshot and the clock.
The delivery window of a return or exchange is the only rule in which the clock
and the snapshot meet.
-/

namespace RefundAgent

open Foundation

/-- `RETURN_WINDOW_DAYS`, in microseconds. -/
def returnWindow : Time := 7 * 24 * 60 * 60 * 1000000

/-- `TRACKING_STALLED_HOURS`, in microseconds. -/
def trackingStalled : Time := 72 * 60 * 60 * 1000000

/-- `CurrencyThresholds`: amounts in hundredths by currency, not always whole ones. -/
abbrev CurrencyThresholds := String -> Option Rat

namespace OperationType

def word : OperationType -> String
  | cancellation => "cancellation"
  | OperationType.return => "return"
  | exchange => "exchange"

/-- `str.title()` of the word. -/
def title : OperationType -> String
  | cancellation => "Cancellation"
  | OperationType.return => "Return"
  | exchange => "Exchange"

end OperationType

/-!
## Decisions
-/

/-- `_eligible`. -/
def eligibleDecision (operationType : OperationType) (reasonCode displayReason : String) :
    OperationDecision :=
  { outcome := OperationOutcome.eligible
    operationType := operationType
    requiresConfirmation := true
    reasonCodes := [reasonCode]
    displayReason := displayReason
    existingOperation := none
    caseRecommendation := none
    outcomeValid := by simp }

/-- `_manual`. -/
def manualDecision (operationType : OperationType) (reasonCode displayReason : String)
    (priority : CasePriority) : OperationDecision :=
  { outcome := OperationOutcome.manualReview
    operationType := operationType
    requiresConfirmation := true
    reasonCodes := [reasonCode]
    displayReason := displayReason
    existingOperation := none
    caseRecommendation := some
      { caseType := CaseType.orderOperationReview
        priority := priority
        reasonCodes := [reasonCode] }
    outcomeValid := by simp }

/-- `_rejected`. -/
def rejectedDecision (operationType : OperationType) (reasonCode displayReason : String) :
    OperationDecision :=
  { outcome := OperationOutcome.rejected
    operationType := operationType
    requiresConfirmation := false
    reasonCodes := [reasonCode]
    displayReason := displayReason
    existingOperation := none
    caseRecommendation := none
    outcomeValid := by simp }

/-- `_existing`. -/
def existingDecision (operationType : OperationType) (existing : ExistingOperation) :
    OperationDecision :=
  { outcome := OperationOutcome.existingOperation
    operationType := operationType
    requiresConfirmation := false
    reasonCodes := ["operation_already_exists"]
    displayReason := "An existing order operation is already being handled."
    existingOperation := some existing
    caseRecommendation := none
    outcomeValid := by simp }

/-!
## Facts of a snapshot
-/

/-- `_has_contradictory_lifecycle`. -/
def hasContradictoryLifecycle (snapshot : OrderSnapshot) : Bool :=
  if snapshot.fulfillmentStatus = FulfillmentStatus.delivered ∧
      snapshot.deliveredAt = none then
    true
  else if snapshot.fulfillmentStatus ≠ FulfillmentStatus.delivered ∧
      snapshot.deliveredAt ≠ none then
    true
  else if snapshot.fulfillmentStatus = FulfillmentStatus.unfulfilled ∧
      snapshot.shippedAt ≠ none then
    true
  else if (snapshot.fulfillmentStatus = FulfillmentStatus.shipped ∨
      snapshot.fulfillmentStatus = FulfillmentStatus.delivered) ∧
      snapshot.shippedAt = none then
    true
  else if snapshot.orderStatus = OrderStatus.pendingPayment ∧
      snapshot.fulfillmentStatus ≠ FulfillmentStatus.unfulfilled then
    true
  else if snapshot.orderStatus = OrderStatus.cancelled ∧
      snapshot.fulfillmentStatus ≠ FulfillmentStatus.unfulfilled then
    true
  else
    snapshot.deliveredAt.any fun deliveredAt => decide (deliveredAt < snapshot.createdAt)

/-- `_ACTIVE_OPERATION_STATUSES`, as far as an existing operation can have them. -/
def ExistingOperation.active (operation : ExistingOperation) : Bool :=
  decide (operation.status ≠ OperationStatus.rejected)

/-- `_conflicting_operation`. -/
def conflictingOperation (snapshot : OrderSnapshot) : Option ExistingOperation :=
  snapshot.existingOperations.find? ExistingOperation.active

/-- A refund is under way or done. -/
def OrderSnapshot.refunding (snapshot : OrderSnapshot) : Bool :=
  decide (snapshot.paymentStatus = PaymentStatus.refundPending ∨
    snapshot.paymentStatus = PaymentStatus.refunded)

/-!
## Operations
-/

/-- `_evaluate_cancellation`. -/
def evaluateCancellation (snapshot : OrderSnapshot) : OperationDecision :=
  if snapshot.orderStatus = OrderStatus.cancelled then
    { outcome := OperationOutcome.alreadyCompleted
      operationType := OperationType.cancellation
      requiresConfirmation := false
      reasonCodes := ["order_already_cancelled"]
      displayReason := "This order has already been cancelled."
      existingOperation := none
      caseRecommendation := none
      outcomeValid := by simp }
  else if snapshot.refunding then
    rejectedDecision OperationType.cancellation "cancellation_payment_already_refunded"
      "This order already has a refund in progress or completed."
  else if snapshot.fulfillmentStatus = FulfillmentStatus.shipped ∨
      snapshot.fulfillmentStatus = FulfillmentStatus.delivered then
    rejectedDecision OperationType.cancellation "cancellation_fulfillment_started"
      "This order can no longer be cancelled after fulfillment has started."
  else if snapshot.fulfillmentStatus = FulfillmentStatus.processing then
    manualDecision OperationType.cancellation "cancellation_fulfillment_processing"
      "This cancellation needs warehouse review." CasePriority.p1
  else if snapshot.orderStatus = OrderStatus.pendingPayment ∨
      snapshot.orderStatus = OrderStatus.confirmed then
    eligibleDecision OperationType.cancellation "cancellation_eligible"
      "This order can be cancelled."
  else
    manualDecision OperationType.cancellation "cancellation_state_invalid"
      "This cancellation needs manual review." CasePriority.p1

/-- `_evaluate_return_or_exchange` after the delivery window has been checked. -/
def evaluateEligibility (operationType : OperationType) (snapshot : OrderSnapshot)
    (thresholds : CurrencyThresholds) : OperationDecision :=
  let eligibility :=
    if operationType = OperationType.return then snapshot.returnEligible
    else snapshot.exchangeEligible
  match eligibility with
  | some false =>
      rejectedDecision operationType (operationType.word ++ "_not_eligible")
        ("This order is not eligible for " ++ operationType.word ++ ".")
  | none =>
      manualDecision operationType (operationType.word ++ "_eligibility_unknown")
        (operationType.title ++ " eligibility needs manual review.") CasePriority.p1
  | some true =>
      match thresholds snapshot.currency with
      | none =>
          manualDecision operationType "currency_threshold_unconfigured"
            "This currency needs manual review." CasePriority.p1
      | some threshold =>
          if operationType = OperationType.return ∧ threshold ≤ (snapshot.amount : Rat) then
            manualDecision OperationType.return "return_manual_amount_review"
              "This return amount needs manual review." CasePriority.p1
          else
            eligibleDecision operationType (operationType.word ++ "_eligible")
              ("This order is eligible for " ++ operationType.word ++ ".")

/-- `_evaluate_return_or_exchange`. -/
def evaluateReturnOrExchange (operationType : OperationType) (snapshot : OrderSnapshot)
    (now : Time) (thresholds : CurrencyThresholds) : OperationDecision :=
  if snapshot.refunding then
    rejectedDecision operationType "operation_payment_already_refunded"
      "This order already has a refund in progress or completed."
  else if snapshot.fulfillmentStatus ≠ FulfillmentStatus.delivered then
    rejectedDecision operationType "operation_not_delivered"
      "This order must be delivered before a return or exchange can be requested."
  else
    match snapshot.deliveredAt with
    | none =>
        manualDecision operationType "operation_delivery_date_invalid"
          "Delivery timing needs manual review." CasePriority.p1
    | some deliveredAt =>
        if now < deliveredAt then
          manualDecision operationType "operation_delivery_date_invalid"
            "Delivery timing needs manual review." CasePriority.p1
        else if deliveredAt + returnWindow < now then
          rejectedDecision operationType "operation_return_window_expired"
            "This order is past the return and exchange deadline."
        else
          evaluateEligibility operationType snapshot thresholds

/-- `_evaluate_exchange`. -/
def evaluateExchange (snapshot : OrderSnapshot) (now : Time)
    (thresholds : CurrencyThresholds) (replacementAvailable : Option Bool) :
    OperationDecision :=
  let base := evaluateReturnOrExchange OperationType.exchange snapshot now thresholds
  if base.outcome ≠ OperationOutcome.eligible then
    base
  else
    match replacementAvailable with
    | some false =>
        rejectedDecision OperationType.exchange "exchange_replacement_unavailable"
          "The requested replacement is unavailable."
    | none =>
        manualDecision OperationType.exchange "exchange_inventory_unknown"
          "Replacement availability needs manual review." CasePriority.p2
    | some true =>
        eligibleDecision OperationType.exchange "exchange_eligible"
          "This order is eligible for exchange."

/-- The decision of `evaluate_operation` on a snapshot of the requested order. -/
def operationPolicy (operationType : OperationType) (snapshot : OrderSnapshot)
    (now : Time) (thresholds : CurrencyThresholds)
    (replacementAvailable : Option Bool) : OperationDecision :=
  if hasContradictoryLifecycle snapshot then
    manualDecision operationType "order_state_invalid" "Order state needs manual review."
      CasePriority.p1
  else
    match conflictingOperation snapshot with
    | some existing => existingDecision operationType existing
    | none =>
        match operationType with
        | OperationType.cancellation => evaluateCancellation snapshot
        | OperationType.return =>
            evaluateReturnOrExchange OperationType.return snapshot now thresholds
        | OperationType.exchange =>
            evaluateExchange snapshot now thresholds replacementAvailable

/-- `evaluate_operation`. -/
def evaluateOperation (request : OrderOperationRequest) (snapshot : OrderSnapshot)
    (now : Time) (thresholds : CurrencyThresholds)
    (replacementAvailable : Option Bool) : Except Failure OperationDecision :=
  if request.orderId ≠ snapshot.orderId then
    Except.error
      (Failure.valueError "request and snapshot must have the same order_id")
  else
    Except.ok (operationPolicy request.operationType snapshot now thresholds
      replacementAvailable)

/-!
## Delivery issues
-/

/-- `_delivery_manual`. -/
def deliveryManual (issueType : DeliveryIssueType) (reasonCode displayReason : String)
    (priority : CasePriority) : DeliveryDecision :=
  { outcome := DeliveryOutcome.manualReview
    issueType := issueType
    reasonCodes := [reasonCode]
    displayReason := displayReason
    caseRecommendation := some
      { caseType := CaseType.deliveryInvestigation
        priority := priority
        reasonCodes := [reasonCode] }
    outcomeValid := by simp }

/-- `_delivery_self_service`. -/
def deliverySelfService (issueType : DeliveryIssueType)
    (reasonCode displayReason : String) : DeliveryDecision :=
  { outcome := DeliveryOutcome.selfService
    issueType := issueType
    reasonCodes := [reasonCode]
    displayReason := displayReason
    caseRecommendation := none
    outcomeValid := by simp }

/-- `_evaluate_tracking_stalled`. -/
def evaluateTrackingStalled (snapshot : OrderSnapshot) (now : Time) : DeliveryDecision :=
  match snapshot.lastTrackingEventAt with
  | none =>
      deliveryManual DeliveryIssueType.trackingStalled "delivery_data_invalid"
        "Tracking data needs investigation." CasePriority.p1
  | some lastTrackingEventAt =>
      if snapshot.fulfillmentStatus ≠ FulfillmentStatus.shipped ∨
          now < lastTrackingEventAt then
        deliveryManual DeliveryIssueType.trackingStalled "delivery_data_invalid"
          "Tracking data needs investigation." CasePriority.p1
      else if trackingStalled ≤ now - lastTrackingEventAt then
        deliveryManual DeliveryIssueType.trackingStalled "delivery_tracking_stalled"
          "Tracking has not updated for 72 hours." CasePriority.p1
      else
        deliverySelfService DeliveryIssueType.trackingStalled "delivery_tracking_recent"
          "Tracking is still updating."

/-- `_evaluate_delayed`. -/
def evaluateDelayed (snapshot : OrderSnapshot) (now : Time)
    (investigationRequested : Bool) : DeliveryDecision :=
  match snapshot.promisedDeliveryAt with
  | none =>
      deliveryManual DeliveryIssueType.delayed "delivery_data_invalid"
        "Delivery timing needs investigation." CasePriority.p1
  | some promisedDeliveryAt =>
      if snapshot.fulfillmentStatus = FulfillmentStatus.delivered ∨
          now ≤ promisedDeliveryAt then
        deliverySelfService DeliveryIssueType.delayed "delivery_not_overdue"
          "The order is not confirmed as overdue."
      else if investigationRequested = true ∨ snapshot.lastTrackingEventAt = none then
        deliveryManual DeliveryIssueType.delayed "delivery_overdue_investigation"
          "The delayed delivery needs investigation." CasePriority.p2
      else
        deliverySelfService DeliveryIssueType.delayed "delivery_overdue"
          "The order is delayed; current tracking is available."

/-- The decision of `evaluate_delivery_issue` on a snapshot of the reported order. -/
def deliveryPolicy (issueType : DeliveryIssueType) (investigationRequested : Bool)
    (snapshot : OrderSnapshot) (now : Time) : DeliveryDecision :=
  if hasContradictoryLifecycle snapshot then
    deliveryManual issueType "delivery_data_invalid" "Delivery data needs investigation."
      CasePriority.p1
  else
    match issueType with
    | DeliveryIssueType.trackingStalled => evaluateTrackingStalled snapshot now
    | DeliveryIssueType.delayed => evaluateDelayed snapshot now investigationRequested
    | DeliveryIssueType.deliveryFailed =>
        deliveryManual issueType "delivery_failed"
          "Delivery needs a redelivery or address review." CasePriority.p2
    | DeliveryIssueType.markedDeliveredNotReceived =>
        deliveryManual issueType "delivery_marked_received_dispute"
          "Your delivery report needs investigation." CasePriority.p1
    | DeliveryIssueType.packageDamaged =>
        deliveryManual issueType "delivery_damage_claim"
          "Your damage report needs review." CasePriority.p1
    | DeliveryIssueType.wrongItemOrMissingParts =>
        { outcome := DeliveryOutcome.offerReturnExchange
          issueType := issueType
          reasonCodes := ["delivery_wrong_item_or_missing_parts_claim"]
          displayReason := "We can evaluate a return or exchange request."
          caseRecommendation := none
          outcomeValid := by simp }
    | DeliveryIssueType.otherDeliveryIssue =>
        deliveryManual issueType "delivery_other_issue"
          "Your delivery report needs review." CasePriority.p2

/-- `evaluate_delivery_issue`. -/
def evaluateDeliveryIssue (request : DeliveryIssueRequest) (snapshot : OrderSnapshot)
    (now : Time) : Except Failure DeliveryDecision :=
  if request.orderId ≠ snapshot.orderId then
    Except.error
      (Failure.valueError "request and snapshot must have the same order_id")
  else
    Except.ok (deliveryPolicy request.issueType request.investigationRequested snapshot
      now)

end RefundAgent
