import RefundAgent.System.Reasons
import RefundAgent.System.World
import RefundAgent.Graph.Turn

/-!
# The two policy layers

A manual-review outcome of the order or delivery policy carries a recommendation
of a case, with a type and a priority of its own.  The handoff later ignores the
recommendation and derives type and priority from the reason codes.  This module
compares the two over every branch of both policies.
-/

namespace RefundAgent

open Foundation

/-- The handoff input whose only facts are reasons of a domain policy. -/
def domainInput (codes : List HandoffReason) : HandoffPolicyInput :=
  { hardCriticalCategories := []
    semanticRiskLevel := none
    semanticRiskCategories := []
    refundRequiresManualReview := false
    humanHandoffConfirmed := false
    staffComplaintSeverity := none
    explicitOtherComplaint := false
    domainCaseReasonCodes := codes
    riskValid := by simp }

/-- The handoff decision on reason codes alone; unknown codes are refused. -/
def handoffOf (codes : List String) : Except Failure HandoffDecision :=
  (parseReasons codes).map fun reasons => determineHandoffPolicy (domainInput reasons)

/--
The codes are known to the handoff policy, and its decision on them has the type
and the priority that are recommended.
-/
def LayersAgree (codes : List String) (recommendation : Option CaseRecommendation) : Prop :=
  exists decision r, handoffOf codes = Except.ok decision ∧ recommendation = some r ∧
    decision.caseType = some r.caseType ∧ decision.priority = some r.priority

theorem handoffOf_singleton {code : String} {reason : HandoffReason}
    (h : HandoffReason.parse? code = some reason) :
    handoffOf [code] = Except.ok (positiveDecision reason []) := by
  unfold handoffOf parseReasons
  rw [h]
  rfl

theorem layersAgree_singleton {code : String} {r : CaseRecommendation}
    {reason : HandoffReason} (h : HandoffReason.parse? code = some reason) :
    LayersAgree [code] (some r) ↔
      reason.caseType = r.caseType ∧ reason.priority = r.priority := by
  constructor
  · rintro ⟨decision, r', hdecision, hr, htype, hpriority⟩
    rw [handoffOf_singleton h] at hdecision
    cases hdecision
    cases hr
    exact ⟨Option.some.inj htype, Option.some.inj hpriority⟩
  · rintro ⟨htype, hpriority⟩
    exact ⟨positiveDecision reason [], r, handoffOf_singleton h, rfl,
      congrArg some htype, congrArg some hpriority⟩

/-!
## Operations
-/

/-- If the decision asks for a review, then the handoff policy agrees with it. -/
def OperationDecision.Grounded (d : OperationDecision) : Prop :=
  d.outcome = OperationOutcome.manualReview ->
    LayersAgree d.reasonCodes d.caseRecommendation

namespace OperationDecision.Grounded

variable {t : OperationType} {code text : String}

theorem eligible : (eligibleDecision t code text).Grounded := by
  intro h
  cases h

theorem rejected : (rejectedDecision t code text).Grounded := by
  intro h
  cases h

theorem manual {p : CasePriority} (reason : HandoffReason)
    (hparse : HandoffReason.parse? code = some reason)
    (htype : reason.caseType = CaseType.orderOperationReview)
    (hpriority : reason.priority = p) : (manualDecision t code text p).Grounded := by
  intro _
  exact (layersAgree_singleton hparse).mpr ⟨htype, hpriority⟩

end OperationDecision.Grounded

open OperationDecision

theorem evaluateCancellation_grounded (snapshot : OrderSnapshot) :
    (evaluateCancellation snapshot).Grounded := by
  unfold evaluateCancellation
  split
  · intro h
    cases h
  · split
    · exact Grounded.rejected
    · split
      · exact Grounded.rejected
      · split
        · exact Grounded.manual HandoffReason.cancellationFulfillmentProcessing rfl rfl rfl
        · split
          · exact Grounded.eligible
          · exact Grounded.manual HandoffReason.cancellationStateInvalid rfl rfl rfl

theorem evaluateEligibility_grounded {t : OperationType}
    (ht : t = OperationType.return ∨ t = OperationType.exchange) (snapshot : OrderSnapshot)
    (thresholds : CurrencyThresholds) :
    (evaluateEligibility t snapshot thresholds).Grounded := by
  unfold evaluateEligibility
  dsimp only
  split
  · exact Grounded.rejected
  · rcases ht with rfl | rfl
    · exact Grounded.manual HandoffReason.returnEligibilityUnknown rfl rfl rfl
    · exact Grounded.manual HandoffReason.exchangeEligibilityUnknown rfl rfl rfl
  · split
    · exact Grounded.manual HandoffReason.currencyThresholdUnconfigured rfl rfl rfl
    · split
      · exact Grounded.manual HandoffReason.returnManualAmountReview rfl rfl rfl
      · exact Grounded.eligible

theorem evaluateReturnOrExchange_grounded {t : OperationType}
    (ht : t = OperationType.return ∨ t = OperationType.exchange) (snapshot : OrderSnapshot)
    (now : Time) (thresholds : CurrencyThresholds) :
    (evaluateReturnOrExchange t snapshot now thresholds).Grounded := by
  unfold evaluateReturnOrExchange
  split
  · exact Grounded.rejected
  · split
    · exact Grounded.rejected
    · split
      · exact Grounded.manual HandoffReason.operationDeliveryDateInvalid rfl rfl rfl
      · split
        · exact Grounded.manual HandoffReason.operationDeliveryDateInvalid rfl rfl rfl
        · split
          · exact Grounded.rejected
          · exact evaluateEligibility_grounded ht snapshot thresholds

theorem evaluateExchange_grounded (snapshot : OrderSnapshot) (now : Time)
    (thresholds : CurrencyThresholds) (replacementAvailable : Option Bool) :
    (evaluateExchange snapshot now thresholds replacementAvailable).Grounded := by
  unfold evaluateExchange
  dsimp only
  split
  · exact evaluateReturnOrExchange_grounded (Or.inr rfl) snapshot now thresholds
  · split
    · exact Grounded.rejected
    · exact Grounded.manual HandoffReason.exchangeInventoryUnknown rfl rfl rfl
    · exact Grounded.eligible

theorem operationPolicy_grounded (t : OperationType) (snapshot : OrderSnapshot) (now : Time)
    (thresholds : CurrencyThresholds) (replacementAvailable : Option Bool) :
    (operationPolicy t snapshot now thresholds replacementAvailable).Grounded := by
  unfold operationPolicy
  split
  · exact Grounded.manual HandoffReason.orderStateInvalid rfl rfl rfl
  · split
    · intro h
      cases h
    · cases t with
      | cancellation => exact evaluateCancellation_grounded snapshot
      | «return» =>
          exact evaluateReturnOrExchange_grounded (Or.inl rfl) snapshot now thresholds
      | exchange =>
          exact evaluateExchange_grounded snapshot now thresholds replacementAvailable

/-!
## Delivery issues
-/

/-- If the report needs an investigation, then the handoff policy agrees with it. -/
def DeliveryDecision.Grounded (d : DeliveryDecision) : Prop :=
  d.outcome = DeliveryOutcome.manualReview ->
    LayersAgree d.reasonCodes d.caseRecommendation

namespace DeliveryDecision.Grounded

variable {t : DeliveryIssueType} {code text : String}

theorem selfService : (deliverySelfService t code text).Grounded := by
  intro h
  cases h

theorem manual {p : CasePriority} (reason : HandoffReason)
    (hparse : HandoffReason.parse? code = some reason)
    (htype : reason.caseType = CaseType.deliveryInvestigation)
    (hpriority : reason.priority = p) : (deliveryManual t code text p).Grounded := by
  intro _
  exact (layersAgree_singleton hparse).mpr ⟨htype, hpriority⟩

end DeliveryDecision.Grounded

theorem evaluateTrackingStalled_grounded (snapshot : OrderSnapshot) (now : Time) :
    (evaluateTrackingStalled snapshot now).Grounded := by
  unfold evaluateTrackingStalled
  split
  · exact DeliveryDecision.Grounded.manual HandoffReason.deliveryDataInvalid rfl rfl rfl
  · split
    · exact DeliveryDecision.Grounded.manual HandoffReason.deliveryDataInvalid rfl rfl rfl
    · split
      · exact DeliveryDecision.Grounded.manual HandoffReason.deliveryTrackingStalled
          rfl rfl rfl
      · exact DeliveryDecision.Grounded.selfService

theorem evaluateDelayed_grounded (snapshot : OrderSnapshot) (now : Time)
    (investigationRequested : Bool) :
    (evaluateDelayed snapshot now investigationRequested).Grounded := by
  unfold evaluateDelayed
  split
  · exact DeliveryDecision.Grounded.manual HandoffReason.deliveryDataInvalid rfl rfl rfl
  · split
    · exact DeliveryDecision.Grounded.selfService
    · split
      · exact DeliveryDecision.Grounded.manual HandoffReason.deliveryOverdueInvestigation
          rfl rfl rfl
      · exact DeliveryDecision.Grounded.selfService

theorem deliveryFailed_disagrees {t : DeliveryIssueType} {text : String} :
    ¬(deliveryManual t "delivery_failed" text CasePriority.p2).Grounded := by
  intro h
  have hparse : HandoffReason.parse? "delivery_failed" = some HandoffReason.deliveryFailed :=
    rfl
  have hentry := (layersAgree_singleton hparse).mp (h rfl)
  cases hentry.right

theorem deliveryPolicy_grounded_iff (t : DeliveryIssueType) (investigationRequested : Bool)
    (snapshot : OrderSnapshot) (now : Time) :
    (deliveryPolicy t investigationRequested snapshot now).Grounded ↔
      ¬(t = DeliveryIssueType.deliveryFailed ∧
        hasContradictoryLifecycle snapshot = false) := by
  unfold deliveryPolicy
  by_cases hcontradictory : hasContradictoryLifecycle snapshot = true
  · rw [if_pos hcontradictory, hcontradictory]
    refine iff_of_true ?_ (fun h => by cases h.right)
    exact DeliveryDecision.Grounded.manual HandoffReason.deliveryDataInvalid rfl rfl rfl
  · rw [if_neg hcontradictory]
    cases t with
    | deliveryFailed =>
        refine iff_of_false deliveryFailed_disagrees (fun h => h ⟨rfl, ?_⟩)
        exact Bool.eq_false_of_not_eq_true hcontradictory
    | trackingStalled =>
        exact iff_of_true (evaluateTrackingStalled_grounded snapshot now)
          (fun h => by cases h.left)
    | delayed =>
        exact iff_of_true (evaluateDelayed_grounded snapshot now investigationRequested)
          (fun h => by cases h.left)
    | markedDeliveredNotReceived =>
        refine iff_of_true ?_ (fun h => by cases h.left)
        exact DeliveryDecision.Grounded.manual HandoffReason.deliveryMarkedReceivedDispute
          rfl rfl rfl
    | packageDamaged =>
        refine iff_of_true ?_ (fun h => by cases h.left)
        exact DeliveryDecision.Grounded.manual HandoffReason.deliveryDamageClaim rfl rfl rfl
    | wrongItemOrMissingParts =>
        refine iff_of_true ?_ (fun h => by cases h.left)
        intro h
        cases h
    | otherDeliveryIssue =>
        refine iff_of_true ?_ (fun h => by cases h.left)
        exact DeliveryDecision.Grounded.manual HandoffReason.deliveryOtherIssue rfl rfl rfl

/-!
## Both layers
-/

/--
The order policy always agrees with the handoff policy; the delivery policy does
except on the report of a failed delivery whose order data are consistent.
-/
theorem policy_layers_agree_iff (request : OrderOperationRequest)
    (report : DeliveryIssueRequest) (snapshot : OrderSnapshot) (now : Time)
    (thresholds : CurrencyThresholds) (replacementAvailable : Option Bool) :
    (forall d,
      evaluateOperation request snapshot now thresholds replacementAvailable =
        Except.ok d ->
      d.outcome = OperationOutcome.manualReview ->
      LayersAgree d.reasonCodes d.caseRecommendation) ∧
    (forall d,
      evaluateDeliveryIssue report snapshot now = Except.ok d ->
      d.outcome = DeliveryOutcome.manualReview ->
      (LayersAgree d.reasonCodes d.caseRecommendation ↔
        ¬(report.issueType = DeliveryIssueType.deliveryFailed ∧
          hasContradictoryLifecycle snapshot = false))) := by
  constructor
  · intro d h houtcome
    unfold evaluateOperation at h
    split at h
    · cases h
    · cases h
      exact operationPolicy_grounded request.operationType snapshot now thresholds
        replacementAvailable houtcome
  · intro d h houtcome
    unfold evaluateDeliveryIssue at h
    split at h
    · cases h
    · cases h
      rw [← deliveryPolicy_grounded_iff report.issueType report.investigationRequested
        snapshot now]
      exact ⟨fun hagree _ => hagree, fun hgrounded => hgrounded houtcome⟩

def sampleShipped : OrderSnapshot :=
  { sampleOrder with
    fulfillmentStatus := FulfillmentStatus.shipped
    shippedAt := some 1 }

def sampleDeliveryReport (issueType : DeliveryIssueType) : DeliveryIssueRequest :=
  { threadId := sampleThreadText
    sourceMessageId := sampleMessageText
    orderId := sampleOrder.orderId
    issueType := issueType
    investigationRequested := false }

theorem policy_layers_agree_iff_damaged :
    exists d, evaluateDeliveryIssue
        (sampleDeliveryReport DeliveryIssueType.packageDamaged) sampleShipped 2 =
          Except.ok d ∧
      LayersAgree d.reasonCodes d.caseRecommendation := by
  refine ⟨deliveryPolicy DeliveryIssueType.packageDamaged false sampleShipped 2, rfl, ?_⟩
  refine ((policy_layers_agree_iff sampleRequest
    (sampleDeliveryReport DeliveryIssueType.packageDamaged) sampleShipped 2
    (fun _ => none) none).right _ rfl rfl).mpr ?_
  rintro ⟨hfailed, _⟩
  cases hfailed

/-- The recommendation is `p2`, the handoff policy decides `p1`. -/
theorem failed_delivery_layers_disagree :
    exists d, evaluateDeliveryIssue
        (sampleDeliveryReport DeliveryIssueType.deliveryFailed) sampleShipped 2 =
          Except.ok d ∧
      d.outcome = DeliveryOutcome.manualReview ∧
      ¬LayersAgree d.reasonCodes d.caseRecommendation := by
  refine ⟨deliveryPolicy DeliveryIssueType.deliveryFailed false sampleShipped 2, rfl, rfl, ?_⟩
  intro hagree
  exact deliveryFailed_disagrees fun _ => hagree

end RefundAgent
