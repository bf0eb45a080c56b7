import RefundAgent.Model.Database

/-!
# Handoff policy

One decision from the structured facts of a turn.  Every reason has a case type
and a priority; the decision takes the most preferred type and the most urgent
priority over all reasons, independently of each other.  The descriptions of
the reasons enter no decision and are left out.
-/

namespace RefundAgent

open Foundation

inductive StaffComplaintSeverity where
  | critical
  | high
  | medium
  | low
deriving DecidableEq, Repr

/-- `HandoffPolicyInput`; `validate_semantic_risk` is the field `riskValid`. -/
structure HandoffPolicyInput where
  hardCriticalCategories : List SemanticRiskCategory
  semanticRiskLevel : Option SemanticRiskLevel
  semanticRiskCategories : List SemanticRiskCategory
  refundRequiresManualReview : Bool
  humanHandoffConfirmed : Bool
  staffComplaintSeverity : Option StaffComplaintSeverity
  explicitOtherComplaint : Bool
  domainCaseReasonCodes : List HandoffReason
  riskValid : (semanticRiskLevel = none ∨ semanticRiskLevel = some SemanticRiskLevel.none) ↔
    semanticRiskCategories = []

/-!
## Tables
-/

/-- `_RISK_CATEGORY_ORDER`. -/
def riskCategoryOrder : List SemanticRiskCategory :=
  [SemanticRiskCategory.selfHarm, SemanticRiskCategory.violence,
    SemanticRiskCategory.legal, SemanticRiskCategory.regulatory,
    SemanticRiskCategory.reputation, SemanticRiskCategory.other]

/-- `_CASE_TYPE_RANK`. -/
def caseTypeRank : CaseType -> Nat
  | CaseType.safetyReview => 0
  | CaseType.staffConductComplaint => 1
  | CaseType.businessEscalation => 2
  | CaseType.refundReview => 3
  | CaseType.orderOperationReview => 4
  | CaseType.deliveryInvestigation => 5
  | CaseType.generalSupport => 6
  | CaseType.otherComplaint => 7

/-- The case type of a risk category. -/
def riskCaseType : SemanticRiskCategory -> CaseType
  | SemanticRiskCategory.selfHarm => CaseType.safetyReview
  | SemanticRiskCategory.violence => CaseType.safetyReview
  | _ => CaseType.businessEscalation

/-- The priority of a high or critical risk of a category. -/
def urgentRiskPriority : SemanticRiskCategory -> CasePriority
  | SemanticRiskCategory.selfHarm => CasePriority.p0
  | SemanticRiskCategory.violence => CasePriority.p0
  | _ => CasePriority.p1

namespace HandoffReason

/-- The case type in `_REASON_POLICIES`. -/
def caseType : HandoffReason -> CaseType
  | hardCritical category => riskCaseType category
  | semanticCritical category => riskCaseType category
  | semanticHigh category => riskCaseType category
  | semanticMedium category => riskCaseType category
  | refundManualReview => CaseType.refundReview
  | confirmedHumanRequest => CaseType.generalSupport
  | staffConductCritical => CaseType.staffConductComplaint
  | staffConductHigh => CaseType.staffConductComplaint
  | staffConductMedium => CaseType.staffConductComplaint
  | staffConductLow => CaseType.staffConductComplaint
  | explicitOtherComplaint => CaseType.otherComplaint
  | orderStateInvalid => CaseType.orderOperationReview
  | cancellationFulfillmentProcessing => CaseType.orderOperationReview
  | cancellationStateInvalid => CaseType.orderOperationReview
  | operationDeliveryDateInvalid => CaseType.orderOperationReview
  | returnEligibilityUnknown => CaseType.orderOperationReview
  | exchangeEligibilityUnknown => CaseType.orderOperationReview
  | currencyThresholdUnconfigured => CaseType.orderOperationReview
  | returnManualAmountReview => CaseType.orderOperationReview
  | exchangeInventoryUnknown => CaseType.orderOperationReview
  | providerDeliveryFailed => CaseType.orderOperationReview
  | deliveryDataInvalid => CaseType.deliveryInvestigation
  | deliveryTrackingStalled => CaseType.deliveryInvestigation
  | deliveryOverdueInvestigation => CaseType.deliveryInvestigation
  | deliveryFailed => CaseType.deliveryInvestigation
  | deliveryMarkedReceivedDispute => CaseType.deliveryInvestigation
  | deliveryDamageClaim => CaseType.deliveryInvestigation
  | deliveryOtherIssue => CaseType.deliveryInvestigation

/-- The priority in `_REASON_POLICIES`. -/
def priority : HandoffReason -> CasePriority
  | hardCritical category => urgentRiskPriority category
  | semanticCritical category => urgentRiskPriority category
  | semanticHigh category => urgentRiskPriority category
  | semanticMedium _ => CasePriority.p2
  | refundManualReview => CasePriority.p1
  | confirmedHumanRequest => CasePriority.p2
  | staffConductCritical => CasePriority.p0
  | staffConductHigh => CasePriority.p1
  | staffConductMedium => CasePriority.p1
  | staffConductLow => CasePriority.p2
  | explicitOtherComplaint => CasePriority.p3
  | orderStateInvalid => CasePriority.p1
  | cancellationFulfillmentProcessing => CasePriority.p1
  | cancellationStateInvalid => CasePriority.p1
  | operationDeliveryDateInvalid => CasePriority.p1
  | returnEligibilityUnknown => CasePriority.p1
  | exchangeEligibilityUnknown => CasePriority.p1
  | currencyThresholdUnconfigured => CasePriority.p1
  | returnManualAmountReview => CasePriority.p1
  | exchangeInventoryUnknown => CasePriority.p2
  | providerDeliveryFailed => CasePriority.p1
  | deliveryDataInvalid => CasePriority.p1
  | deliveryTrackingStalled => CasePriority.p1
  | deliveryOverdueInvestigation => CasePriority.p2
  | deliveryFailed => CasePriority.p1
  | deliveryMarkedReceivedDispute => CasePriority.p1
  | deliveryDamageClaim => CasePriority.p1
  | deliveryOtherIssue => CasePriority.p2

/-- The literals that a domain policy can produce, as the graph carries them. -/
def domainWords : List (String × HandoffReason) :=
  [("order_state_invalid", orderStateInvalid),
    ("cancellation_fulfillment_processing", cancellationFulfillmentProcessing),
    ("cancellation_state_invalid", cancellationStateInvalid),
    ("operation_delivery_date_invalid", operationDeliveryDateInvalid),
    ("return_eligibility_unknown", returnEligibilityUnknown),
    ("exchange_eligibility_unknown", exchangeEligibilityUnknown),
    ("currency_threshold_unconfigured", currencyThresholdUnconfigured),
    ("return_manual_amount_review", returnManualAmountReview),
    ("exchange_inventory_unknown", exchangeInventoryUnknown),
    ("delivery_data_invalid", deliveryDataInvalid),
    ("delivery_tracking_stalled", deliveryTrackingStalled),
    ("delivery_overdue_investigation", deliveryOverdueInvestigation),
    ("delivery_failed", deliveryFailed),
    ("delivery_marked_received_dispute", deliveryMarkedReceivedDispute),
    ("delivery_damage_claim", deliveryDamageClaim),
    ("delivery_other_issue", deliveryOtherIssue)]

/-- The spelling of a risk category inside a literal. -/
def riskWords (head : String) (reason : SemanticRiskCategory -> HandoffReason) :
    List (String × HandoffReason) :=
  [(head ++ "_self_harm", reason SemanticRiskCategory.selfHarm),
    (head ++ "_violence", reason SemanticRiskCategory.violence),
    (head ++ "_legal", reason SemanticRiskCategory.legal),
    (head ++ "_regulatory", reason SemanticRiskCategory.regulatory),
    (head ++ "_reputation", reason SemanticRiskCategory.reputation),
    (head ++ "_other", reason SemanticRiskCategory.other)]

/-- The literals of `HandoffReason`. -/
def words : List (String × HandoffReason) :=
  riskWords "hard_critical" hardCritical ++
    riskWords "semantic_critical" semanticCritical ++
    riskWords "semantic_high" semanticHigh ++
    riskWords "semantic_medium" semanticMedium ++
    [("refund_manual_review", refundManualReview),
      ("confirmed_human_request", confirmedHumanRequest),
      ("staff_conduct_critical", staffConductCritical),
      ("staff_conduct_high", staffConductHigh),
      ("staff_conduct_medium", staffConductMedium),
      ("staff_conduct_low", staffConductLow),
      ("explicit_other_complaint", explicitOtherComplaint)] ++
    domainWords ++ [("provider_delivery_failed", providerDeliveryFailed)]

/-- Validation of one literal. -/
def parse? (s : String) : Option HandoffReason :=
  (words.find? fun entry => entry.1 == s).map Prod.snd

end HandoffReason

/-- `_STAFF_REASON_BY_SEVERITY`. -/
def staffReason : StaffComplaintSeverity -> HandoffReason
  | StaffComplaintSeverity.critical => HandoffReason.staffConductCritical
  | StaffComplaintSeverity.high => HandoffReason.staffConductHigh
  | StaffComplaintSeverity.medium => HandoffReason.staffConductMedium
  | StaffComplaintSeverity.low => HandoffReason.staffConductLow

/-- `_SEMANTIC_REASON_BY_LEVEL`, with no entry for the levels that open no case. -/
def semanticReason :
    SemanticRiskLevel -> Option (SemanticRiskCategory -> HandoffReason)
  | SemanticRiskLevel.critical => some HandoffReason.semanticCritical
  | SemanticRiskLevel.high => some HandoffReason.semanticHigh
  | SemanticRiskLevel.medium => some HandoffReason.semanticMedium
  | SemanticRiskLevel.low => none
  | SemanticRiskLevel.none => none

/-!
## The decision
-/

/-- One reason for each listed category, in the order of the table. -/
def categoryReasons (reason : SemanticRiskCategory -> HandoffReason)
    (categories : List SemanticRiskCategory) : List HandoffReason :=
  (riskCategoryOrder.filter fun c => decide (c ∈ categories)).map reason

/-- The reasons from semantic classification. -/
def semanticReasons (input : HandoffPolicyInput) : List HandoffReason :=
  match input.semanticRiskLevel.bind semanticReason with
  | some reason => categoryReasons reason input.semanticRiskCategories
  | none => []

/-- The reasons of `determine_handoff_policy` before deduplication. -/
def handoffReasons (input : HandoffPolicyInput) : List HandoffReason :=
  categoryReasons HandoffReason.hardCritical input.hardCriticalCategories ++
    semanticReasons input ++
    (input.staffComplaintSeverity.map staffReason).toList ++
    (if input.refundRequiresManualReview then [HandoffReason.refundManualReview] else []) ++
    (if input.humanHandoffConfirmed then [HandoffReason.confirmedHumanRequest] else []) ++
    (if input.explicitOtherComplaint then [HandoffReason.explicitOtherComplaint] else []) ++
    input.domainCaseReasonCodes

/-- `min(values, key=rank)`: the first of the values with the least rank. -/
def minBy {α : Type} (rank : α -> Nat) (first : α) (rest : List α) : α :=
  rest.foldl (fun best a => if rank a < rank best then a else best) first

/-- The positive decision for a non-empty list of reasons. -/
def positiveDecision (first : HandoffReason) (rest : List HandoffReason) :
    HandoffDecision :=
  { shouldCreateCase := true
    caseType := some (minBy caseTypeRank first.caseType (rest.map HandoffReason.caseType))
    priority := some (minBy priorityRank first.priority (rest.map HandoffReason.priority))
    reasonCodes := first :: rest
    decisionValid := by simp }

/-- `determine_handoff_policy`. -/
def determineHandoffPolicy (input : HandoffPolicyInput) : HandoffDecision :=
  match fromKeys (handoffReasons input) with
  | [] =>
      { shouldCreateCase := false
        caseType := none
        priority := none
        reasonCodes := []
        decisionValid := by simp }
  | first :: rest => positiveDecision first rest

end RefundAgent
