import RefundAgent.Cases.Service
import RefundAgent.Graph.State
import RefundAgent.Refunds.Service

/-!
# Conversation nodes

Risk, intent, handoff, complaint, order and refund nodes of the main graph, and
the functions that route between them.  A node returns the state with its
update merged in; a node that resumes an interrupt also names its successor.
-/

namespace RefundAgent

open Foundation

inductive Node where
  | checkRiskRules
  | classifySemanticRisk
  | llmCallRouter
  | classifyFormalComplaint
  | confirmHumanHandoff
  | acknowledgeHumanHandoff
  | confirmOrderPriority
  | resumeOrderFlow
  | handleComplaint
  | handleNoncriticalRisk
  | handleCriticalRisk
  | detectOrder
  | searchNode
  | orderResponse
  | checkRefundEligibility
  | approvalNode
  | proceed
  | cancel
  | supportCaseStatus
  | operationSubflow
  | finalizeCaseHandoff
  | attachOperationCase
deriving DecidableEq, Repr

/-- A computation that touches no table. -/
def settled {α : Type} (r : Except Failure α) : Call α :=
  Program.done r

/-!
## Routing
-/

/-- The intents of the operation subflow. -/
def Intent.isOperation : Intent -> Bool
  | Intent.cancellationRequest => true
  | Intent.returnRequest => true
  | Intent.exchangeRequest => true
  | Intent.deliveryIssue => true
  | _ => false

/-- `route_after_risk_rules`. -/
def routeAfterRiskRules (s : RefundState) : Node :=
  if s.riskHardCritical then Node.handleCriticalRisk else Node.classifySemanticRisk

/-- `route_after_semantic_risk`. -/
def routeAfterSemanticRisk (s : RefundState) : Except Failure Node :=
  match s.semanticRiskLevel with
  | some SemanticRiskLevel.high => Except.ok Node.handleCriticalRisk
  | some SemanticRiskLevel.critical => Except.ok Node.handleCriticalRisk
  | some _ => Except.ok Node.llmCallRouter
  | none => Except.error (Failure.valueError "Unexpected semantic risk level: None")

/-- `route_by_intent_and_risk`. -/
def routeByIntentAndRisk (s : RefundState) : Except Failure Node :=
  match s.decision with
  | none => Except.ok Node.finalizeCaseHandoff
  | some Intent.complaint => Except.ok Node.classifyFormalComplaint
  | some decision =>
      if s.humanHandoffRequested then
        Except.ok Node.confirmHumanHandoff
      else if decision = Intent.supportCaseStatus then
        Except.ok Node.supportCaseStatus
      else
        match s.semanticRiskLevel with
        | some SemanticRiskLevel.low => Except.ok Node.confirmOrderPriority
        | some SemanticRiskLevel.medium => Except.ok Node.confirmOrderPriority
        | some SemanticRiskLevel.none =>
            if decision.isOperation then Except.ok Node.operationSubflow
            else Except.ok Node.detectOrder
        | _ => Except.error (Failure.valueError "Unexpected intent/risk combination")

/-- `route_after_formal_complaint`. -/
def routeAfterFormalComplaint (s : RefundState) : Node :=
  if s.humanHandoffRequested then
    Node.confirmHumanHandoff
  else if s.semanticRiskLevel = some SemanticRiskLevel.low ∨
      s.semanticRiskLevel = some SemanticRiskLevel.medium then
    Node.handleNoncriticalRisk
  else
    Node.handleComplaint

/-- `route_after_human_handoff_declined`. -/
def routeAfterHumanHandoffDeclined (s : RefundState) : Except Failure Node :=
  let refused : Except Failure Node :=
    Except.error (Failure.valueError "Cannot resume self-service flow")
  match s.decision, s.semanticRiskLevel with
  | some Intent.supportCaseStatus, _ => refused
  | some Intent.complaint, some SemanticRiskLevel.low =>
      Except.ok Node.handleNoncriticalRisk
  | some Intent.complaint, some SemanticRiskLevel.medium =>
      Except.ok Node.handleNoncriticalRisk
  | some Intent.complaint, some SemanticRiskLevel.none => Except.ok Node.handleComplaint
  | some Intent.complaint, _ => refused
  | some _, some SemanticRiskLevel.low => Except.ok Node.confirmOrderPriority
  | some _, some SemanticRiskLevel.medium => Except.ok Node.confirmOrderPriority
  | some decision, some SemanticRiskLevel.none =>
      if decision.isOperation then Except.ok Node.resumeOrderFlow
      else Except.ok Node.detectOrder
  | _, _ => refused

/-- `route_after_detection`. -/
def routeAfterDetection (s : RefundState) : Node :=
  if s.orderId.isSome then Node.searchNode else Node.finalizeCaseHandoff

/-- `route_after_order_lookup`. -/
def routeAfterOrderLookup (s : RefundState) : Except Failure Node :=
  if !s.searchSuccess then
    Except.ok Node.finalizeCaseHandoff
  else if s.decision = some Intent.orderInquiry then
    Except.ok Node.orderResponse
  else if s.decision = some Intent.refundRequest then
    Except.ok Node.checkRefundEligibility
  else
    Except.error (Failure.valueError "Unexpected decision after order lookup")

/-- `route_after_policy`. -/
def routeAfterPolicy (s : RefundState) : Node :=
  if !s.eligible || s.requiresManualReview then Node.finalizeCaseHandoff
  else Node.approvalNode

/-- `route_after_order_priority`. -/
def routeAfterOrderPriority (s : RefundState) : Except Failure Node :=
  match s.decision with
  | some Intent.refundRequest => Except.ok Node.detectOrder
  | some Intent.orderInquiry => Except.ok Node.detectOrder
  | some decision =>
      if decision.isOperation then Except.ok Node.operationSubflow
      else Except.error (Failure.valueError "Unexpected order flow decision")
  | none => Except.error (Failure.valueError "Unexpected order flow decision")

/-!
## Risk and intent
-/

/-- `check_risk_rules`. -/
def checkRiskRules (env : Environment) (s : RefundState) : RefundState :=
  let text := (s.latestMessage.map Prod.fst).getD ""
  let result := env.matcher.matchText text
  { s.newTurn none with
    riskHardCritical := result.hardCritical
    riskHasSignals := result.hasRiskSignals
    riskRuleMatches := result.matches_
    semanticRiskLevel := none
    semanticRiskCategories := []
    semanticRiskReason := ""
    riskOrderChoice := none
    riskRequiresHumanReview := false }

/-- `classify_semantic_risk`. -/
def classifySemanticRisk (env : Environment) (s : RefundState) : RefundState :=
  match s.latestMessage with
  | none =>
      { s with
        semanticRiskLevel := some SemanticRiskLevel.none
        semanticRiskCategories := []
        semanticRiskReason := "No text user message was available." }
  | some _ =>
      { s with
        semanticRiskLevel := some env.risk.riskLevel
        semanticRiskCategories := env.risk.categories
        semanticRiskReason := env.risk.reason }

/-- `llm_call_router`. -/
def llmCallRouter (env : Environment) (s : RefundState) : RefundState :=
  match s.latestMessage with
  | none => (s.newTurn none).say "Please enter your question."
  | some _ =>
      { s.newTurn (some env.route.step) with
        humanHandoffRequested := env.route.humanHandoffRequested }

/-- `confirm_order_priority`. -/
def confirmOrderPriority (env : Environment) (s : RefundState) :
    Except Failure (RefundState × Node) :=
  if env.orderPriority = ResumeValue.text "handle_order" then
    Except.ok ({ s with riskOrderChoice := some "handle_order" }, Node.resumeOrderFlow)
  else if env.orderPriority = ResumeValue.text "continue_risk" then
    Except.ok ({ s with riskOrderChoice := some "continue_risk" },
      Node.handleNoncriticalRisk)
  else
    Except.error (Failure.valueError "Unexpected order-priority decision")

/-- `handle_noncritical_risk`. -/
def handleNoncriticalRisk (env : Environment) (s : RefundState) : RefundState :=
  match s.latestMessage with
  | none => s.say "Please describe your concern as text."
  | some _ => s.say env.reply

/-- The categories that `handle_critical_risk` answers to. -/
def criticalCategories (s : RefundState) : List SemanticRiskCategory :=
  s.semanticRiskCategories ++
    (if s.riskHardCritical then s.riskRuleMatches.map fun m => m.category.semantic
    else [])

/-- `handle_critical_risk`. -/
def handleCriticalRisk (env : Environment) (s : RefundState) : RefundState :=
  let content :=
    if SemanticRiskCategory.selfHarm ∈ criticalCategories s ∨
        SemanticRiskCategory.violence ∈ criticalCategories s then
      "Your message may indicate an urgent safety concern. " ++
        "If you or someone else may be in immediate danger, please contact " ++
        "local emergency services or a trusted person who can help now."
    else
      "This concern requires human review. " ++
        "Please contact " ++ env.supportContact ++ " for further assistance."
  ({ s with riskRequiresHumanReview := true }).say content

/-!
## Handoff and complaints
-/

/-- `confirm_human_handoff`. -/
def confirmHumanHandoff (env : Environment) (s : RefundState) :
    Except Failure (RefundState × Node) :=
  if env.humanHandoff = ResumeValue.text "confirm_handoff" then
    Except.ok ({ s with humanHandoffConfirmed := true }, Node.acknowledgeHumanHandoff)
  else if env.humanHandoff = ResumeValue.text "continue_self_service" then do
    let destination ← routeAfterHumanHandoffDeclined s
    pure ({ s with humanHandoffRequested := false, humanHandoffConfirmed := false },
      destination)
  else
    Except.error (Failure.valueError "Unexpected human-handoff confirmation choice")

/-- `acknowledge_human_handoff`. -/
def acknowledgeHumanHandoff (s : RefundState) : RefundState :=
  s.say "Understood. I’ll route this conversation for human support."

/-- `classify_formal_complaint`. -/
def classifyFormalComplaint (env : Environment) (s : RefundState) : RefundState :=
  match s.latestMessage with
  | none =>
      { s with
        staffComplaintSeverity := none
        explicitOtherComplaint := false
        formalComplaintReason := "No text user message was available." }
  | some _ =>
      { s with
        staffComplaintSeverity :=
          if env.complaint.complaintKind = FormalComplaintKind.staffConduct then
            env.complaint.staffComplaintSeverity
          else
            none
        explicitOtherComplaint :=
          decide (env.complaint.complaintKind = FormalComplaintKind.otherFormal)
        formalComplaintReason := env.complaint.reason }

/-- `handle_complaint`. -/
def handleComplaint (env : Environment) (s : RefundState) : RefundState :=
  match s.latestMessage with
  | none => s.say "Please enter your complaint as text."
  | some _ => s.say env.reply

/-!
## Orders
-/

/-- `response.order_id.strip().upper()`, for the letters of the pattern. -/
def detectedOrder (detection : OrderDetection) : Option String :=
  match detection.orderId with
  | none => none
  | some s =>
      if s = "" then none
      else some (String.ofList ((Text.strip s).toList.map Char.toUpper))

/-- `detect_order`. -/
def detectOrder (env : Environment) (s : RefundState) : RefundState :=
  let missing := ({ s with
    orderId := none
    lastOrderId := none
    orderIdValid := false }).say "Please enter your order number."
  match s.latestMessage with
  | none =>
      ({ s with orderId := none, orderIdValid := false }).say
        "Please enter your order number."
  | some (text, _) =>
      match env.orderDetection.hasOrderId, detectedOrder env.orderDetection with
      | true, some order =>
          if h : matchesOrderPattern order = true then
            { s with
              orderId := some { text := order, wellFormed := h }
              lastOrderId := none
              orderIdValid := true }
          else
            ({ s with orderId := none, lastOrderId := none, orderIdValid := false }).say
              "Please enter a valid order number."
      | _, _ =>
          match s.lastOrderId with
          | some previous =>
              if env.referencesPreviousOrder text then
                { s with orderId := some previous, orderIdValid := true }
              else
                missing
          | none => missing

def orderNotFound : String :=
  "Order not found. Please enter the correct order number."

/-- `search_order`: the record of an order that the caller owns. -/
def searchOrder (env : Environment) (orderId : OrderId) (customerId tenantId : CleanText) :
    Option OrderInfo :=
  match env.orders orderId.text with
  | none => none
  | some record =>
      if record.ownerCustomerId ≠ customerId.text ∨ record.tenantId ≠ tenantId.text then
        none
      else
        some
          { orderId := record.orderId
            productName := record.productName
            status := record.status
            deliveryDate := record.deliveryDaysAgo.map fun days => env.today 0 - days
            refunded := record.refunded
            amount := record.amount }

/-- `search_order_node`. -/
def searchOrderNode (env : Environment) (s : RefundState) : Except Failure RefundState := do
  let scope ← env.requireScope
  let notFound := ({ s with searchSuccess := false }).say orderNotFound
  match scope.customerId, s.orderId with
  | none, _ => pure notFound
  | some _, none => Except.error (Failure.validationError "SearchArgs")
  | some customerId, some orderId =>
      match searchOrder env orderId customerId scope.tenantId with
      | none => pure notFound
      | some order =>
          pure { s with
            searchSuccess := true
            orderInfo := some order
            lastOrderId := s.orderId }

/-- `order_response_node`. -/
def orderResponseNode (s : RefundState) : Except Failure RefundState :=
  match s.orderInfo with
  | none => Except.error (Failure.keyError "order_id")
  | some order =>
      Except.ok (s.say ("Order ID: " ++ order.orderId.text ++ "\nStatus: " ++
        order.status ++ "\nProduct name: " ++ order.productName))

/-!
## Refunds
-/

/-- The result of `check_refund_policy`. -/
structure RefundPolicyResult where
  eligible : Bool
  reason : String
  requiresManualReview : Bool
  orderId : Option OrderId

/-- `check_refund_policy`. -/
def checkRefundPolicy (orderInfo : Option OrderInfo) (today : Int) : RefundPolicyResult :=
  let refused (reason : String) : RefundPolicyResult := ⟨false, reason, false, none⟩
  match orderInfo with
  | none => refused "The order data is incomplete or invalid."
  | some order =>
      match order.deliveryDate with
      | none => refused "The order data is incomplete or invalid."
      | some deliveryDate =>
          if today - deliveryDate < 0 then
            refused "The delivery date is invalid."
          else if 7 < today - deliveryDate then
            refused "This order is past the refund deadline."
          else if order.status ≠ "delivered" then
            refused "This order is not in a refundable status."
          else if order.refunded then
            refused "This order has already been refunded."
          else if 10000 ≤ order.amount then
            ⟨true, "This order is eligible for a refund, but the amount exceeds " ++
              "the automatic processing limit.", true, none⟩
          else
            ⟨true, "The order is eligible for a refund.", false, some order.orderId⟩

/-- `check_refund_eligibility_node`. -/
def checkRefundEligibilityNode (env : Environment) (s : RefundState) : RefundState :=
  let result := checkRefundPolicy s.orderInfo (env.today 1)
  if !result.eligible then
    ({ s with
      eligible := false
      requiresManualReview := result.requiresManualReview
      reason := result.reason }).say ("Sorry, " ++ result.reason)
  else if result.requiresManualReview then
    ({ s with
      eligible := true
      requiresManualReview := true
      reason := result.reason }).say
        (result.reason ++ " Please contact " ++ env.supportContact ++ ".")
  else
    { s with
      eligible := true
      requiresManualReview := false
      reason := result.reason
      orderId := result.orderId }

/-- `approval_node`. -/
def approvalNode (env : Environment) : Node :=
  if env.refundApproval = ResumeValue.bool true then Node.proceed else Node.cancel

def refundNotCreated : String :=
  "The refund request could not be created automatically. " ++
    "Please contact customer service."

/-- `create_refund_node`. -/
def createRefundNode (env : Environment) (s : RefundState) : Call RefundState :=
  match s.orderId with
  | none => pure (({ s with success := false }).say refundNotCreated)
  | some orderId => do
      let scope ← settled env.requireScope
      let created ← createRefund scope orderId.text (env.clock ServicePlace.refund 0)
      if created then
        pure (({ s with success := true }).say
          ("The refund request has been submitted successfully. " ++
            "A result is expected within seven business days."))
      else
        pure (({ s with success := false }).say refundNotCreated)

/-- `cancelled_node`. -/
def cancelledNode (s : RefundState) : RefundState :=
  s.say "The refund has been cancelled. Thank you for your support."

end RefundAgent
