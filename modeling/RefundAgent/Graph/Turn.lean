import RefundAgent.Graph.Handoff

/-!
# A turn of the conversation

The main graph with its edges.  Every path through it ends with the handoff node
and the attachment node.
-/

namespace RefundAgent

open Foundation

/-- The nodes of `build_graph`. -/
def graphNode (env : Environment) : Node -> RefundState -> Call (RefundState × Option Node)
  | Node.checkRiskRules, s => stays (pure (checkRiskRules env s))
  | Node.classifySemanticRisk, s => stays (pure (classifySemanticRisk env s))
  | Node.llmCallRouter, s => stays (pure (llmCallRouter env s))
  | Node.classifyFormalComplaint, s => stays (pure (classifyFormalComplaint env s))
  | Node.confirmHumanHandoff, s => do
      let (update, destination) ← settled (confirmHumanHandoff env s)
      pure (update, some destination)
  | Node.acknowledgeHumanHandoff, s => stays (pure (acknowledgeHumanHandoff s))
  | Node.confirmOrderPriority, s => do
      let (update, destination) ← settled (confirmOrderPriority env s)
      pure (update, some destination)
  | Node.resumeOrderFlow, s => stays (pure s)
  | Node.handleComplaint, s => stays (pure (handleComplaint env s))
  | Node.handleNoncriticalRisk, s => stays (pure (handleNoncriticalRisk env s))
  | Node.handleCriticalRisk, s => stays (pure (handleCriticalRisk env s))
  | Node.detectOrder, s => stays (pure (detectOrder env s))
  | Node.searchNode, s => stays (settled (searchOrderNode env s))
  | Node.orderResponse, s => stays (settled (orderResponseNode s))
  | Node.checkRefundEligibility, s => stays (pure (checkRefundEligibilityNode env s))
  | Node.approvalNode, s => pure (s, some (approvalNode env))
  | Node.proceed, s => stays (createRefundNode env s)
  | Node.cancel, s => stays (pure (cancelledNode s))
  | Node.supportCaseStatus, s => stays (supportCaseStatusNode env s)
  | Node.operationSubflow, s => stays (Prod.snd <$> operationSubflow env s)
  | Node.finalizeCaseHandoff, s => stays (finalizeCaseHandoff env s)
  | Node.attachOperationCase, s => stays (attachOperationCase env s)

/-- The edges of `build_graph`; a node that names its successor has none. -/
def graphEdge : Node -> RefundState -> Except Failure (Option Node)
  | Node.checkRiskRules, s => Except.ok (some (routeAfterRiskRules s))
  | Node.classifySemanticRisk, s => (routeAfterSemanticRisk s).map some
  | Node.llmCallRouter, s => (routeByIntentAndRisk s).map some
  | Node.classifyFormalComplaint, s => Except.ok (some (routeAfterFormalComplaint s))
  | Node.confirmHumanHandoff, _ => Except.ok none
  | Node.acknowledgeHumanHandoff, _ => Except.ok (some Node.finalizeCaseHandoff)
  | Node.confirmOrderPriority, _ => Except.ok none
  | Node.resumeOrderFlow, s => (routeAfterOrderPriority s).map some
  | Node.handleComplaint, _ => Except.ok (some Node.finalizeCaseHandoff)
  | Node.handleNoncriticalRisk, _ => Except.ok (some Node.finalizeCaseHandoff)
  | Node.handleCriticalRisk, _ => Except.ok (some Node.finalizeCaseHandoff)
  | Node.detectOrder, s => Except.ok (some (routeAfterDetection s))
  | Node.searchNode, s => (routeAfterOrderLookup s).map some
  | Node.orderResponse, _ => Except.ok (some Node.finalizeCaseHandoff)
  | Node.checkRefundEligibility, s => Except.ok (some (routeAfterPolicy s))
  | Node.approvalNode, _ => Except.ok none
  | Node.proceed, _ => Except.ok (some Node.finalizeCaseHandoff)
  | Node.cancel, _ => Except.ok (some Node.finalizeCaseHandoff)
  | Node.supportCaseStatus, _ => Except.ok (some Node.finalizeCaseHandoff)
  | Node.operationSubflow, _ => Except.ok (some Node.finalizeCaseHandoff)
  | Node.finalizeCaseHandoff, _ => Except.ok (some Node.attachOperationCase)
  | Node.attachOperationCase, _ => Except.ok none

/-- `build_graph`. -/
def graph (env : Environment) : Workflow Database Failure Node RefundState :=
  { node := graphNode env
    edge := graphEdge
    exhausted := Failure.graphRecursion }

/-- One turn: the nodes it visits and the state it ends in. -/
def turn (env : Environment) (s : RefundState) : Call (List Node × RefundState) :=
  (graph env).run recursionLimit Node.checkRiskRules s

/-!
## Isolation
-/

theorem checkRiskRules_congr (env : Environment) {s s' : RefundState}
    (hmessages : s.messages = s'.messages) (hlast : s.lastOrderId = s'.lastOrderId) :
    checkRiskRules env s = checkRiskRules env s' := by
  have hlatest : s.latestMessage = s'.latestMessage := by
    unfold RefundState.latestMessage
    rw [hmessages]
  unfold checkRiskRules
  rw [hlatest]
  unfold RefundState.newTurn
  rw [hmessages, hlast]

/--
Two states that agree on the messages and the last order number lead to the same
state after the first node and to the same program from there: the same nodes,
the same transactions with the same arguments, and the same last state, whatever
the transactions return.
-/
theorem turn_isolated (env : Environment) {s s' : RefundState}
    (hmessages : s.messages = s'.messages) (hlast : s.lastOrderId = s'.lastOrderId) :
    checkRiskRules env s = checkRiskRules env s' ∧ turn env s = turn env s' := by
  have hstate := checkRiskRules_congr env hmessages hlast
  have hfirst : graphNode env Node.checkRiskRules s =
      graphNode env Node.checkRiskRules s' := by
    show stays (pure (checkRiskRules env s)) = stays (pure (checkRiskRules env s'))
    rw [hstate]
  refine ⟨hstate, ?_⟩
  unfold turn recursionLimit
  rw [Workflow.run, Workflow.run]
  show (graphNode env Node.checkRiskRules s >>= _) =
    (graphNode env Node.checkRiskRules s' >>= _)
  rw [hfirst]

/-!
## An example

A customer without risk signals who asks to cancel an order and confirms.
-/

def sampleUser : AccessScope :=
  { tenantId := sampleTenantText
    userId := sampleUserText
    role := Role.customer
    permissions := rolePermissions Role.customer
    tenantValid := by decide
    userValid := by decide }

def sampleOrder : OrderSnapshot :=
  { orderId := sampleOrderText
    version := 1
    amount := 4999
    currency := "USD"
    orderStatus := OrderStatus.confirmed
    paymentStatus := PaymentStatus.paid
    fulfillmentStatus := FulfillmentStatus.unfulfilled
    createdAt := 0
    shippedAt := none
    deliveredAt := none
    promisedDeliveryAt := none
    lastTrackingEventAt := none
    returnEligible := some true
    exchangeEligible := some true
    existingOperations := []
    version_pos := by decide
    currency_valid := by decide }

def sampleExtraction : OperationRequestExtraction :=
  { operationType := some OperationType.cancellation
    reason := some OperationReason.noLongerNeeded
    deliveryIssueType := none
    replacementVariantId := none
    investigationRequested := false
    ambiguous := false
    shapeValid := by decide }

def sampleEnvironment : Environment :=
  { threadId := some "thread"
    user := some sampleUser
    matcher :=
      { hardCritical := []
        riskSignals := []
        finditer := fun _ _ => []
        hardTyped := by simp
        signalsTyped := by simp }
    risk := { riskLevel := SemanticRiskLevel.none, categories := [], reason := "calm" }
    route := { step := Intent.cancellationRequest, humanHandoffRequested := false }
    complaint :=
      { complaintKind := FormalComplaintKind.ordinary
        staffComplaintSeverity := none
        reason := "none"
        severityValid := by simp }
    orderDetection := { hasOrderId := true, orderId := some "ORD-10001" }
    extraction := sampleExtraction
    reply := "We are sorry."
    supportContact := "support"
    orderPriority := ResumeValue.other
    humanHandoff := ResumeValue.other
    refundApproval := ResumeValue.other
    operationConfirmation := ResumeValue.bool true
    referencesPreviousOrder := fun _ => false
    orders := fun _ => none
    getOrderForCustomer := fun _ _ _ => Except.ok (some sampleOrder)
    getReplacementAvailability := fun _ _ _ _ => Except.ok none
    resolve := fun _ => Except.ok "connection"
    today := fun _ => 0
    now := 0
    clock := fun _ _ => 0 }

/-- The state of a thread before its first turn. -/
def RefundState.start (messages : List Message) : RefundState :=
  { messages := messages
    orderId := none
    lastOrderId := none
    orderInfo := none
    success := false
    searchSuccess := false
    eligible := false
    requiresManualReview := false
    orderIdValid := false
    reason := ""
    decision := none
    riskHardCritical := false
    riskHasSignals := false
    riskRuleMatches := []
    semanticRiskLevel := none
    semanticRiskCategories := []
    semanticRiskReason := ""
    riskOrderChoice := none
    riskRequiresHumanReview := false
    humanHandoffRequested := false
    humanHandoffConfirmed := false
    staffComplaintSeverity := none
    explicitOtherComplaint := false
    formalComplaintReason := ""
    supportCaseAction := none
    supportCaseId := none
    supportCaseType := none
    supportCasePriority := none
    supportCaseStatus := none
    supportCaseReasonCodes := []
    providerFailureCasePersisted := false
    operationSnapshot := none
    operationLookupSuccess := false
    operationExtraction := none
    operationAmbiguous := false
    operationOutcome := none
    operationPolicyReasonCodes := []
    operationDisplayReason := ""
    operationId := none
    operationStatus := none
    operationServiceAction := none
    providerReference := none
    domainCaseReasonCodes := [] }

def sampleMessages : List Message :=
  [Message.human (Content.text "please cancel ORD-10001") (some "message-1")]

/-- A confirmed handoff and a case of an earlier turn leave no trace in the next. -/
theorem turn_isolated_leftover :
    turn sampleEnvironment (RefundState.start sampleMessages) =
      turn sampleEnvironment
        { RefundState.start sampleMessages with
          humanHandoffConfirmed := true
          supportCaseId := some 7
          domainCaseReasonCodes := ["delivery_failed"] } :=
  (turn_isolated sampleEnvironment rfl rfl).right

end RefundAgent
