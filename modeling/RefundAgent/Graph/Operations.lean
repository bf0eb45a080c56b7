import RefundAgent.Foundation.Workflow
import RefundAgent.Graph.Conversation
import RefundAgent.Operations.Policy

/-!
# The operation subflow

The child graph for cancellations, returns, exchanges and delivery reports.  The
order is loaded and the policy applied before the customer is asked; what the
answer acts on is the operation whose identifier the state carries.
-/

namespace RefundAgent

open Foundation

/-- The nodes of `build_operation_subgraph`. -/
inductive OperationNode where
  | detectOperationOrder
  | loadOperationSnapshot
  | extractOperationRequest
  | evaluateOperationRequest
  | operationConfirmation
  | submitConfirmedOperation
  | confirmManualOperation
  | cancelOperation
  | confirmDeliveryInvestigation
  | cancelDeliveryInvestigation
deriving DecidableEq, Repr

/-- `_THRESHOLDS`. -/
def thresholds : CurrencyThresholds := fun currency =>
  if currency = "USD" then some 10000 else none

/-- The default recursion limit of the graph runtime. -/
def recursionLimit : Nat := 25

def OperationRecordStatus.word : OperationRecordStatus -> String
  | pendingConfirmation => "pending_confirmation"
  | queued => "queued"
  | submitted => "submitted"
  | processing => "processing"
  | manualReview => "manual_review"
  | completed => "completed"
  | rejected => "rejected"
  | cancelledByCustomer => "cancelled_by_customer"

/-- A stripped field of a model that refuses empty texts. -/
def cleanField (model value : String) : Except Failure CleanText :=
  match CleanText.parse? value with
  | some t => Except.ok t
  | none => Except.error (Failure.validationError model)

/--
The thread, the message identifier and the excerpt under which a turn is
persisted, with the texts of the three refusals.
-/
def turnMetadata (env : Environment) (s : RefundState) (missing unstable empty : String) :
    Except Failure (String × String × String) :=
  match s.latestMessage with
  | none => Except.error (Failure.valueError missing)
  | some (_, none) => Except.error (Failure.valueError unstable)
  | some (text, some id) =>
      if Text.strip id = "" then
        Except.error (Failure.valueError unstable)
      else if Text.collapse text 500 = "" then
        Except.error (Failure.valueError empty)
      else do
        let threadId ← env.requireThreadId
        pure (threadId, id, Text.collapse text 500)

/-- `_latest_message_metadata`. -/
def latestMessageMetadata (env : Environment) (s : RefundState) :
    Except Failure (String × String × String) :=
  turnMetadata env s "A text HumanMessage is required for an order operation"
    "The operation request requires a stable HumanMessage ID"
    "The operation request must not be empty"

/-!
## Loading and extraction
-/

/-- `load_operation_snapshot`. -/
def loadOperationSnapshot (env : Environment) (s : RefundState) :
    Except Failure RefundState :=
  let missed := { s with operationSnapshot := none, operationLookupSuccess := false }
  match s.orderId with
  | none => Except.ok missed
  | some orderId => do
      let scope ← env.requireScope
      match scope.customerId with
      | none => pure (missed.say orderNotFound)
      | some customerId => do
          let snapshot ← env.getOrderForCustomer orderId customerId scope.tenantId
          match snapshot with
          | none => pure (missed.say orderNotFound)
          | some snapshot =>
              pure { s with
                operationSnapshot := some snapshot
                operationLookupSuccess := true
                lastOrderId := some orderId }

/-- `extract_operation_request`. -/
def extractOperationRequest (env : Environment) (s : RefundState) : RefundState :=
  match s.latestMessage with
  | none =>
      ({ s with operationExtraction := none, operationAmbiguous := true }).say
        "Please describe one order request."
  | some _ =>
      { s with
        operationExtraction := some env.extraction
        operationAmbiguous := env.extraction.ambiguous }

/-!
## Evaluation
-/

/-- Validation of the replacement variant of a request. -/
def replacementField : Option String -> Except Failure (Option CleanText)
  | none => Except.ok none
  | some value => (cleanField "OrderOperationRequest" value).map some

/-- The construction of `OrderOperationRequest`. -/
def buildOperationRequest (threadId sourceMessageId : String) (orderId : OrderId)
    (extraction : OperationRequestExtraction) (customerId tenantId : CleanText) :
    Except Failure OrderOperationRequest := do
  let thread ← cleanField "OrderOperationRequest" threadId
  let message ← cleanField "OrderOperationRequest" sourceMessageId
  let variant ← replacementField extraction.replacementVariantId
  match extraction.operationType, extraction.reason with
  | some operationType, some reason =>
      if h : operationSpecificFieldsValid operationType reason variant = true then
        pure
          { threadId := thread
            sourceMessageId := message
            orderId := orderId
            operationType := operationType
            reason := reason
            replacementVariantId := variant
            customerId := customerId
            tenantId := tenantId
            fieldsValid := h }
      else
        Except.error (Failure.validationError "OrderOperationRequest")
  | _, _ => Except.error (Failure.validationError "OrderOperationRequest")

/-- The inventory of the replacement, which only an exchange asks for. -/
def replacementAvailability (env : Environment) (request : OrderOperationRequest) :
    Except Failure (Option Bool) :=
  match request.operationType, request.replacementVariantId with
  | OperationType.exchange, some variant =>
      env.getReplacementAvailability request.orderId request.customerId
        request.tenantId variant
  | OperationType.exchange, none =>
      Except.error (Failure.assertionError "replacement_variant_id is not None")
  | _, _ => Except.ok none

/-- The policy result that every branch of `_persist_or_respond` returns. -/
def RefundState.withDecision (s : RefundState) (decision : OperationDecision) :
    RefundState :=
  { s with
    operationOutcome := some (GraphOutcome.operation decision.outcome)
    operationPolicyReasonCodes := decision.reasonCodes
    operationDisplayReason := decision.displayReason }

/-- The operation that `_persist_or_respond` puts into the state. -/
def RefundState.withOperation (s : RefundState) (result : OperationServiceResult) :
    RefundState :=
  { s with
    operationServiceAction := some (GraphServiceAction.operation result.action)
    operationId := some result.operation.operationId
    operationStatus := some (GraphStatus.record result.operation.status) }

/-- `_persist_or_respond`. -/
def persistOrRespond (env : Environment) (s : RefundState)
    (request : OrderOperationRequest) (snapshot : OrderSnapshot)
    (decision : OperationDecision) (excerpt : String) : Call RefundState :=
  if decision.outcome = OperationOutcome.eligible ∨
      decision.outcome = OperationOutcome.manualReview then do
    let scope ← settled env.requireScope
    let result ← createPendingOperation scope request snapshot decision excerpt
      (env.clock ServicePlace.createOperation)
    let update := (s.withDecision decision).withOperation result
    if result.action = OperationServiceAction.duplicateIgnored ∧
        result.operation.status ≠ OperationRecordStatus.pendingConfirmation then
      pure (update.say
        ("This operation is already " ++ result.operation.status.word ++ "."))
    else
      pure update
  else
    pure ((s.withDecision decision).say decision.displayReason)

/-- The delivery branch of `evaluate_operation_request`. -/
def evaluateDeliveryReport (env : Environment) (s : RefundState)
    (snapshot : OrderSnapshot) (threadId sourceMessageId : String)
    (issueType : DeliveryIssueType) (investigationRequested : Bool) :
    Except Failure RefundState := do
  let thread ← cleanField "DeliveryIssueRequest" threadId
  let message ← cleanField "DeliveryIssueRequest" sourceMessageId
  let decision ← evaluateDeliveryIssue
    { threadId := thread
      sourceMessageId := message
      orderId := snapshot.orderId
      issueType := issueType
      investigationRequested := investigationRequested }
    snapshot env.now
  pure (({ s with
    operationOutcome := some (GraphOutcome.delivery decision.outcome)
    operationPolicyReasonCodes := decision.reasonCodes
    operationDisplayReason := decision.displayReason
    domainCaseReasonCodes :=
      if decision.outcome = DeliveryOutcome.manualReview then decision.reasonCodes
      else s.domainCaseReasonCodes }).say decision.displayReason)

/-- The operation branch of `evaluate_operation_request`. -/
def evaluateOrderOperation (env : Environment) (s : RefundState)
    (snapshot : OrderSnapshot) (threadId sourceMessageId excerpt : String)
    (extraction : OperationRequestExtraction) : Call RefundState := do
  let scope ← settled env.requireScope
  match scope.customerId with
  | none =>
      pure (({ s with
        operationOutcome := some (GraphOutcome.operation OperationOutcome.rejected)
        operationPolicyReasonCodes := ["order_not_found"]
        operationDisplayReason := "Order not found." }).say orderNotFound)
  | some customerId => do
      let request ← settled (buildOperationRequest threadId sourceMessageId
        snapshot.orderId extraction customerId scope.tenantId)
      let availability ← settled (replacementAvailability env request)
      let decision ← settled
        (evaluateOperation request snapshot env.now thresholds availability)
      persistOrRespond env s request snapshot decision excerpt

/-- `evaluate_operation_request`. -/
def evaluateOperationRequest (env : Environment) (s : RefundState) : Call RefundState :=
  match s.operationExtraction with
  | none => Program.raise (Failure.validationError "OperationRequestExtraction")
  | some extraction =>
      if extraction.ambiguous then
        pure (({ s with operationOutcome := some GraphOutcome.ambiguous }).say
          ("Please choose one operation at a time: cancellation, return, or " ++
            "exchange."))
      else
        match s.operationSnapshot with
        | none =>
            Program.raise (Failure.valueError "operation snapshot is unavailable")
        | some snapshot => do
            let metadata ← settled (latestMessageMetadata env s)
            match extraction.deliveryIssueType with
            | some issueType =>
                settled (evaluateDeliveryReport env s snapshot metadata.1 metadata.2.1
                  issueType extraction.investigationRequested)
            | none =>
                evaluateOrderOperation env s snapshot metadata.1 metadata.2.1
                  metadata.2.2 extraction

/-!
## The customer's answer
-/

/-- `operation_confirmation_node`. -/
def operationConfirmationNode (env : Environment) (s : RefundState) :
    Except Failure OperationNode :=
  if env.operationConfirmation = ResumeValue.bool false then
    if s.operationId.isNone then Except.ok OperationNode.cancelDeliveryInvestigation
    else Except.ok OperationNode.cancelOperation
  else if env.operationConfirmation ≠ ResumeValue.bool true then
    Except.error
      (Failure.valueError "Order-operation confirmation must be true or false")
  else if s.operationId.isNone then
    Except.ok OperationNode.confirmDeliveryInvestigation
  else if s.operationOutcome.any GraphOutcome.isManualReview then
    Except.ok OperationNode.confirmManualOperation
  else
    Except.ok OperationNode.submitConfirmedOperation

/-- `_operation_id`. -/
def requireOperationId (s : RefundState) : Except Failure UUID :=
  match s.operationId with
  | some id => Except.ok id
  | none => Except.error (Failure.valueError "operation_id is unavailable")

/-- The two errors that send a confirmed operation to the fallback. -/
def connectionUnavailable : Failure -> Bool
  | Failure.providerConnectionNotFound => true
  | Failure.providerConfigurationUnavailable => true
  | _ => false

/-- The case action that the fallback reports. -/
def QueueFailureAction.caseAction : QueueFailureAction -> CaseServiceAction
  | created => CaseServiceAction.created
  | reused => CaseServiceAction.eventAppended
  | duplicateIgnored => CaseServiceAction.duplicateIgnored

/-- The state after the fallback has moved the operation to manual review. -/
def RefundState.withFallback (s : RefundState) (fallback : ProviderQueueFailureResult) :
    RefundState :=
  ({ s with
    operationStatus := some (GraphStatus.record fallback.operation.status)
    operationServiceAction := some (GraphServiceAction.fallback fallback.action)
    supportCaseAction := some fallback.action.caseAction
    supportCaseId := some fallback.supportCase.caseId
    supportCaseType := some fallback.supportCase.caseType
    supportCasePriority := some fallback.supportCase.priority
    supportCaseStatus := some fallback.supportCase.status
    supportCaseReasonCodes := fallback.supportCase.reasonCodes
    providerFailureCasePersisted := true }).say
      "Your request requires human review before it can be processed."

/-- `submit_confirmed_operation`. -/
def submitConfirmedOperationNode (env : Environment) (s : RefundState) :
    Call RefundState := do
  let operationId ← settled (requireOperationId s)
  let queue : Call RefundState := do
    let scope ← settled env.requireScope
    let connectionId ← settled (env.resolve scope.tenantId)
    let result ← queueConfirmedOperation scope operationId
      ("graph-queue:" ++ toString operationId) connectionId
      (env.clock ServicePlace.decideOperation)
    pure (({ s with
      operationStatus := some (GraphStatus.record result.operation.status)
      operationServiceAction := some (GraphServiceAction.operation result.action)
      providerReference := result.operation.providerReference }).say
        "Your request has been accepted for processing.")
  queue.rescue fun e =>
    if connectionUnavailable e then
      some do
        let scope ← settled env.requireScope
        let fallback ← moveToProviderManualReview scope operationId
          ("graph-provider-config-failure:" ++ toString operationId)
          (env.clock ServicePlace.fallback)
        pure (s.withFallback fallback)
    else
      none

/-- `confirm_manual_operation`. -/
def confirmManualOperationNode (env : Environment) (s : RefundState) :
    Call RefundState := do
  let operationId ← settled (requireOperationId s)
  let scope ← settled env.requireScope
  let result ← confirmOperation scope operationId
    ("graph-manual:" ++ toString operationId) (env.clock ServicePlace.decideOperation)
  pure (({ s with
    operationStatus := some (GraphStatus.record result.operation.status)
    operationServiceAction := some (GraphServiceAction.operation result.action)
    domainCaseReasonCodes := result.operation.policyReasonCodes }).say
      "Your request has been sent for manual review.")

/-- `cancel_operation`. -/
def cancelOperationNode (env : Environment) (s : RefundState) : Call RefundState := do
  let operationId ← settled (requireOperationId s)
  let scope ← settled env.requireScope
  let result ← cancelPendingOperation scope operationId
    ("graph-cancel:" ++ toString operationId) (env.clock ServicePlace.decideOperation)
  pure (({ s with
    operationStatus := some (GraphStatus.record result.operation.status)
    operationServiceAction := some (GraphServiceAction.operation result.action) }).say
      "The order operation has been cancelled.")

/-- `confirm_delivery_investigation_node`. -/
def confirmDeliveryInvestigationNode (s : RefundState) : RefundState :=
  ({ s with
    operationStatus := some (GraphStatus.record OperationRecordStatus.submitted) }).say
      "A delivery investigation has been opened."

/-- `cancel_delivery_investigation_node`. -/
def cancelDeliveryInvestigationNode (s : RefundState) : RefundState :=
  ({ s with
    operationStatus := some GraphStatus.cancelled
    domainCaseReasonCodes := [] }).say
      "The delivery investigation has not been opened."

/-!
## The graph
-/

/-- The condition of the edge from the evaluation to the question. -/
def asksForConfirmation (s : RefundState) : Bool :=
  decide ((s.operationId ≠ none ∧ s.operationStatus =
      some (GraphStatus.record OperationRecordStatus.pendingConfirmation)) ∨
    (s.operationId = none ∧ s.operationOutcome.any GraphOutcome.isManualReview = true ∧
      s.domainCaseReasonCodes ≠ []))

/-- A node that leaves the choice of its successor to the edges. -/
def stays {ν : Type} (p : Call RefundState) : Call (RefundState × Option ν) := do
  let s ← p
  pure (s, none)

def operationNode (env : Environment) :
    OperationNode -> RefundState -> Call (RefundState × Option OperationNode)
  | OperationNode.detectOperationOrder, s => stays (pure (detectOrder env s))
  | OperationNode.loadOperationSnapshot, s => stays (settled (loadOperationSnapshot env s))
  | OperationNode.extractOperationRequest, s => stays (pure (extractOperationRequest env s))
  | OperationNode.evaluateOperationRequest, s => stays (evaluateOperationRequest env s)
  | OperationNode.operationConfirmation, s => do
      let destination ← settled (operationConfirmationNode env s)
      pure (s, some destination)
  | OperationNode.submitConfirmedOperation, s => stays (submitConfirmedOperationNode env s)
  | OperationNode.confirmManualOperation, s => stays (confirmManualOperationNode env s)
  | OperationNode.cancelOperation, s => stays (cancelOperationNode env s)
  | OperationNode.confirmDeliveryInvestigation, s =>
      stays (pure (confirmDeliveryInvestigationNode s))
  | OperationNode.cancelDeliveryInvestigation, s =>
      stays (pure (cancelDeliveryInvestigationNode s))

def operationEdge : OperationNode -> RefundState -> Option OperationNode
  | OperationNode.detectOperationOrder, s =>
      if s.orderId.isSome then some OperationNode.loadOperationSnapshot else none
  | OperationNode.loadOperationSnapshot, s =>
      if s.operationLookupSuccess then some OperationNode.extractOperationRequest
      else none
  | OperationNode.extractOperationRequest, _ =>
      some OperationNode.evaluateOperationRequest
  | OperationNode.evaluateOperationRequest, s =>
      if asksForConfirmation s then some OperationNode.operationConfirmation else none
  | _, _ => none

/-- `build_operation_subgraph`. -/
def operationSubgraph (env : Environment) :
    Workflow Database Failure OperationNode RefundState :=
  { node := operationNode env
    edge := fun n s => Except.ok (operationEdge n s)
    exhausted := Failure.graphRecursion }

/-- The child graph as a node of the parent. -/
def operationSubflow (env : Environment) (s : RefundState) :
    Call (List OperationNode × RefundState) :=
  (operationSubgraph env).run recursionLimit OperationNode.detectOperationOrder s

end RefundAgent
