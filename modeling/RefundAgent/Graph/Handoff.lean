import RefundAgent.Graph.Operations

/-!
# Support-case nodes

The last two nodes of every turn, and the node that reports on earlier cases.
The handoff node decides from the facts the turn has left in the state; the
attachment node links the case it finds there to the operation it finds there.
-/

namespace RefundAgent

open Foundation

/-!
## Policy input and trigger
-/

/-- `extract_hard_critical_categories`. -/
def extractHardCriticalCategories (s : RefundState) : List SemanticRiskCategory :=
  fromKeys ((s.riskRuleMatches.filter fun m =>
    decide (m.ruleType = RiskRuleType.hardCritical)).map fun m => m.category.semantic)

/-- Validation of the domain reason codes of a state. -/
def parseReasons : List String -> Except Failure (List HandoffReason)
  | [] => Except.ok []
  | code :: rest =>
      match HandoffReason.parse? code with
      | some reason => (parseReasons rest).map (List.cons reason)
      | none => Except.error (Failure.validationError "HandoffPolicyInput")

/-- `build_handoff_policy_input`. -/
def buildHandoffPolicyInput (s : RefundState) : Except Failure HandoffPolicyInput := do
  let codes ← parseReasons s.domainCaseReasonCodes
  if h : (s.semanticRiskLevel = none ∨ s.semanticRiskLevel = some SemanticRiskLevel.none) ↔
      s.semanticRiskCategories = [] then
    pure
      { hardCriticalCategories := extractHardCriticalCategories s
        semanticRiskLevel := s.semanticRiskLevel
        semanticRiskCategories := s.semanticRiskCategories
        refundRequiresManualReview := s.requiresManualReview
        humanHandoffConfirmed := s.humanHandoffConfirmed
        staffComplaintSeverity := s.staffComplaintSeverity
        explicitOtherComplaint := s.explicitOtherComplaint
        domainCaseReasonCodes := codes
        riskValid := h }
  else
    Except.error (Failure.validationError "HandoffPolicyInput")

/-- `state.get("order_id") or state.get("last_order_id")`. -/
def RefundState.caseOrder (s : RefundState) : Option TrimmedText :=
  (s.orderId.orElse fun _ => s.lastOrderId).map fun o => TrimmedText.ofString o.text

/-- `build_case_trigger`. -/
def buildCaseTrigger (env : Environment) (s : RefundState) : Except Failure CaseTrigger := do
  let metadata ← turnMetadata env s
    "A text HumanMessage is required when creating a support case"
    "The triggering HumanMessage must have a stable message ID"
    "The triggering message must not be empty"
  let thread ← cleanField "CaseTrigger" metadata.1
  let message ← cleanField "CaseTrigger" metadata.2.1
  let excerpt ← cleanField "CaseTrigger" metadata.2.2
  if h : excerpt.text.length ≤ 500 then
    pure
      { threadId := thread
        sourceMessageId := message
        orderId := s.caseOrder
        riskLevel :=
          if s.riskHardCritical then some SemanticRiskLevel.critical
          else s.semanticRiskLevel
        riskCategories :=
          fromKeys (extractHardCriticalCategories s ++ s.semanticRiskCategories)
        triggeringMessageExcerpt := excerpt
        excerpt_length := h }
  else
    Except.error (Failure.validationError "CaseTrigger")

/-!
## The handoff
-/

/-- `_case_result_update`, with the flag that every branch clears. -/
def RefundState.withCase (s : RefundState) (result : CaseServiceResult) : RefundState :=
  { s with
    supportCaseAction := some result.action
    supportCaseId := result.case.map SupportCase.caseId
    supportCaseType := result.case.map SupportCase.caseType
    supportCasePriority := result.case.map SupportCase.priority
    supportCaseStatus := result.case.map SupportCase.status
    supportCaseReasonCodes := (result.case.map SupportCase.reasonCodes).getD []
    providerFailureCasePersisted := false }

/-- A preceding transaction has already created and linked the case. -/
def caseAlreadyPersisted (s : RefundState) : Bool :=
  decide (s.providerFailureCasePersisted = true ∧ s.supportCaseId.isSome = true ∧
    s.supportCaseType = some CaseType.orderOperationReview ∧
    s.supportCasePriority = some CasePriority.p1 ∧
    (s.supportCaseStatus = some CaseStatus.open ∨
      s.supportCaseStatus = some CaseStatus.inProgress ∨
      s.supportCaseStatus = some CaseStatus.onHold) ∧
    HandoffReason.providerDeliveryFailed ∈ s.supportCaseReasonCodes)

/-- The decision of a report that no provider connection can take. -/
def safeDecision (decision : HandoffDecision) : HandoffDecision :=
  { shouldCreateCase := true
    caseType := some CaseType.deliveryInvestigation
    priority := some CasePriority.p1
    reasonCodes :=
      fromKeys (decision.reasonCodes ++ [HandoffReason.providerDeliveryFailed])
    decisionValid := by
      have hmem : HandoffReason.providerDeliveryFailed ∈
          fromKeys (decision.reasonCodes ++ [HandoffReason.providerDeliveryFailed]) := by
        rw [mem_fromKeys]
        simp
      simp [List.ne_nil_of_mem hmem] }

/-- The delivery branch of `finalize_case_handoff`. -/
def openInvestigation (env : Environment) (s : RefundState) (scope : AccessScope)
    (trigger : CaseTrigger) (decision : HandoffDecision)
    (issueType : DeliveryIssueType) : Call RefundState :=
  match env.resolve scope.tenantId with
  | Except.ok connectionId => do
      let result ← recordDeliveryInvestigation scope trigger decision issueType
        connectionId (env.clock ServicePlace.handoff)
      pure ((s.withCase result).say
        "A delivery investigation has been opened and queued for processing.")
  | Except.error e =>
      if connectionUnavailable e then do
        let result ← recordHandoff scope trigger (safeDecision decision)
          (env.clock ServicePlace.handoff)
        pure ((s.withCase result).say
          "Your delivery request requires human review before it can be processed.")
      else
        Program.raise e

/-- The structured report that a delivery investigation needs. -/
def requireIssueType (s : RefundState) : Except Failure DeliveryIssueType :=
  match s.operationExtraction with
  | none => Except.error (Failure.validationError "OperationRequestExtraction")
  | some extraction =>
      match extraction.deliveryIssueType with
      | some issueType => Except.ok issueType
      | none => Except.error (Failure.valueError
          "delivery investigation is missing a structured issue type")

/-- The branch of `finalize_case_handoff` that records a positive decision. -/
def recordDecision (env : Environment) (s : RefundState) (decision : HandoffDecision) :
    Call RefundState := do
  let trigger ← settled (buildCaseTrigger env s)
  let scope ← settled env.requireScope
  if decision.caseType ≠ some CaseType.deliveryInvestigation then do
    let result ← recordHandoff scope trigger decision (env.clock ServicePlace.handoff)
    pure (s.withCase result)
  else do
    let issueType ← settled (requireIssueType s)
    openInvestigation env s scope trigger decision issueType

/-- `finalize_case_handoff`. -/
def finalizeCaseHandoff (env : Environment) (s : RefundState) : Call RefundState :=
  if caseAlreadyPersisted s then
    pure { s with
      supportCaseAction :=
        s.supportCaseAction.orElse fun _ => some CaseServiceAction.duplicateIgnored
      providerFailureCasePersisted := false }
  else do
    let input ← settled (buildHandoffPolicyInput s)
    let decision := determineHandoffPolicy input
    if decision.shouldCreateCase then
      recordDecision env s decision
    else
      pure (s.withCase ⟨CaseServiceAction.notCreated, none, none⟩)

/-!
## The attachment
-/

/-- The guess that the fallback has already linked this operation and case. -/
def presumedLinked (s : RefundState) : Bool :=
  decide (s.supportCaseType = some CaseType.orderOperationReview ∧
    HandoffReason.providerDeliveryFailed ∈ s.supportCaseReasonCodes)

/-- `attach_operation_case`. -/
def attachOperationCase (env : Environment) (s : RefundState) : Call RefundState :=
  match s.operationId, s.supportCaseId with
  | some operationId, some caseId =>
      if s.operationStatus ≠
          some (GraphStatus.record OperationRecordStatus.manualReview) then
        pure s
      else if presumedLinked s then
        pure s
      else do
        let scope ← settled env.requireScope
        let result ← attachSupportCase scope operationId caseId
          ("graph-case:" ++ toString operationId ++ ":" ++ toString caseId)
          (env.clock ServicePlace.attachment)
        pure { s with
          operationServiceAction := some (GraphServiceAction.operation result.action) }
  | _, _ => pure s

/-!
## The status report
-/

def CaseType.word : CaseType -> String
  | generalSupport => "general_support"
  | refundReview => "refund_review"
  | businessEscalation => "business_escalation"
  | safetyReview => "safety_review"
  | staffConductComplaint => "staff_conduct_complaint"
  | otherComplaint => "other_complaint"
  | orderOperationReview => "order_operation_review"
  | deliveryInvestigation => "delivery_investigation"

def CasePriority.word : CasePriority -> String
  | p0 => "p0"
  | p1 => "p1"
  | p2 => "p2"
  | p3 => "p3"

def CaseStatus.word : CaseStatus -> String
  | CaseStatus.open => "open"
  | inProgress => "in_progress"
  | onHold => "on_hold"
  | resolved => "resolved"

def caseLine (case : SupportCase) : String :=
  toString case.caseId ++ ": " ++ case.caseType.word ++ ", " ++ case.priority.word ++
    ", " ++ case.status.word

/-- `support_case_status`. -/
def supportCaseStatusNode (env : Environment) (s : RefundState) : Call RefundState :=
  match env.requireThreadId with
  | Except.error _ =>
      pure (s.say ("I need this conversation's thread ID to look up support-case " ++
        "status."))
  | Except.ok threadId => do
      let scope ← settled env.requireScope
      let thread ← settled (cleanField "CaseListQuery" threadId)
      let cases ← Program.perform (listThreadCases scope thread)
      if cases.isEmpty then
        pure (s.say "There are no support cases for this conversation.")
      else
        pure (s.say (String.intercalate "\n"
          ("Support cases for this conversation:" :: cases.map caseLine)))

end RefundAgent
