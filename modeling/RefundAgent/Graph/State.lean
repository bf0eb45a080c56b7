import RefundAgent.Auth.RoundTrip
import RefundAgent.Cases.Policy
import RefundAgent.Integrations.ProviderFailure

/-!
# Graph state

The structured outputs of the language models, the messages of a conversation
and the state that the nodes of the customer-service graph share.  A key that
is absent from the state is read like the default value, so every field is
present here; an empty dictionary is `none`.

An order number enters the state only after it has matched the pattern, and
the fields for order numbers have the type that says so.
-/

namespace RefundAgent

open Foundation

/-!
## Model outputs
-/

inductive Intent where
  | refundRequest
  | orderInquiry
  | complaint
  | cancellationRequest
  | returnRequest
  | exchangeRequest
  | deliveryIssue
  | supportCaseStatus
deriving DecidableEq, Repr

inductive FormalComplaintKind where
  | ordinary
  | staffConduct
  | otherFormal
deriving DecidableEq, Repr

structure Route where
  step : Intent
  humanHandoffRequested : Bool

/-- The schema admits every combination of level and categories. -/
structure SemanticRiskDetection where
  riskLevel : SemanticRiskLevel
  categories : List SemanticRiskCategory
  reason : String

/-- `FormalComplaintDetection`; `validate_staff_severity` is `severityValid`. -/
structure FormalComplaintDetection where
  complaintKind : FormalComplaintKind
  staffComplaintSeverity : Option StaffComplaintSeverity
  reason : String
  severityValid : complaintKind = FormalComplaintKind.staffConduct ↔
    staffComplaintSeverity.isSome = true

structure OrderDetection where
  hasOrderId : Bool
  orderId : Option String

/-- `validate_shape`. -/
def extractionShapeValid (operationType : Option OperationType)
    (reason : Option OperationReason) (deliveryIssueType : Option DeliveryIssueType)
    (replacementVariantId : Option String) (ambiguous : Bool) : Bool :=
  if ambiguous then
    operationType.isNone && reason.isNone && deliveryIssueType.isNone &&
      replacementVariantId.isNone
  else if deliveryIssueType.isSome then
    operationType.isNone && reason.isNone
  else
    operationType.isSome && reason.isSome &&
      decide (operationType = some OperationType.exchange ↔
        replacementVariantId.isSome = true)

structure OperationRequestExtraction where
  operationType : Option OperationType
  reason : Option OperationReason
  deliveryIssueType : Option DeliveryIssueType
  replacementVariantId : Option String
  investigationRequested : Bool
  ambiguous : Bool
  shapeValid : extractionShapeValid operationType reason deliveryIssueType
    replacementVariantId ambiguous = true

/-!
## Risk rules
-/

inductive RiskRuleType where
  | hardCritical
  | riskSignal
deriving DecidableEq, Repr

/-- The categories of the rule file; there is no `other` among them. -/
inductive RiskCategory where
  | selfHarm
  | violence
  | legal
  | regulatory
  | reputation
deriving DecidableEq, Repr

def RiskCategory.semantic : RiskCategory -> SemanticRiskCategory
  | selfHarm => SemanticRiskCategory.selfHarm
  | violence => SemanticRiskCategory.violence
  | legal => SemanticRiskCategory.legal
  | regulatory => SemanticRiskCategory.regulatory
  | reputation => SemanticRiskCategory.reputation

structure RiskRule where
  id : String
  pattern : String
  category : RiskCategory
  ruleType : RiskRuleType

structure RiskMatch where
  ruleId : String
  matchedText : String
  category : RiskCategory
  ruleType : RiskRuleType

structure RiskMatchResult where
  hardCritical : Bool
  hasRiskSignals : Bool
  matches_ : List RiskMatch

/--
`RiskRuleMatcher`.  Normalization and the pattern search are the parameter
`finditer`, which returns the matched texts of one rule.  That the rules of each
section have the type of the section is checked when the file is loaded.
-/
structure RiskRuleMatcher where
  hardCritical : List RiskRule
  riskSignals : List RiskRule
  finditer : RiskRule -> String -> List String
  hardTyped : forall r, r ∈ hardCritical -> r.ruleType = RiskRuleType.hardCritical
  signalsTyped : forall r, r ∈ riskSignals -> r.ruleType = RiskRuleType.riskSignal

namespace RiskRuleMatcher

/-- `_find_matches`. -/
def findMatches (m : RiskRuleMatcher) (rules : List RiskRule) (text : String) :
    List RiskMatch :=
  rules.flatMap fun rule => (m.finditer rule text).map fun matched =>
    { ruleId := rule.id
      matchedText := matched
      category := rule.category
      ruleType := rule.ruleType }

/-- `match`. -/
def matchText (m : RiskRuleMatcher) (text : String) : RiskMatchResult :=
  let hard := m.findMatches m.hardCritical text
  let signals := m.findMatches m.riskSignals text
  { hardCritical := !hard.isEmpty
    hasRiskSignals := !signals.isEmpty
    matches_ := hard ++ signals }

end RiskRuleMatcher

/-!
## Messages
-/

/-- The content of a message: a text, or blocks of other media. -/
inductive Content where
  | text (s : String)
  | blocks

inductive Message where
  | human (content : Content) (id : Option String)
  | ai (text : String)

/-- The most recent human message. -/
def latestHuman : List Message -> Option (Content × Option String)
  | [] => none
  | Message.ai _ :: older => latestHuman older
  | Message.human content id :: _ => some (content, id)

/-- `latest_text_user_message`, with its text and its identifier. -/
def latestTextUserMessage (messages : List Message) : Option (String × Option String) :=
  match latestHuman messages.reverse with
  | some (Content.text s, id) => some (s, id)
  | _ => none

/-!
## The state
-/

/-- The order fields of the demonstration data that the refund flow reads. -/
structure OrderInfo where
  orderId : OrderId
  productName : String
  status : String
  deliveryDate : Option Int
  refunded : Bool
  amount : Nat

inductive GraphOutcome where
  | ambiguous
  | operation (outcome : OperationOutcome)
  | delivery (outcome : DeliveryOutcome)
deriving DecidableEq, Repr

/-- The outcome is spelled `manual_review`. -/
def GraphOutcome.isManualReview : GraphOutcome -> Bool
  | operation outcome => decide (outcome = OperationOutcome.manualReview)
  | delivery outcome => decide (outcome = DeliveryOutcome.manualReview)
  | ambiguous => false

/-- `operation_status`: a record status, or `cancelled` for a declined report. -/
inductive GraphStatus where
  | record (status : OperationRecordStatus)
  | cancelled
deriving DecidableEq, Repr

inductive GraphServiceAction where
  | operation (action : OperationServiceAction)
  | fallback (action : QueueFailureAction)
deriving DecidableEq, Repr

structure RefundState where
  messages : List Message
  orderId : Option OrderId
  lastOrderId : Option OrderId
  orderInfo : Option OrderInfo
  success : Bool
  searchSuccess : Bool
  eligible : Bool
  requiresManualReview : Bool
  orderIdValid : Bool
  reason : String
  decision : Option Intent
  riskHardCritical : Bool
  riskHasSignals : Bool
  riskRuleMatches : List RiskMatch
  semanticRiskLevel : Option SemanticRiskLevel
  semanticRiskCategories : List SemanticRiskCategory
  semanticRiskReason : String
  riskOrderChoice : Option String
  riskRequiresHumanReview : Bool
  humanHandoffRequested : Bool
  humanHandoffConfirmed : Bool
  staffComplaintSeverity : Option StaffComplaintSeverity
  explicitOtherComplaint : Bool
  formalComplaintReason : String
  supportCaseAction : Option CaseServiceAction
  supportCaseId : Option UUID
  supportCaseType : Option CaseType
  supportCasePriority : Option CasePriority
  supportCaseStatus : Option CaseStatus
  supportCaseReasonCodes : List HandoffReason
  providerFailureCasePersisted : Bool
  operationSnapshot : Option OrderSnapshot
  operationLookupSuccess : Bool
  operationExtraction : Option OperationRequestExtraction
  operationAmbiguous : Bool
  operationOutcome : Option GraphOutcome
  operationPolicyReasonCodes : List String
  operationDisplayReason : String
  operationId : Option UUID
  operationStatus : Option GraphStatus
  operationServiceAction : Option GraphServiceAction
  providerReference : Option String
  domainCaseReasonCodes : List String

namespace RefundState

/-- The update that `new_turn_state` returns, merged into a state. -/
def newTurn (s : RefundState) (decision : Option Intent) : RefundState :=
  { s with
    decision := decision
    orderId := none
    orderInfo := none
    success := false
    searchSuccess := false
    eligible := false
    requiresManualReview := false
    orderIdValid := false
    reason := ""
    humanHandoffRequested := false
    humanHandoffConfirmed := false
    staffComplaintSeverity := none
    explicitOtherComplaint := false
    formalComplaintReason := ""
    supportCaseAction := none
    supportCaseId := none
    supportCaseType := none
    supportCasePriority := none
    supportCaseStatus := none
    supportCaseReasonCodes := []
    providerFailureCasePersisted := false
    operationSnapshot := none
    operationLookupSuccess := false
    operationExtraction := none
    operationAmbiguous := false
    operationOutcome := none
    operationPolicyReasonCodes := []
    operationDisplayReason := ""
    operationId := none
    operationStatus := none
    operationServiceAction := none
    providerReference := none
    domainCaseReasonCodes := [] }

/-- The reducer of the `messages` key. -/
def say (s : RefundState) (text : String) : RefundState :=
  { s with messages := s.messages ++ [Message.ai text] }

/-- `latest_text_user_message` of the state. -/
def latestMessage (s : RefundState) : Option (String × Option String) :=
  latestTextUserMessage s.messages

end RefundState

/-!
## The environment of a turn

Everything a turn takes from outside: the configuration, the model outputs, the
values with which its interrupts are resumed, the order systems and the clock.
-/

inductive ResumeValue where
  | bool (b : Bool)
  | text (s : String)
  | other
deriving DecidableEq

structure OrderRecord where
  orderId : OrderId
  productName : String
  status : String
  deliveryDaysAgo : Option Int
  amount : Nat
  refunded : Bool
  ownerCustomerId : String
  tenantId : String

/-- The service calls of a turn, each with clock readings of its own. -/
inductive ServicePlace where
  | createOperation
  | decideOperation
  | fallback
  | refund
  | handoff
  | attachment
deriving DecidableEq, Repr

structure Environment where
  threadId : Option String
  user : Option AccessScope
  matcher : RiskRuleMatcher
  risk : SemanticRiskDetection
  route : Route
  complaint : FormalComplaintDetection
  orderDetection : OrderDetection
  extraction : OperationRequestExtraction
  reply : String
  supportContact : String
  orderPriority : ResumeValue
  humanHandoff : ResumeValue
  refundApproval : ResumeValue
  operationConfirmation : ResumeValue
  referencesPreviousOrder : String -> Bool
  orders : String -> Option OrderRecord
  getOrderForCustomer :
    OrderId -> CleanText -> CleanText -> Except Failure (Option OrderSnapshot)
  getReplacementAvailability :
    OrderId -> CleanText -> CleanText -> CleanText -> Except Failure (Option Bool)
  resolve : CleanText -> Except Failure String
  today : Nat -> Int
  now : Time
  clock : ServicePlace -> Nat -> Time

/-- The permissions are exactly those of the role. -/
def AccessScope.authentic (scope : AccessScope) : Bool :=
  (scope.permissions.all fun p => decide (p ∈ rolePermissions scope.role)) &&
    (rolePermissions scope.role).all fun p => decide (p ∈ scope.permissions)

namespace Environment

/-- `require_scope`. -/
def requireScope (env : Environment) : Except Failure AccessScope :=
  match env.user with
  | some scope =>
      if scope.authentic then
        Except.ok scope
      else
        Except.error (Failure.unauthenticated "role and permissions do not match")
  | none => Except.error (Failure.unauthenticated "authenticated user is missing")

/-- `require_thread_id`. -/
def requireThreadId (env : Environment) : Except Failure String :=
  match env.threadId with
  | some threadId =>
      if Text.strip threadId = "" then
        Except.error (Failure.valueError ("A non-empty configurable.thread_id is " ++
          "required when creating a support case"))
      else
        Except.ok threadId
  | none =>
      Except.error (Failure.valueError ("A non-empty configurable.thread_id is " ++
        "required when creating a support case"))

end Environment

end RefundAgent
