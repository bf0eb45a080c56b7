import RefundAgent.Model.Vocabulary

/-!
# Support cases

The persisted case, its events, and the merge rules of the case service.  The
display text of a case and its creation stamp are stored but read by nothing
that is modelled; they are left out.
-/

namespace RefundAgent

open Foundation

structure SupportCase where
  caseId : UUID
  threadId : CleanText
  sourceMessageId : CleanText
  orderId : Option TrimmedText
  caseType : CaseType
  priority : CasePriority
  status : CaseStatus
  riskLevel : Option SemanticRiskLevel
  riskCategories : List SemanticRiskCategory
  reasonCodes : List HandoffReason
  triggeringMessageExcerpt : CleanText
  onHoldReason : Option OnHoldReason
  createdAt : Time
  updatedAt : Time
  version : Nat
  customerId : CleanText
  tenantId : CleanText
  assignedAgentId : Option CleanText
deriving DecidableEq

namespace SupportCase

/-- `validate_lifecycle_fields` with the field bounds. -/
def valid (c : SupportCase) : Bool :=
  decide (c.createdAt ≤ c.updatedAt) &&
    decide (c.status = CaseStatus.onHold ↔ c.onHoldReason.isSome = true) &&
    (decide (c.caseType ≠ CaseType.deliveryInvestigation) || c.orderId.isSome) &&
    decide (c.reasonCodes ≠ []) &&
    decide (c.triggeringMessageExcerpt.text.length ≤ 500) &&
    decide (1 ≤ c.version)

/--
The CHECK constraints of `support_cases` that a write can violate:
`ck_support_cases_timestamps`, `ck_support_cases_on_hold_reason`,
`ck_support_cases_delivery_order`, `ck_support_cases_reason_codes` and the
length of the order column.
-/
def checks (c : SupportCase) : Bool :=
  decide (c.createdAt ≤ c.updatedAt) &&
    decide (c.status = CaseStatus.onHold ↔ c.onHoldReason.isSome = true) &&
    (decide (c.caseType ≠ CaseType.deliveryInvestigation) ||
      c.orderId.any fun o => decide (Text.btrim o.text ≠ "")) &&
    decide (c.reasonCodes ≠ []) &&
    c.orderId.all fun o => decide (o.text.length ≤ 50)

/-- The statuses covered by the unique indexes on active cases. -/
def unresolved (c : SupportCase) : Bool :=
  decide (c.status = CaseStatus.open ∨ c.status = CaseStatus.inProgress ∨
    c.status = CaseStatus.onHold)

end SupportCase

structure SupportCaseEvent where
  eventId : UUID
  idempotencyKey : String
  caseId : UUID
  eventType : CaseEventType
  sourceMessageId : Option CleanText
  orderId : Option TrimmedText
  riskLevel : Option SemanticRiskLevel
  riskCategories : List SemanticRiskCategory
  reasonCodes : List HandoffReason
  triggeringMessageExcerpt : String
  previousPriority : Option CasePriority
  currentPriority : Option CasePriority
  previousStatus : Option CaseStatus
  currentStatus : Option CaseStatus
  onHoldReason : Option OnHoldReason
  previousAssignedAgentId : Option CleanText
  currentAssignedAgentId : Option CleanText
  providerCommandId : Option UUID
  providerCommandStatus : Option ProviderCommandExecutionStatus
  providerReference : Option CleanText
  providerRedriveReasonCode : Option RedriveReasonCode
  actor : Option String
  customerId : CleanText
  tenantId : CleanText
  createdAt : Time
deriving DecidableEq

/-- An event with every optional field at the model's default. -/
def SupportCaseEvent.blank (eventId : UUID) (idempotencyKey : String)
    (caseId : UUID) (eventType : CaseEventType) (customerId tenantId : CleanText)
    (createdAt : Time) : SupportCaseEvent :=
  { eventId := eventId
    idempotencyKey := idempotencyKey
    caseId := caseId
    eventType := eventType
    sourceMessageId := none
    orderId := none
    riskLevel := none
    riskCategories := []
    reasonCodes := []
    triggeringMessageExcerpt := ""
    previousPriority := none
    currentPriority := none
    previousStatus := none
    currentStatus := none
    onHoldReason := none
    previousAssignedAgentId := none
    currentAssignedAgentId := none
    providerCommandId := none
    providerCommandStatus := none
    providerReference := none
    providerRedriveReasonCode := none
    actor := none
    customerId := customerId
    tenantId := tenantId
    createdAt := createdAt }

structure CaseTrigger where
  threadId : CleanText
  sourceMessageId : CleanText
  orderId : Option TrimmedText
  riskLevel : Option SemanticRiskLevel
  riskCategories : List SemanticRiskCategory
  triggeringMessageExcerpt : CleanText
  excerpt_length : triggeringMessageExcerpt.text.length ≤ 500

/-- `HandoffDecision`; `validate_decision` is the field `decisionValid`. -/
structure HandoffDecision where
  shouldCreateCase : Bool
  caseType : Option CaseType
  priority : Option CasePriority
  reasonCodes : List HandoffReason
  decisionValid :
    if shouldCreateCase then
      caseType.isSome = true ∧ priority.isSome = true ∧ reasonCodes ≠ []
    else
      caseType = none ∧ priority = none ∧ reasonCodes = []

structure CaseServiceResult where
  action : CaseServiceAction
  case : Option SupportCase
  event : Option SupportCaseEvent
deriving DecidableEq

/-!
## Merging
-/

def priorityRank : CasePriority -> Nat
  | CasePriority.p0 => 0
  | CasePriority.p1 => 1
  | CasePriority.p2 => 2
  | CasePriority.p3 => 3

/-- `select_higher_priority`: the first of the two with the least rank. -/
def selectHigherPriority (current incoming : CasePriority) : CasePriority :=
  if priorityRank incoming < priorityRank current then incoming else current

theorem selectHigherPriority_le (current incoming : CasePriority) :
    priorityRank (selectHigherPriority current incoming) ≤ priorityRank current ∧
      priorityRank (selectHigherPriority current incoming) ≤ priorityRank incoming := by
  unfold selectHigherPriority
  by_cases h : priorityRank incoming < priorityRank current
  · rw [if_pos h]
    exact ⟨Nat.le_of_lt h, Nat.le_refl _⟩
  · rw [if_neg h]
    exact ⟨Nat.le_refl _, Nat.le_of_not_lt h⟩

def riskLevelRank : SemanticRiskLevel -> Nat
  | SemanticRiskLevel.none => 0
  | SemanticRiskLevel.low => 1
  | SemanticRiskLevel.medium => 2
  | SemanticRiskLevel.high => 3
  | SemanticRiskLevel.critical => 4

def selectHigherRiskLevel :
    Option SemanticRiskLevel -> Option SemanticRiskLevel -> Option SemanticRiskLevel
  | none, incoming => incoming
  | some current, none => some current
  | some current, some incoming =>
      if riskLevelRank current < riskLevelRank incoming then
        some incoming
      else
        some current

theorem selectHigherRiskLevel_le (current : SemanticRiskLevel)
    (incoming : Option SemanticRiskLevel) :
    exists y, selectHigherRiskLevel (some current) incoming = some y ∧
      riskLevelRank current ≤ riskLevelRank y := by
  cases incoming with
  | none => exact ⟨current, rfl, Nat.le_refl _⟩
  | some x =>
      show exists y, (if riskLevelRank current < riskLevelRank x then some x
        else some current) = some y ∧ _
      by_cases h : riskLevelRank current < riskLevelRank x
      · rw [if_pos h]
        exact ⟨x, rfl, Nat.le_of_lt h⟩
      · rw [if_neg h]
        exact ⟨current, rfl, Nat.le_refl _⟩

/-- `tuple(dict.fromkeys(...))`: the first occurrence of every value. -/
def fromKeys {α : Type} [DecidableEq α] : List α -> List α
  | [] => []
  | a :: rest => a :: (fromKeys rest).filter (fun b => decide (b ≠ a))

theorem mem_fromKeys {α : Type} [DecidableEq α] {a : α} :
    forall {values : List α}, a ∈ fromKeys values ↔ a ∈ values := by
  intro values
  induction values with
  | nil => simp [fromKeys]
  | cons b rest ih =>
      by_cases hab : a = b
      · simp [fromKeys, hab]
      · simp [fromKeys, hab, ih]

/-- `_merge_unique`. -/
def mergeUnique {α : Type} [DecidableEq α] (current incoming : List α) : List α :=
  fromKeys (current ++ incoming)

/-- `_ALLOWED_STATUS_TRANSITIONS` of the case policy. -/
def allowedCaseStatusTransitions : CaseStatus -> List CaseStatus
  | CaseStatus.open => [CaseStatus.inProgress]
  | CaseStatus.inProgress => [CaseStatus.onHold, CaseStatus.resolved]
  | CaseStatus.onHold => [CaseStatus.inProgress, CaseStatus.resolved]
  | CaseStatus.resolved => [CaseStatus.open]

end RefundAgent
