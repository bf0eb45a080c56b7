import RefundAgent.Cases.Repository
import RefundAgent.Operations.Service

/-!
# The support-case service

Handoffs, delivery investigations, status changes and assignments, each a
program of repository transactions with three write attempts.
-/

namespace RefundAgent

open Foundation

/-- The conflicts after which a handoff is tried again. -/
def caseConflict : Failure -> Bool
  | Failure.activeCaseConflict _ => true
  | Failure.concurrentCaseUpdate _ => true
  | Failure.duplicateIdempotencyKey _ => true
  | Failure.duplicateSourceMessage _ => true
  | _ => false

/-- `_message_idempotency_key`. -/
def messageKey (trigger : CaseTrigger) : String :=
  "message:" ++ trigger.threadId.text ++ ":" ++ trigger.sourceMessageId.text

/-!
## New cases
-/

/-- The case that `_create_case` and its delivery variant build. -/
def newCase (scope : AccessScope) (customerId : CleanText) (trigger : CaseTrigger)
    (caseType : CaseType) (priority : CasePriority)
    (reasonCodes : List HandoffReason) (caseId : UUID) (now : Time) : SupportCase :=
  { caseId := caseId
    threadId := trigger.threadId
    sourceMessageId := trigger.sourceMessageId
    orderId := trigger.orderId
    caseType := caseType
    priority := priority
    status := CaseStatus.open
    riskLevel := trigger.riskLevel
    riskCategories := trigger.riskCategories
    reasonCodes := reasonCodes
    triggeringMessageExcerpt := trigger.triggeringMessageExcerpt
    onHoldReason := none
    createdAt := now
    updatedAt := now
    version := 1
    customerId := customerId
    tenantId := scope.tenantId
    assignedAgentId := none }

/-- The event of a trigger, on a new or an existing case. -/
def triggerEvent (case : SupportCase) (trigger : CaseTrigger)
    (reasonCodes : List HandoffReason) (eventId : UUID) (eventType : CaseEventType)
    (previousPriority : Option CasePriority) (currentPriority : CasePriority)
    (now : Time) : SupportCaseEvent :=
  { SupportCaseEvent.blank eventId (messageKey trigger) case.caseId eventType
      case.customerId case.tenantId now with
    sourceMessageId := some trigger.sourceMessageId
    orderId := trigger.orderId
    riskLevel := trigger.riskLevel
    riskCategories := trigger.riskCategories
    reasonCodes := reasonCodes
    triggeringMessageExcerpt := trigger.triggeringMessageExcerpt.text
    previousPriority := previousPriority
    currentPriority := some currentPriority
    currentStatus := some case.status
    actor := some "system" }

/-- `_create_case`. -/
def createCase (scope : AccessScope) (customerId : CleanText)
    (trigger : CaseTrigger) (decision : HandoffDecision) (caseType : CaseType)
    (priority : CasePriority) (now : Time) : Call CaseServiceResult := do
  let caseId ← freshId
  let case := newCase scope customerId trigger caseType priority
    decision.reasonCodes caseId now
  Program.require (case.valid = true) (Failure.validationError "SupportCase")
  let eventId ← freshId
  let event := triggerEvent case trigger decision.reasonCodes eventId
    CaseEventType.caseCreated none priority now
  Program.perform (createCaseWithEvent scope case event)
  pure ⟨CaseServiceAction.created, some case, some event⟩

/-- `for_delivery_investigation` with its own checks and validation. -/
def deliveryCommand (case : SupportCase) (issueType : DeliveryIssueType)
    (connectionId : CleanText) (commandId : UUID) :
    Except Failure ProviderCommandEnvelope :=
  if case.caseType ≠ CaseType.deliveryInvestigation then
    Except.error (Failure.valueError
      "for_delivery_investigation requires a delivery_investigation case")
  else
    match case.orderId with
    | none => Except.error (Failure.valueError
        "a delivery_investigation case must carry an order_id")
    | some text =>
        match OrderId.parse? text.text with
        | none => Except.error
            (Failure.validationError "DeliveryInvestigationCommandPayload")
        | some orderId => Except.ok
            (ProviderCommandEnvelope.forDeliveryInvestigation case orderId issueType
              connectionId commandId)

/-- `_create_delivery_case_with_command`. -/
def createDeliveryCaseWithCommand (scope : AccessScope) (customerId : CleanText)
    (trigger : CaseTrigger) (decision : HandoffDecision) (priority : CasePriority)
    (issueType : DeliveryIssueType) (connectionId : CleanText) (now : Time) :
    Call CaseServiceResult := do
  Program.require (trigger.orderId.isSome = true)
    (Failure.valueError "delivery investigation requires an order_id")
  let caseId ← freshId
  let case := newCase scope customerId trigger CaseType.deliveryInvestigation
    priority decision.reasonCodes caseId now
  Program.require (case.valid = true) (Failure.validationError "SupportCase")
  let eventId ← freshId
  let event := triggerEvent case trigger decision.reasonCodes eventId
    CaseEventType.caseCreated none priority now
  let commandId ← freshId
  let command ← Program.done (deliveryCommand case issueType connectionId commandId)
  Program.perform (createCaseWithEventAndCommand scope case event command)
  pure ⟨CaseServiceAction.created, some case, some event⟩

/-!
## Existing cases
-/

/-- `existing.order_id or trigger.order_id`. -/
def orderOr (existing incoming : Option TrimmedText) : Option TrimmedText :=
  match existing with
  | some o => if o.text = "" then incoming else some o
  | none => incoming

/-- The case with the trigger merged in. -/
def SupportCase.withTrigger (existing : SupportCase) (trigger : CaseTrigger)
    (decision : HandoffDecision) (priority : CasePriority) (now : Time) :
    SupportCase :=
  { existing with
    orderId := orderOr existing.orderId trigger.orderId
    priority := selectHigherPriority existing.priority priority
    riskLevel := selectHigherRiskLevel existing.riskLevel trigger.riskLevel
    riskCategories := mergeUnique existing.riskCategories trigger.riskCategories
    reasonCodes := mergeUnique existing.reasonCodes decision.reasonCodes
    updatedAt := now
    version := existing.version + 1 }

/-- The command metadata that only the queueing path supplies. -/
structure CommandMetadata where
  issueType : DeliveryIssueType
  connectionId : CleanText

/-- `_append_trigger`. -/
def appendTrigger (scope : AccessScope) (existing : SupportCase)
    (trigger : CaseTrigger) (decision : HandoffDecision) (priority : CasePriority)
    (metadata : Option CommandMetadata) (now : Time) : Call CaseServiceResult := do
  let updated := existing.withTrigger trigger decision priority now
  Program.require (updated.valid = true) (Failure.validationError "SupportCase")
  let eventId ← freshId
  let event := triggerEvent existing trigger decision.reasonCodes eventId
    CaseEventType.triggerAppended (some existing.priority) updated.priority now
  match existing.caseType, metadata with
  | CaseType.deliveryInvestigation, some m => do
      let commandId ← freshId
      let command ← Program.done
        (deliveryCommand updated m.issueType m.connectionId commandId)
      let _ ← Program.perform (appendDeliveryTriggerAndEnsureCommand scope updated
        event command existing.version)
      pure ⟨CaseServiceAction.eventAppended, some updated, some event⟩
  | _, _ => do
      Program.perform (updateCaseWithEvent scope updated event existing.version)
      pure ⟨CaseServiceAction.eventAppended, some updated, some event⟩

/-!
## Handoffs
-/

/-- The write attempts shared by the two ways of recording a handoff. -/
def handoffAttempts (scope : AccessScope) (trigger : CaseTrigger)
    (caseType : CaseType) (create : Time -> Call CaseServiceResult)
    (append : SupportCase -> Time -> Call CaseServiceResult) (failure : String)
    (clock : Nat -> Time) : Nat -> Call CaseServiceResult
  | 0 => Program.raise (Failure.concurrentCaseUpdate failure)
  | n + 1 => do
      let duplicate ← Program.perform (findCaseBySourceMessage scope
        trigger.threadId trigger.sourceMessageId)
      match duplicate with
      | some case =>
          pure ⟨CaseServiceAction.duplicateIgnored, some case, none⟩
      | none => do
          let existing ← Program.perform (findUnresolvedCase scope
            trigger.threadId caseType trigger.orderId)
          let write :=
            match existing with
            | none => create (clock n)
            | some case => append case (clock n)
          write.rescue fun e =>
            if caseConflict e then
              some (handoffAttempts scope trigger caseType create append failure
                clock n)
            else
              none

/-- `record_handoff`. -/
def recordHandoff (scope : AccessScope) (trigger : CaseTrigger)
    (decision : HandoffDecision) (clock : Nat -> Time) : Call CaseServiceResult :=
  match scope.customerId, decision.caseType, decision.priority with
  | none, _, _ =>
      Program.raise (Failure.valueError "only customers may create support cases")
  | some customerId, some caseType, some priority =>
      if decision.shouldCreateCase then
        handoffAttempts scope trigger caseType
          (createCase scope customerId trigger decision caseType priority)
          (fun case => appendTrigger scope case trigger decision priority none)
          "Could not record the handoff after concurrent write conflicts" clock
          maxWriteAttempts
      else
        pure ⟨CaseServiceAction.notCreated, none, none⟩
  | some _, _, _ =>
      if decision.shouldCreateCase then
        Program.raise
          (Failure.valueError "A positive handoff decision must be complete")
      else
        pure ⟨CaseServiceAction.notCreated, none, none⟩

/-- `record_delivery_investigation`. -/
def recordDeliveryInvestigation (scope : AccessScope) (trigger : CaseTrigger)
    (decision : HandoffDecision) (issueType : DeliveryIssueType)
    (connectionId : String) (clock : Nat -> Time) : Call CaseServiceResult :=
  match scope.customerId, decision.priority with
  | none, _ =>
      Program.raise (Failure.valueError "only customers may create support cases")
  | some _, none => Program.raise (Failure.valueError
      "a delivery-investigation handoff decision is required")
  | some customerId, some priority => do
      Program.require (decision.shouldCreateCase = true ∧
          decision.caseType = some CaseType.deliveryInvestigation)
        (Failure.valueError "a delivery-investigation handoff decision is required")
      match CleanText.parse? (Text.strip connectionId) with
      | none => Program.raise (Failure.valueError "connection_id must not be empty")
      | some connection =>
          handoffAttempts scope trigger CaseType.deliveryInvestigation
            (createDeliveryCaseWithCommand scope customerId trigger decision priority
              issueType connection)
            (fun case => appendTrigger scope case trigger decision priority
              (some ⟨issueType, connection⟩))
            ("Could not record the delivery investigation after concurrent " ++
              "write conflicts") clock maxWriteAttempts

/-!
## Agents
-/

def getCaseOrRaise (scope : AccessScope) (caseId : UUID) : Call SupportCase := do
  let found ← Program.perform (findCase scope caseId)
  match found with
  | some case => pure case
  | none => Program.raise (Failure.caseNotFound caseId)

def caseUnchanged (case : SupportCase) : CaseServiceResult :=
  ⟨CaseServiceAction.statusUnchanged, some case, none⟩

/--
One versioned update by an agent.  A recorded event of an identical request
answers for the conflict; otherwise the next try.
-/
def updateCaseOrRetry (scope : AccessScope) (key : String) (current updated : SupportCase)
    (event : SupportCaseEvent) (action : CaseServiceAction)
    (again : Call CaseServiceResult) : Call CaseServiceResult :=
  (do
    Program.perform (updateCaseWithEvent scope updated event current.version)
    pure ⟨action, some updated, some event⟩ : Call CaseServiceResult).rescue fun e =>
      match e with
      | Failure.duplicateIdempotencyKey _ => some do
          let duplicate ← Program.perform (findCaseEventByIdempotencyKey scope key)
          match duplicate with
          | none => again
          | some event => do
              let case ← Program.perform (findCase scope event.caseId)
              match case with
              | some case => pure (caseUnchanged case)
              | none => again
      | Failure.concurrentCaseUpdate _ => some again
      | _ => none

/-- The case of a request that has been recorded before. -/
def replayedCase (scope : AccessScope) (key : String) (run : Call CaseServiceResult) :
    Call CaseServiceResult := do
  let previous ← Program.perform (findCaseEventByIdempotencyKey scope key)
  match previous with
  | some event => do
      let case ← getCaseOrRaise scope event.caseId
      pure (caseUnchanged case)
  | none => run

/-- The case after a status change. -/
def SupportCase.withStatus (current : SupportCase) (targetStatus : CaseStatus)
    (onHoldReason : Option OnHoldReason) (now : Time) : SupportCase :=
  { current with
    status := targetStatus
    onHoldReason := onHoldReason
    updatedAt := now
    version := current.version + 1 }

def caseStatusEvent (current : SupportCase) (targetStatus : CaseStatus)
    (onHoldReason : Option OnHoldReason) (eventId : UUID) (key actor : String)
    (now : Time) : SupportCaseEvent :=
  { SupportCaseEvent.blank eventId key current.caseId CaseEventType.statusChanged
      current.customerId current.tenantId now with
    previousPriority := some current.priority
    currentPriority := some current.priority
    previousStatus := some current.status
    currentStatus := some targetStatus
    onHoldReason := onHoldReason
    actor := some actor }

/-- The write attempts of `change_status`. -/
def statusAttempts (scope : AccessScope) (caseId : UUID) (targetStatus : CaseStatus)
    (onHoldReason : Option OnHoldReason) (key : String) (clock : Nat -> Time) :
    Nat -> Call CaseServiceResult
  | 0 => Program.raise (Failure.concurrentCaseUpdate
      "Could not change case status after concurrent write conflicts")
  | n + 1 => do
      let current ← getCaseOrRaise scope caseId
      if current.status = targetStatus then
        pure (caseUnchanged current)
      else do
        Program.require
          (targetStatus ∈ allowedCaseStatusTransitions current.status)
          (Failure.invalidCaseStatusTransition current.status targetStatus)
        Program.require
          (targetStatus = CaseStatus.onHold -> onHoldReason.isSome = true)
          (Failure.valueError
            "on_hold_reason is required when putting a case on hold")
        Program.require
          (targetStatus ≠ CaseStatus.onHold -> onHoldReason.isNone = true)
          (Failure.valueError "on_hold_reason is only valid for the on_hold status")
        let updated := current.withStatus targetStatus onHoldReason (clock n)
        Program.require (updated.valid = true)
          (Failure.validationError "SupportCase")
        let eventId ← freshId
        updateCaseOrRetry scope key current updated
          (caseStatusEvent current targetStatus onHoldReason eventId key
            scope.identity (clock n))
          CaseServiceAction.statusChanged
          (statusAttempts scope caseId targetStatus onHoldReason key clock n)

/-- `change_status`. -/
def changeStatus (scope : AccessScope) (caseId : UUID) (targetStatus : CaseStatus)
    (requestId : String) (onHoldReason : Option OnHoldReason)
    (clock : Nat -> Time) : Call CaseServiceResult := do
  Program.require
    (scope.hasPermission Permission.casesUpdateAssigned = true ∨
      scope.hasPermission Permission.casesUpdateAll = true)
    (Failure.forbidden "the caller cannot update support cases")
  let request ← Program.done (normalizeRequestId requestId)
  let key := "status:" ++ toString caseId ++ ":" ++ request
  replayedCase scope key
    (statusAttempts scope caseId targetStatus onHoldReason key clock
      maxWriteAttempts)

structure DirectoryUser where
  tenantId : CleanText
  userId : CleanText
  active : Bool
  roles : List Role

/-- The identity directory, when the application has one. -/
abbrev IdentityDirectory :=
  Option (CleanText -> CleanText -> Except Failure (Option DirectoryUser))

/-- `_require_assignment_target`. -/
def requireAssignmentTarget (directory : IdentityDirectory)
    (tenantId agentId : CleanText) : Except Failure Unit :=
  match directory with
  | none => Except.error Failure.directoryInfrastructureUnavailable
  | some findUser => do
      let user ← findUser tenantId agentId
      if user.any fun u => decide (u.tenantId = tenantId) &&
          decide (u.userId = agentId) && u.active &&
          (decide (Role.supportAgent ∈ u.roles) ||
            decide (Role.supervisor ∈ u.roles)) then
        pure ()
      else
        Except.error Failure.assignmentTargetUnavailable

/-- `RESERVED_AGENT_IDS`. -/
def reservedAgentIds : List String :=
  ["system", "legacy"]

/-- `_validate_agent_id`. -/
def validateAgentId (agentId : String) : Except Failure CleanText :=
  match CleanText.parse? (Text.strip agentId) with
  | none => Except.error (Failure.valueError "agent_id must not be empty")
  | some id =>
      if 128 < id.text.length then
        Except.error (Failure.valueError "agent_id must not exceed 128 characters")
      else if ':' ∈ id.text.toList then
        Except.error (Failure.valueError "agent_id must not contain ':'")
      else if id.text ∈ reservedAgentIds then
        Except.error (Failure.valueError ("agent_id is reserved: " ++ id.text))
      else
        Except.ok id

/-- The case after an assignment. -/
def SupportCase.withAgent (current : SupportCase) (agentId : CleanText)
    (now : Time) : SupportCase :=
  { current with
    assignedAgentId := some agentId
    updatedAt := now
    version := current.version + 1 }

def assignedEvent (current : SupportCase) (agentId : CleanText) (eventId : UUID)
    (key actor : String) (now : Time) : SupportCaseEvent :=
  { SupportCaseEvent.blank eventId key current.caseId CaseEventType.assigned
      current.customerId current.tenantId now with
    previousAssignedAgentId := current.assignedAgentId
    currentAssignedAgentId := some agentId
    actor := some actor }

/-- The write attempts of `assign_case`. -/
def assignAttempts (scope : AccessScope) (caseId : UUID) (agentId : CleanText)
    (key : String) (clock : Nat -> Time) : Nat -> Call CaseServiceResult
  | 0 => Program.raise (Failure.concurrentCaseUpdate
      "Could not assign the support case after concurrent write conflicts")
  | n + 1 => do
      let current ← getCaseOrRaise scope caseId
      if current.assignedAgentId = some agentId then
        pure (caseUnchanged current)
      else do
        let updated := current.withAgent agentId (clock n)
        Program.require (updated.valid = true)
          (Failure.validationError "SupportCase")
        let eventId ← freshId
        updateCaseOrRetry scope key current updated
          (assignedEvent current agentId eventId key scope.identity (clock n))
          CaseServiceAction.assigned
          (assignAttempts scope caseId agentId key clock n)

/-- `assign_case`. -/
def assignCase (scope : AccessScope) (directory : IdentityDirectory)
    (caseId : UUID) (agentId requestId : String) (clock : Nat -> Time) :
    Call CaseServiceResult := do
  Program.require (scope.hasPermission Permission.casesAssign = true)
    (Failure.forbidden "the caller cannot assign support cases")
  let agent ← Program.done (validateAgentId agentId)
  let request ← Program.done (normalizeRequestId requestId)
  let key := "assign:" ++ toString caseId ++ ":" ++ request
  replayedCase scope key do
    let _ ← getCaseOrRaise scope caseId
    Program.done (requireAssignmentTarget directory scope.tenantId agent)
    assignAttempts scope caseId agent key clock maxWriteAttempts

end RefundAgent
