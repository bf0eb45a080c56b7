import RefundAgent.Operations.Repository

/-!
# The support-case repository

Scoped reads, and the writes that change one case, append one event and
possibly enqueue its provider command in one transaction.
-/

namespace RefundAgent

open Foundation

/-!
## Reads
-/

/-- `case_visibility`: the predicate on rows, or the refusal. -/
def caseVisibility (scope : AccessScope) : Except Failure (SupportCase -> Bool) :=
  if scope.hasPermission Permission.casesReadAll then
    Except.ok fun c => decide (c.tenantId = scope.tenantId)
  else if scope.hasPermission Permission.casesReadAssigned then
    Except.ok fun c => decide (c.tenantId = scope.tenantId) &&
      decide (c.assignedAgentId = some scope.userId)
  else if scope.hasPermission Permission.casesReadOwn then
    match scope.customerId with
    | some customerId => Except.ok fun c =>
        decide (c.tenantId = scope.tenantId) && decide (c.customerId = customerId)
    | none => Except.error
        (Failure.forbidden "own-case access requires a customer identity")
  else
    Except.error (Failure.forbidden "the caller cannot read support cases")

theorem caseVisibility_tenant {scope : AccessScope} {p : SupportCase -> Bool}
    (h : caseVisibility scope = Except.ok p) {c : SupportCase} (hc : p c = true) :
    c.tenantId = scope.tenantId := by
  unfold caseVisibility at h
  by_cases hall : scope.hasPermission Permission.casesReadAll = true
  · rw [if_pos hall] at h
    cases h
    simpa using hc
  rw [if_neg hall] at h
  by_cases hassigned : scope.hasPermission Permission.casesReadAssigned = true
  · rw [if_pos hassigned] at h
    cases h
    simp only [Bool.and_eq_true, decide_eq_true_eq] at hc
    exact hc.left
  rw [if_neg hassigned] at h
  by_cases hown : scope.hasPermission Permission.casesReadOwn = true
  · rw [if_pos hown] at h
    cases hcustomer : scope.customerId with
    | none =>
        rw [hcustomer] at h
        cases h
    | some customerId =>
        rw [hcustomer] at h
        cases h
        simp only [Bool.and_eq_true, decide_eq_true_eq] at hc
        exact hc.left
  · rw [if_neg hown] at h
    cases h

/-- Turn a computed predicate into a step of a transaction. -/
def visibleCases (scope : AccessScope) : Tx (SupportCase -> Bool) :=
  match caseVisibility scope with
  | Except.ok p => pure p
  | Except.error e => Transaction.raise e

/-- `_fetch_case`. -/
def fetchCase (query : Database -> Option SupportCase) : Tx (Option SupportCase) := do
  let found ← Transaction.read query
  match found with
  | none => pure none
  | some row => do
      let case ← caseFromRow row
      pure (some case)

/-- `get_case` of the repository. -/
def findCase (scope : AccessScope) (caseId : UUID) : Tx (Option SupportCase) := do
  let visible ← visibleCases scope
  fetchCase fun db => (db.cases.rows.get caseId).filter visible

/-- `ORDER BY events.created_at, events.event_id`. -/
def earlierEvent (a b : SupportCaseEvent × SupportCase) : Prop :=
  a.1.createdAt < b.1.createdAt ∨
    (a.1.createdAt = b.1.createdAt ∧ a.1.eventId ≤ b.1.eventId)

instance : DecidableRel earlierEvent := fun a b =>
  inferInstanceAs (Decidable (a.1.createdAt < b.1.createdAt ∨
    (a.1.createdAt = b.1.createdAt ∧ a.1.eventId ≤ b.1.eventId)))

/-- `find_by_source_message` of the case repository. -/
def findCaseBySourceMessage (scope : AccessScope)
    (threadId sourceMessageId : CleanText) : Tx (Option SupportCase) := do
  let visible ← visibleCases scope
  fetchCase fun db =>
    (((db.cases.events.select fun e =>
        decide (e.sourceMessageId = some sourceMessageId)).filterMap fun e =>
      ((db.cases.rows.get e.caseId).filter fun c =>
        decide (c.threadId = threadId) && visible c).map fun c =>
          (e, c)).insertionSort earlierEvent).head?.map Prod.snd

/-- `find_event_by_idempotency_key` of the case repository. -/
def findCaseEventByIdempotencyKey (scope : AccessScope) (key : String) :
    Tx (Option SupportCaseEvent) :=
  Transaction.read fun db => db.cases.events.rows.find? fun e =>
    decide (e.tenantId = scope.tenantId) && decide (e.idempotencyKey = key)

/--
`find_unresolved_case`.  The unique indexes on unresolved cases leave at most
one row to order by.
-/
def findUnresolvedCase (scope : AccessScope) (threadId : CleanText)
    (caseType : CaseType) (orderId : Option TrimmedText) :
    Tx (Option SupportCase) := do
  let visible ← visibleCases scope
  if caseType = CaseType.deliveryInvestigation then do
    Transaction.require (orderId.isSome = true)
      (Failure.valueError "delivery_investigation lookup requires an order_id")
    fetchCase fun db => db.cases.rows.rows.find? fun c =>
      decide (c.threadId = threadId) && decide (c.caseType = caseType) &&
        decide (c.orderId = orderId) && c.unresolved && visible c
  else
    fetchCase fun db => db.cases.rows.rows.find? fun c =>
      decide (c.threadId = threadId) && decide (c.caseType = caseType) &&
        c.unresolved && visible c

/-- The order of the work queue: priority, creation, identifier. -/
def earlierInQueue (a b : SupportCase) : Prop :=
  priorityRank a.priority < priorityRank b.priority ∨
    (priorityRank a.priority = priorityRank b.priority ∧
      (a.createdAt < b.createdAt ∨
        (a.createdAt = b.createdAt ∧ a.caseId ≤ b.caseId)))

instance : DecidableRel earlierInQueue := fun a b =>
  inferInstanceAs (Decidable (priorityRank a.priority < priorityRank b.priority ∨
    (priorityRank a.priority = priorityRank b.priority ∧
      (a.createdAt < b.createdAt ∨
        (a.createdAt = b.createdAt ∧ a.caseId ≤ b.caseId)))))

/-- The first page of `list_cases`, for a query that names a thread only. -/
def listThreadCases (scope : AccessScope) (threadId : CleanText) :
    Tx (List SupportCase) := do
  let visible ← visibleCases scope
  let page ← Transaction.read fun db =>
    (((db.cases.rows.select fun c =>
      visible c && decide (c.threadId = threadId)).insertionSort earlierInQueue).take 50)
  Transaction.forEach page caseFromRow

/-!
## Writes
-/

/-- `_validate_case_ownership` and `_validate_event_ownership`. -/
def validateCaseOwnership (scope : AccessScope) (case : SupportCase)
    (event : SupportCaseEvent) : Tx Unit := do
  Transaction.require (case.tenantId = scope.tenantId)
    (Failure.valueError "case tenant_id must match the access scope")
  Transaction.require
    (scope.role = Role.customer -> some case.customerId = scope.customerId)
    (Failure.valueError "case customer_id must match the access scope")
  Transaction.require (event.tenantId = scope.tenantId)
    (Failure.valueError "event tenant_id must match the access scope")

/-- `_raise_unique_violation` and the translation of the other errors. -/
def caseWriteError (event : SupportCaseEvent) (message : String) (e : Failure) :
    Failure :=
  match e with
  | Failure.uniqueViolation UniqueConstraint.supportCasesActiveThreadType =>
      Failure.activeCaseConflict event.caseId
  | Failure.uniqueViolation UniqueConstraint.supportCasesActiveDeliveryOrder =>
      Failure.activeCaseConflict event.caseId
  | Failure.uniqueViolation UniqueConstraint.supportCaseEventsIdempotency =>
      match event.sourceMessageId with
      | some message => Failure.duplicateSourceMessage message.text
      | none => Failure.duplicateIdempotencyKey event.idempotencyKey
  | Failure.uniqueViolation _ =>
      Failure.casePersistence "Unexpected unique constraint violation"
  | e => if e.isDatabaseError then Failure.casePersistence message else e

/-- `create_case_with_event`. -/
def createCaseWithEvent (scope : AccessScope) (case : SupportCase)
    (event : SupportCaseEvent) : Tx Unit :=
  Transaction.translate (caseWriteError event "Failed to create support case") do
    validateCaseOwnership scope case event
    insertCase case
    insertCaseEvent event

/-- The SET clause shared by the versioned updates. -/
def SupportCase.setFrom (case r : SupportCase) : SupportCase :=
  { r with
    orderId := case.orderId
    priority := case.priority
    status := case.status
    riskLevel := case.riskLevel
    riskCategories := case.riskCategories
    reasonCodes := case.reasonCodes
    onHoldReason := case.onHoldReason
    assignedAgentId := case.assignedAgentId
    updatedAt := case.updatedAt
    version := case.version }

/-- The versioned UPDATE and the event insert of one transaction. -/
def writeCase (scope : AccessScope) (case : SupportCase)
    (event : SupportCaseEvent) (expectedVersion : Nat) : Tx Unit := do
  let visible ← visibleCases scope
  let affected ← updateCase case.caseId
    (fun r => decide (r.version = expectedVersion) && visible r) case.setFrom
  Transaction.require (affected = 1)
    (Failure.concurrentCaseUpdate "case version changed")
  insertCaseEvent event

/-- `update_case_with_event`. -/
def updateCaseWithEvent (scope : AccessScope) (case : SupportCase)
    (event : SupportCaseEvent) (expectedVersion : Nat) : Tx Unit :=
  Transaction.translate (caseWriteError event "Failed to update support case") do
    Transaction.require (case.version = expectedVersion + 1)
      (Failure.valueError "case.version must equal expected_version + 1")
    validateCaseOwnership scope case event
    writeCase scope case event expectedVersion

/-- `validate_case_command_association`, with the first text it raises. -/
def caseCommandMismatch (case : SupportCase) (event : SupportCaseEvent)
    (command : ProviderCommandEnvelope) : Option String :=
  let checks : List (Bool × String) :=
    [(command.valid, "command is not a valid envelope"),
      (decide (case.caseType = CaseType.deliveryInvestigation),
        "case command writes require a delivery_investigation case"),
      (case.orderId.isSome, "delivery_investigation cases require an order_id"),
      (decide (command.commandType = ProviderCommandType.deliveryInvestigation),
        "command.command_type must be 'delivery_investigation'"),
      (decide (command.aggregateType = ProviderAggregateType.supportCase),
        "command.aggregate_type must be 'support_case'"),
      (decide (command.aggregateId = case.caseId),
        "command.aggregate_id must match the case_id"),
      (decide (command.tenantId = case.tenantId),
        "command.tenant_id must match the case tenant_id"),
      (decide (command.customerId = case.customerId),
        "command.customer_id must match the case customer_id"),
      (decide (command.sourceMessageId = case.sourceMessageId),
        "command.source_message_id must match the case source_message_id"),
      (command.expectedOrderVersion.isNone,
        "delivery commands must not carry expected_order_version"),
      (decide (case.orderId.map TrimmedText.text = some command.payload.orderId.text),
        "command payload order_id must match the case order_id"),
      (decide (event.caseId = case.caseId), "event.case_id must match the case_id"),
      (decide (event.tenantId = case.tenantId),
        "event.tenant_id must match the case tenant_id"),
      (decide (event.customerId = case.customerId),
        "event.customer_id must match the case customer_id")]
  (checks.find? fun check => !check.1).map Prod.snd

/-- `create_case_with_event_and_command`. -/
def createCaseWithEventAndCommand (scope : AccessScope) (case : SupportCase)
    (event : SupportCaseEvent) (command : ProviderCommandEnvelope) : Tx Unit :=
  Transaction.translate
    (caseWriteError event "Failed to create support case with command") do
      match caseCommandMismatch case event command with
      | some message => Transaction.raise (Failure.valueError message)
      | none => do
          validateCaseOwnership scope case event
          insertCase case
          insertCaseEvent event
          insertOutboxMessage command case.updatedAt

/-- A command of the case is on record. -/
def hasCaseCommand (db : Database) (caseId : UUID) : Bool :=
  db.outbox.messages.rows.any fun m =>
    decide (m.aggregateType = ProviderAggregateType.supportCase) &&
      decide (m.aggregateId = caseId)

/-- Enqueue a command unless the case has one. -/
def ensureCaseCommand (case : SupportCase) (command : ProviderCommandEnvelope) :
    Tx Bool := do
  let hasCommand ← Transaction.read (fun db => hasCaseCommand db case.caseId)
  if hasCommand then
    pure false
  else do
    insertOutboxMessage command case.updatedAt
    pure true

/-- `append_delivery_trigger_and_ensure_command`. -/
def appendDeliveryTriggerAndEnsureCommand (scope : AccessScope)
    (case : SupportCase) (event : SupportCaseEvent)
    (command : ProviderCommandEnvelope) (expectedVersion : Nat) : Tx Bool :=
  Transaction.translate
    (caseWriteError event "Failed to append delivery trigger and ensure command") do
      Transaction.require (case.version = expectedVersion + 1)
        (Failure.valueError "case.version must equal expected_version + 1")
      match caseCommandMismatch case event command with
      | some message => Transaction.raise (Failure.valueError message)
      | none => do
          validateCaseOwnership scope case event
          writeCase scope case event expectedVersion
          ensureCaseCommand case command

end RefundAgent
