import RefundAgent.Integrations.OutboxFinalizer

/-!
# The order-operation repository

Scoped reads, and the writes that change one operation, append its events and
possibly enqueue its provider command in one transaction.
-/

namespace RefundAgent

open Foundation

/-!
## Reads
-/

/-- `customer_owned_visibility`. -/
def customerOwnedVisibility (scope : AccessScope) : Tx CleanText :=
  Transaction.fetch (fun _ => scope.customerId)
    (Failure.forbidden "only customers may access customer-owned records")

/-- The rows a customer owns. -/
def OrderOperation.ownedBy (tenantId customerId : CleanText) (o : OrderOperation) :
    Bool :=
  decide (o.tenantId = tenantId) && decide (o.customerId = customerId)

/-- `_fetch_operation`: the first row of a query, read through the model. -/
def fetchOperation (query : Database -> Option OrderOperation) :
    Tx (Option OrderOperation) := do
  let found ← Transaction.read query
  match found with
  | none => pure none
  | some row => do
      let operation ← operationFromRow row
      pure (some operation)

/-- `get_operation` of the repository. -/
def findOperation (scope : AccessScope) (operationId : UUID) :
    Tx (Option OrderOperation) := do
  let customerId ← customerOwnedVisibility scope
  fetchOperation fun db =>
    (db.operations.rows.get operationId).filter
      (OrderOperation.ownedBy scope.tenantId customerId)

/-- `find_by_source_message`. -/
def findBySourceMessage (scope : AccessScope) (threadId sourceMessageId : CleanText) :
    Tx (Option OrderOperation) := do
  let customerId ← customerOwnedVisibility scope
  fetchOperation fun db => db.operations.rows.rows.find? fun o =>
    decide (o.threadId = threadId) && decide (o.sourceMessageId = sourceMessageId) &&
      o.ownedBy scope.tenantId customerId

/--
`find_active_by_order_id`.  The unique index on active orders leaves at most one
row to order by.
-/
def findActiveByOrderId (scope : AccessScope) (orderId : OrderId) :
    Tx (Option OrderOperation) := do
  let customerId ← customerOwnedVisibility scope
  fetchOperation fun db => db.operations.rows.rows.find? fun o =>
    decide (o.orderId = orderId) && o.active && o.ownedBy scope.tenantId customerId

/-- `find_event_by_idempotency_key`. -/
def findEventByIdempotencyKey (scope : AccessScope) (key : String) :
    Tx (Option OrderOperationEvent) := do
  let customerId ← customerOwnedVisibility scope
  Transaction.read fun db => db.operations.events.rows.find? fun e =>
    decide (e.idempotencyKey = key) && decide (e.tenantId = scope.tenantId) &&
      decide (e.customerId = customerId)

/-!
## Writes
-/

/-- `_validate_operation_ownership` and `_validate_event_ownership`. -/
def validateOwnership (scope : AccessScope) (operation : OrderOperation)
    (events : List OrderOperationEvent) : Tx Unit := do
  Transaction.require (operation.tenantId = scope.tenantId)
    (Failure.valueError "operation tenant_id must match the access scope")
  Transaction.require (some operation.customerId = scope.customerId)
    (Failure.valueError "operation customer_id must match the access scope")
  Transaction.require (forall e, e ∈ events -> e.tenantId = scope.tenantId)
    (Failure.valueError "event tenant_id must match the access scope")
  Transaction.require (forall e, e ∈ events -> some e.customerId = scope.customerId)
    (Failure.valueError "event customer_id must match the access scope")

/-- `_raise_unique_violation` and the translation of the other errors. -/
def operationWriteError (message : String) (e : Failure) : Failure :=
  match e with
  | Failure.uniqueViolation UniqueConstraint.orderOperationsActiveOrder =>
      Failure.activeOrderOperationConflict
  | Failure.uniqueViolation UniqueConstraint.orderOperationsSourceMessage =>
      Failure.duplicateOperationSourceMessage
  | Failure.uniqueViolation UniqueConstraint.orderOperationsIdempotencyKey =>
      Failure.duplicateOperationIdempotency
  | Failure.uniqueViolation UniqueConstraint.orderOperationEventsIdempotencyKey =>
      Failure.duplicateOperationIdempotency
  | Failure.uniqueViolation _ =>
      Failure.operationPersistence "Unexpected unique constraint violation"
  | Failure.poolTimeout =>
      Failure.operationPersistence "Timed out acquiring PostgreSQL connection"
  | e => if e.isDatabaseError then Failure.operationPersistence message else e

/-- `create_operation_with_events`. -/
def createOperationWithEvents (scope : AccessScope) (operation : OrderOperation)
    (events : List OrderOperationEvent) : Tx Unit :=
  Transaction.translate (operationWriteError "Could not persist order operation") do
    validateOwnership scope operation events
    insertOperation operation
    insertOperationEvents events

/-- The SET clause shared by the two versioned updates. -/
def OrderOperation.setFrom (operation r : OrderOperation) : OrderOperation :=
  { r with
    policyReasonCodes := operation.policyReasonCodes
    reviewCaseType := operation.reviewCaseType
    reviewPriority := operation.reviewPriority
    supportCaseId := operation.supportCaseId
    providerReference := operation.providerReference
    status := operation.status
    updatedAt := operation.updatedAt
    version := operation.version }

/-- The versioned UPDATE and the event inserts of one transaction. -/
def writeOperation (scope : AccessScope) (operation : OrderOperation)
    (events : List OrderOperationEvent) (expectedVersion : Nat) : Tx Unit := do
  let customerId ← customerOwnedVisibility scope
  let affected ← updateOperation operation.operationId
    (fun r => decide (r.version = expectedVersion) &&
      r.ownedBy scope.tenantId customerId)
    operation.setFrom
  Transaction.require (affected = 1)
    (Failure.concurrentOperationUpdate "Operation version changed")
  insertOperationEvents events

/-- `update_operation_with_events`. -/
def updateOperationWithEvents (scope : AccessScope) (operation : OrderOperation)
    (events : List OrderOperationEvent) (expectedVersion : Nat) : Tx Unit :=
  Transaction.translate (operationWriteError "Could not persist order operation") do
    validateOwnership scope operation events
    writeOperation scope operation events expectedVersion

/-- `validate_operation_command_association`, with the first text it raises. -/
def operationCommandMismatch (operation : OrderOperation)
    (events : List OrderOperationEvent) (command : ProviderCommandEnvelope)
    (expectedVersion : Nat) : Option String :=
  let checks : List (Bool × String) :=
    [(command.valid, "command is not a valid envelope"),
      (decide (operation.status = OperationRecordStatus.queued),
        "queue_operation requires a queued operation"),
      (decide (operation.version = expectedVersion + 1),
        "operation.version must equal expected_version + 1"),
      (decide (command.aggregateType = ProviderAggregateType.orderOperation),
        "command.aggregate_type must be 'order_operation'"),
      (decide (command.aggregateId = operation.operationId),
        "command.aggregate_id must match the operation_id"),
      (decide (command.tenantId = operation.tenantId),
        "command.tenant_id must match the operation tenant_id"),
      (decide (command.customerId = operation.customerId),
        "command.customer_id must match the operation customer_id"),
      (decide (command.sourceMessageId = operation.sourceMessageId),
        "command.source_message_id must match the operation source_message_id"),
      (decide (command.expectedOrderVersion = some operation.orderVersion),
        "command.expected_order_version must match the operation order_version"),
      (command.payload.isOrderOperation,
        "command payload must be an order-operation payload"),
      (decide (command.payload.orderId = operation.orderId),
        "command payload order_id must match the operation order_id"),
      (decide (command.payload.operationType? = some operation.operationType),
        "command payload operation_type must match the operation operation_type"),
      (events.all fun e => decide (e.operationId = operation.operationId),
        "event.operation_id must match the operation_id"),
      (events.all fun e => decide (e.tenantId = operation.tenantId),
        "event.tenant_id must match the operation tenant_id"),
      (events.all fun e => decide (e.customerId = operation.customerId),
        "event.customer_id must match the operation customer_id")]
  (checks.find? fun check => !check.1).map Prod.snd

/-- `queue_operation_with_events_and_command`. -/
def queueOperationWithEventsAndCommand (scope : AccessScope)
    (operation : OrderOperation) (events : List OrderOperationEvent)
    (command : ProviderCommandEnvelope) (expectedVersion : Nat) : Tx Unit :=
  Transaction.translate (operationWriteError "Could not queue order operation") do
    match operationCommandMismatch operation events command expectedVersion with
    | some message => Transaction.raise (Failure.valueError message)
    | none => do
        validateOwnership scope operation events
        writeOperation scope operation events expectedVersion
        insertOutboxMessage command operation.updatedAt

/-!
## What the reads return
-/

structure ReadFrom (db : Database) (o row : OrderOperation) : Prop where
  get : db.operations.rows.get o.operationId = some row
  parsed : row.ofRow? = some o

theorem ReadFrom.eq {db : Database} {o row : OrderOperation}
    (h : ReadFrom db o row) :
    o = { row with providerReference := row.providerReference.map Text.trim } :=
  (OrderOperation.ofRow?_eq_some h.parsed).left

theorem fetchOperation_eq_ok {query : Database -> Option OrderOperation}
    {db : Database} {r : Option OrderOperation × Database}
    (h : fetchOperation query db = Except.ok r) :
    r.2 = db ∧ (forall o, r.1 = some o ->
      exists row, query db = some row ∧ row.ofRow? = some o) ∧
      (r.1 = none -> query db = none) := by
  simp only [fetchOperation, Transaction.bind_eq_ok, Transaction.read_eq_ok,
    Prod.mk.injEq] at h
  rcases h with ⟨found, _, ⟨rfl, rfl⟩, h⟩
  cases hq : query db with
  | none =>
      simp only [hq, Transaction.pure_eq_ok] at h
      rw [← h]
      exact ⟨rfl, by simp, fun _ => rfl⟩
  | some row =>
      simp only [hq, Transaction.bind_eq_ok, operationFromRow_eq_ok,
        Transaction.pure_eq_ok] at h
      rcases h with ⟨o, _, ⟨ho, rfl⟩, rfl⟩
      refine ⟨rfl, ?_, by simp⟩
      intro o' ho'
      cases ho'
      exact ⟨row, rfl, ho⟩

end RefundAgent
