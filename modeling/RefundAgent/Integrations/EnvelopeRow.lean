import RefundAgent.Foundation.Json
import RefundAgent.Integrations.PostgresWrites
import RefundAgent.Operations.Policy

/-!
# The stored form of a command

An envelope is stored in columns of texts and numbers and one JSON object for
its payload, and read back by validating every column.  The rows of the outbox
table are modelled by their validated form elsewhere; this module gives the
columns behind such a row and shows that validation recovers it.
-/

namespace RefundAgent

open Foundation

/-!
## Spellings
-/

namespace OperationReason

def word : OperationReason -> String
  | orderedByMistake => "ordered_by_mistake"
  | noLongerNeeded => "no_longer_needed"
  | incorrectItemOrQuantity => "incorrect_item_or_quantity"
  | deliveryTooSlow => "delivery_too_slow"
  | paymentIssue => "payment_issue"
  | changedMind => "changed_mind"
  | wrongItemReceived => "wrong_item_received"
  | damagedItem => "damaged_item"
  | defectiveItem => "defective_item"
  | missingParts => "missing_parts"
  | notAsDescribed => "not_as_described"
  | sizeOrVariantIssue => "size_or_variant_issue"
  | other => "other"

def literals : List OperationReason :=
  [orderedByMistake, noLongerNeeded, incorrectItemOrQuantity, deliveryTooSlow,
    paymentIssue, changedMind, wrongItemReceived, damagedItem, defectiveItem,
    missingParts, notAsDescribed, sizeOrVariantIssue, other]

end OperationReason

def OperationType.literals : List OperationType :=
  [OperationType.cancellation, OperationType.return, OperationType.exchange]

namespace DeliveryIssueType

def word : DeliveryIssueType -> String
  | delayed => "delayed"
  | trackingStalled => "tracking_stalled"
  | deliveryFailed => "delivery_failed"
  | markedDeliveredNotReceived => "marked_delivered_not_received"
  | packageDamaged => "package_damaged"
  | wrongItemOrMissingParts => "wrong_item_or_missing_parts"
  | otherDeliveryIssue => "other_delivery_issue"

def literals : List DeliveryIssueType :=
  [delayed, trackingStalled, deliveryFailed, markedDeliveredNotReceived,
    packageDamaged, wrongItemOrMissingParts, otherDeliveryIssue]

end DeliveryIssueType

namespace ProviderCommandType

def word : ProviderCommandType -> String
  | cancelOrder => "cancel_order"
  | returnOrder => "return_order"
  | exchangeOrder => "exchange_order"
  | deliveryInvestigation => "delivery_investigation"

def literals : List ProviderCommandType :=
  [cancelOrder, returnOrder, exchangeOrder, deliveryInvestigation]

end ProviderCommandType

namespace ProviderAggregateType

def word : ProviderAggregateType -> String
  | orderOperation => "order_operation"
  | supportCase => "support_case"

def literals : List ProviderAggregateType := [orderOperation, supportCase]

end ProviderAggregateType

namespace ProviderCapability

def word : ProviderCapability -> String
  | orderQuery => "order_query"
  | inventoryQuery => "inventory_query"
  | orderOperation => "order_operation"

def literals : List ProviderCapability := [orderQuery, inventoryQuery, orderOperation]

end ProviderCapability

namespace OutboxDeliveryStatus

def word : OutboxDeliveryStatus -> String
  | pending => "pending"
  | processing => "processing"
  | retryScheduled => "retry_scheduled"
  | published => "published"
  | dead => "dead"

def literals : List OutboxDeliveryStatus :=
  [pending, processing, retryScheduled, published, dead]

end OutboxDeliveryStatus

namespace ProviderFailureKind

def word : ProviderFailureKind -> String
  | networkError => "network_error"
  | timeout => "timeout"
  | httpRetryable => "http_retryable"
  | httpClientError => "http_client_error"
  | providerRejection => "provider_rejection"
  | validationError => "validation_error"

def literals : List ProviderFailureKind :=
  [networkError, timeout, httpRetryable, httpClientError, providerRejection,
    validationError]

end ProviderFailureKind

@[simp] theorem OperationReason.literal?_word (a : OperationReason) :
    literal? word literals a.word = some a := by
  cases a <;> rfl

@[simp] theorem OperationType.literal?_word (a : OperationType) :
    literal? word literals a.word = some a := by
  cases a <;> rfl

@[simp] theorem DeliveryIssueType.literal?_word (a : DeliveryIssueType) :
    literal? word literals a.word = some a := by
  cases a <;> rfl

@[simp] theorem ProviderCommandType.literal?_word (a : ProviderCommandType) :
    literal? word literals a.word = some a := by
  cases a <;> rfl

@[simp] theorem ProviderAggregateType.literal?_word (a : ProviderAggregateType) :
    literal? word literals a.word = some a := by
  cases a <;> rfl

@[simp] theorem ProviderCapability.literal?_word (a : ProviderCapability) :
    literal? word literals a.word = some a := by
  cases a <;> rfl

@[simp] theorem OutboxDeliveryStatus.literal?_word (a : OutboxDeliveryStatus) :
    literal? word literals a.word = some a := by
  cases a <;> rfl

@[simp] theorem ProviderFailureKind.literal?_word (a : ProviderFailureKind) :
    literal? word literals a.word = some a := by
  cases a <;> rfl

/-!
## The payload
-/

namespace ProviderCommandPayload

/-- `model_dump(mode="json")` of a payload. -/
def dump : ProviderCommandPayload -> JsonObject
  | orderOperation orderId operationType reason replacementVariantId =>
      [("order_id", JsonValue.string orderId.text),
        ("operation_type", JsonValue.string operationType.word),
        ("reason", JsonValue.string reason.word),
        ("replacement_variant_id", JsonObject.nullable CleanText.text replacementVariantId)]
  | deliveryInvestigation orderId issueType =>
      [("order_id", JsonValue.string orderId.text),
        ("issue_type", JsonValue.string issueType.word)]

/-- `OrderOperationCommandPayload.model_validate`. -/
def parseOrderOperation (o : JsonObject) : Option ProviderCommandPayload :=
  if o.only ["order_id", "operation_type", "reason", "replacement_variant_id"] then do
    let orderId ← (o.requiredText "order_id").bind OrderId.parse?
    let operationType ← (o.requiredText "operation_type").bind
      (literal? OperationType.word OperationType.literals)
    let reason ← (o.requiredText "reason").bind
      (literal? OperationReason.word OperationReason.literals)
    let replacementVariantId ← o.optionalText CleanText.parse? "replacement_variant_id"
    pure (orderOperation orderId operationType reason replacementVariantId)
  else
    none

/-- `DeliveryInvestigationCommandPayload.model_validate`. -/
def parseDeliveryInvestigation (o : JsonObject) : Option ProviderCommandPayload :=
  if o.only ["order_id", "issue_type"] then do
    let orderId ← (o.requiredText "order_id").bind OrderId.parse?
    let issueType ← (o.requiredText "issue_type").bind
      (literal? DeliveryIssueType.word DeliveryIssueType.literals)
    pure (deliveryInvestigation orderId issueType)
  else
    none

/-- `_parse_payload`: the command type selects the model of the payload. -/
def parse? (commandType : String) (o : JsonObject) : Option ProviderCommandPayload :=
  if commandType = "delivery_investigation" then
    parseDeliveryInvestigation o
  else
    parseOrderOperation o

end ProviderCommandPayload

/-- The code of a whitespace character. -/
def whiteSpaceCode (n : Nat) : Bool :=
  (9 ≤ n && n ≤ 13) || n == 0x20 || n == 0x85 || n == 0xA0 || n == 0x1680 ||
    (0x2000 ≤ n && n ≤ 0x200A) || n == 0x2028 || n == 0x2029 || n == 0x202F ||
    n == 0x205F || n == 0x3000

theorem isWhiteSpace_of_digit {c : Char} (h : isDecimalDigit c = true) :
    Text.isWhiteSpace c = false := by
  have hcodes : forall base, base ∈ decimalZeros -> forall k, k ∈ List.range 10 ->
      whiteSpaceCode (base + k) = false := by
    decide
  unfold isDecimalDigit at h
  rw [List.any_eq_true] at h
  rcases h with ⟨base, hbase, hrange⟩
  simp only [Bool.and_eq_true, decide_eq_true_eq] at hrange
  have hcode := hcodes base hbase (c.toNat - base) (List.mem_range.mpr (by omega))
  rw [Nat.add_sub_cancel' hrange.left] at hcode
  exact hcode

theorem OrderId.trim_text (x : OrderId) : Text.trim x.text = x.text := by
  refine Text.stripWith_eq_self ?_
  intro c hc
  have h := x.wellFormed
  unfold matchesOrderPattern at h
  simp only [Bool.and_eq_true, beq_iff_eq] at h
  rw [← List.take_append_drop 4 x.text.toList] at hc
  rcases List.mem_append.mp hc with hc | hc
  · rw [h.left.left] at hc
    have hhead : "ORD-".toList.all (fun c => !Text.isWhiteSpace c) = true := by
      decide
    exact Bool.not_eq_true' _ ▸ List.all_eq_true.mp hhead c hc
  · exact isWhiteSpace_of_digit (List.all_eq_true.mp h.right c hc)

@[simp] theorem OrderId.parse?_text (x : OrderId) : OrderId.parse? x.text = some x := by
  unfold OrderId.parse?
  rw [dif_pos (by rw [x.trim_text]; exact x.wellFormed)]
  rcases x with ⟨text, hwell⟩
  simp only [Option.some.injEq, OrderId.mk.injEq]
  exact OrderId.trim_text ⟨text, hwell⟩

namespace ProviderCommandPayload

theorem names_dump (payload : ProviderCommandPayload) : payload.dump.names.Nodup := by
  cases payload <;> simp [dump, JsonObject.names]

/-- A stored payload is read back, in whatever order its fields are kept. -/
theorem parse?_dump {payload : ProviderCommandPayload} {o : JsonObject}
    (hperm : o.Perm payload.dump) {commandType : ProviderCommandType}
    (hkind : commandType = ProviderCommandType.deliveryInvestigation ↔
      payload.isOrderOperation = false) :
    parse? commandType.word o = some payload := by
  have htext (name s : String) (h : (name, JsonValue.string s) ∈ payload.dump) :
      o.requiredText name = some s :=
    JsonObject.requiredText_of_perm hperm payload.names_dump h
  unfold parse?
  cases payload with
  | orderOperation orderId operationType reason replacementVariantId =>
      have hother : commandType.word ≠ "delivery_investigation" := by
        cases commandType with
        | deliveryInvestigation =>
            have hfalse := hkind.mp rfl
            cases hfalse
        | cancelOrder => decide
        | returnOrder => decide
        | exchangeOrder => decide
      rw [if_neg hother, parseOrderOperation,
        if_pos (JsonObject.only_of_perm hperm (by simp [dump, JsonObject.only,
          JsonObject.names])),
        htext "order_id" orderId.text (by simp [dump]),
        htext "operation_type" operationType.word (by simp [dump]),
        htext "reason" reason.word (by simp [dump]),
        @JsonObject.optionalText_of_perm _ o "replacement_variant_id" _ CleanText.text
          CleanText.parse? CleanText.parse?_text hperm (names_dump _)
          replacementVariantId (by simp [dump])]
      simp
  | deliveryInvestigation orderId issueType =>
      rw [hkind.mpr rfl, if_pos (by decide), parseDeliveryInvestigation,
        if_pos (JsonObject.only_of_perm hperm (by simp [dump, JsonObject.only,
          JsonObject.names])),
        htext "order_id" orderId.text (by simp [dump]),
        htext "issue_type" issueType.word (by simp [dump])]
      simp

end ProviderCommandPayload

/-!
## Columns
-/

structure DatedEnvelope extends ProviderCommandEnvelope where
  createdAt : Time
deriving DecidableEq

/-- The columns of `outbox_messages`. -/
structure OutboxColumns where
  commandId : UUID
  schemaVersion : Int
  idempotencyKey : String
  tenantId : String
  customerId : String
  sourceMessageId : String
  providerConnectionId : String
  providerCapability : String
  commandType : String
  aggregateType : String
  aggregateId : UUID
  expectedOrderVersion : Option Nat
  payload : JsonObject
  status : String
  deliveryCycle : Nat
  attemptsInCycle : Nat
  availableAt : Time
  leaseId : Option UUID
  leaseOwner : Option String
  leaseExpiresAt : Option Time
  lastFailureKind : Option String
  lastErrorCode : Option String
  lastErrorMessage : Option String
  createdAt : Time
  updatedAt : Time
  publishedAt : Option Time
  deadAt : Option Time
deriving DecidableEq

namespace OutboxColumns

/-- The CHECK constraints of the table, and the range of its version column. -/
def checks (row : OutboxColumns) : Bool :=
  decide (row.schemaVersion = 1) &&
    decide (Text.btrim row.idempotencyKey ≠ "") && decide (Text.btrim row.tenantId ≠ "") &&
    decide (Text.btrim row.customerId ≠ "") &&
    decide (Text.btrim row.sourceMessageId ≠ "") &&
    decide (Text.btrim row.providerConnectionId ≠ "") &&
    (row.expectedOrderVersion.all fun v => decide (1 ≤ v) && decide (v < 2 ^ 31)) &&
    decide (1 ≤ row.deliveryCycle) && decide (row.attemptsInCycle ≤ 8) &&
    decide (row.createdAt ≤ row.updatedAt) &&
    decide (row.status = "processing" ↔ row.leaseId.isSome = true) &&
    decide (row.status = "processing" ↔ row.leaseOwner.isSome = true) &&
    decide (row.status = "processing" ↔ row.leaseExpiresAt.isSome = true) &&
    decide (row.status = "published" ↔ row.publishedAt.isSome = true) &&
    decide (row.status = "dead" ↔ row.deadAt.isSome = true) &&
    (decide (row.aggregateType = "order_operation") == row.expectedOrderVersion.isSome) &&
    (decide (row.aggregateType = "support_case") ==
      decide (row.commandType = "delivery_investigation"))

/-- A validated column of literals that may be null. -/
def literalColumn {α : Type} (word : α -> String) (literals : List α) :
    Option String -> Option (Option α)
  | none => some none
  | some s => (literal? word literals s).map some

/-- The fields of `OutboxMessage`, each validated on its own. -/
def fields (row : OutboxColumns) (payload : ProviderCommandPayload) :
    Option OutboxMessage := do
  let tenantId ← CleanText.parse? row.tenantId
  let customerId ← CleanText.parse? row.customerId
  let sourceMessageId ← CleanText.parse? row.sourceMessageId
  let connectionId ← CleanText.parse? row.providerConnectionId
  let idempotencyKey ← CleanText.parse? row.idempotencyKey
  let providerCapability ←
    literal? ProviderCapability.word ProviderCapability.literals row.providerCapability
  let commandType ←
    literal? ProviderCommandType.word ProviderCommandType.literals row.commandType
  let aggregateType ←
    literal? ProviderAggregateType.word ProviderAggregateType.literals row.aggregateType
  let status ←
    literal? OutboxDeliveryStatus.word OutboxDeliveryStatus.literals row.status
  let lastFailureKind ←
    literalColumn ProviderFailureKind.word ProviderFailureKind.literals row.lastFailureKind
  pure
    { commandId := row.commandId
      idempotencyKey := idempotencyKey.text
      sourceMessageId := sourceMessageId
      aggregateType := aggregateType
      aggregateId := row.aggregateId
      expectedOrderVersion := row.expectedOrderVersion
      tenantId := tenantId
      customerId := customerId
      connectionId := connectionId
      commandType := commandType
      payload := payload
      providerCapability := providerCapability
      status := status
      deliveryCycle := row.deliveryCycle
      attemptsInCycle := row.attemptsInCycle
      availableAt := row.availableAt
      leaseId := row.leaseId
      leaseOwner := row.leaseOwner.map Text.trim
      leaseExpiresAt := row.leaseExpiresAt
      lastFailureKind := lastFailureKind
      lastErrorCode := row.lastErrorCode.map Text.trim
      lastErrorMessage := row.lastErrorMessage.map Text.trim
      createdAt := row.createdAt
      updatedAt := row.updatedAt
      publishedAt := row.publishedAt
      deadAt := row.deadAt }

/-- `OutboxMessage.model_validate` on a row whose payload is parsed. -/
def validate (row : OutboxColumns) (payload : ProviderCommandPayload) :
    Except Failure OutboxMessage :=
  match row.fields payload with
  | some m =>
      if row.schemaVersion = 1 ∧ m.valid = true then Except.ok m
      else Except.error (Failure.validationError "OutboxMessage")
  | none => Except.error (Failure.validationError "OutboxMessage")

end OutboxColumns

/-- `_outbox_from_row`. -/
def outboxFromRow (row : OutboxColumns) : Except Failure OutboxMessage :=
  match ProviderCommandPayload.parse? row.commandType row.payload with
  | some payload => row.validate payload
  | none => Except.error (Failure.validationError "ProviderCommandPayload")

/-- The fields that `to_envelope` passes on, with the key stripped. -/
def OutboxMessage.trimmedEnvelope (m : OutboxMessage) : ProviderCommandEnvelope :=
  { m.toProviderCommandEnvelope with idempotencyKey := Text.trim m.idempotencyKey }

/--
`to_envelope`.  The texts that are clean already stay as they are when they are
stripped again; the idempotency key is a plain text here.
-/
def OutboxMessage.toEnvelope (m : OutboxMessage) : Except Failure DatedEnvelope :=
  if m.trimmedEnvelope.idempotencyKey ≠ "" ∧ m.trimmedEnvelope.valid = true then
    Except.ok { m.trimmedEnvelope with createdAt := m.createdAt }
  else
    Except.error (Failure.validationError "ProviderCommandEnvelope")

/-- What a row is read back as, and then rebuilt to. -/
def rebuiltEnvelope (row : OutboxColumns) : Except Failure DatedEnvelope :=
  (outboxFromRow row).bind OutboxMessage.toEnvelope

section

-- how the store orders the fields of an object
variable (jsonb : JsonObject -> JsonObject)

/-- The columns behind a row of the table. -/
def OutboxMessage.columns (m : OutboxMessage) : OutboxColumns :=
  { commandId := m.commandId
    schemaVersion := 1
    idempotencyKey := m.idempotencyKey
    tenantId := m.tenantId.text
    customerId := m.customerId.text
    sourceMessageId := m.sourceMessageId.text
    providerConnectionId := m.connectionId.text
    providerCapability := m.providerCapability.word
    commandType := m.commandType.word
    aggregateType := m.aggregateType.word
    aggregateId := m.aggregateId
    expectedOrderVersion := m.expectedOrderVersion
    payload := jsonb m.payload.dump
    status := m.status.word
    deliveryCycle := m.deliveryCycle
    attemptsInCycle := m.attemptsInCycle
    availableAt := m.availableAt
    leaseId := m.leaseId
    leaseOwner := m.leaseOwner
    leaseExpiresAt := m.leaseExpiresAt
    lastFailureKind := m.lastFailureKind.map ProviderFailureKind.word
    lastErrorCode := m.lastErrorCode
    lastErrorMessage := m.lastErrorMessage
    createdAt := m.createdAt
    updatedAt := m.updatedAt
    publishedAt := m.publishedAt
    deadAt := m.deadAt }

/-- The columns that `insert_outbox_message` lists; the others have their defaults. -/
def insertedColumns (command : DatedEnvelope) (status : OutboxDeliveryStatus)
    (availableAt now : Time) (capability : ProviderCapability) : OutboxColumns :=
  { commandId := command.commandId
    schemaVersion := 1
    idempotencyKey := command.idempotencyKey
    tenantId := command.tenantId.text
    customerId := command.customerId.text
    sourceMessageId := command.sourceMessageId.text
    providerConnectionId := command.connectionId.text
    providerCapability := capability.word
    commandType := command.commandType.word
    aggregateType := command.aggregateType.word
    aggregateId := command.aggregateId
    expectedOrderVersion := command.expectedOrderVersion
    payload := jsonb command.payload.dump
    status := status.word
    deliveryCycle := 1
    attemptsInCycle := 0
    availableAt := availableAt
    leaseId := none
    leaseOwner := none
    leaseExpiresAt := none
    lastFailureKind := none
    lastErrorCode := none
    lastErrorMessage := none
    createdAt := now
    updatedAt := now
    publishedAt := none
    deadAt := none }

end

/-!
## Reading back
-/

theorem isWhiteSpace_of_isDigit {c : Char} (h : c.isDigit = true) :
    Text.isWhiteSpace c = false := by
  refine isWhiteSpace_of_digit ?_
  simp only [Char.isDigit, Bool.and_eq_true, decide_eq_true_eq] at h
  unfold isDecimalDigit
  rw [List.any_eq_true]
  refine ⟨0x30, by decide, ?_⟩
  simp only [Bool.and_eq_true, decide_eq_true_eq]
  exact ⟨h.left, h.right⟩

theorem trim_key {head : String}
    (hhead : head.toList.all (fun c => !Text.isWhiteSpace c) = true) (id : UUID) :
    Text.trim (head ++ toString id) = head ++ toString id := by
  refine Text.stripWith_eq_self ?_
  intro c hc
  rw [String.toList_append] at hc
  rcases List.mem_append.mp hc with hc | hc
  · exact Bool.not_eq_true' _ ▸ List.all_eq_true.mp hhead c hc
  · rw [Text.toList_toString] at hc
    exact isWhiteSpace_of_isDigit (Nat.isDigit_of_mem_toDigits (by decide) (by decide) hc)

namespace ProviderCommandEnvelope

theorem valid_key {c : ProviderCommandEnvelope} (h : c.valid = true) :
    Text.trim c.idempotencyKey = c.idempotencyKey ∧ c.idempotencyKey ≠ "" := by
  have hclean : forall head : String,
      (head = "delivery-investigation:" ∨ head = "order-operation:") ->
      Text.trim (head ++ toString c.aggregateId) = head ++ toString c.aggregateId ∧
        head ++ toString c.aggregateId ≠ "" := by
    rintro head (rfl | rfl)
    · exact ⟨trim_key (by decide) _, by simp⟩
    · exact ⟨trim_key (by decide) _, by simp⟩
  unfold valid at h
  cases hcommand : operationTypeByCommand c.commandType with
  | none =>
      simp only [hcommand, Bool.and_eq_true, decide_eq_true_eq] at h
      rw [h.right.right]
      exact hclean _ (Or.inl rfl)
  | some operationType =>
      simp only [hcommand, Bool.and_eq_true, decide_eq_true_eq] at h
      rw [h.right.right]
      exact hclean _ (Or.inr rfl)

theorem valid_payload {c : ProviderCommandEnvelope} (h : c.valid = true) :
    c.commandType = ProviderCommandType.deliveryInvestigation ↔
      c.payload.isOrderOperation = false := by
  unfold valid at h
  cases hcommand : c.commandType with
  | deliveryInvestigation =>
      simp only [hcommand, operationTypeByCommand, Bool.and_eq_true] at h
      exact iff_of_true rfl (by simpa using h.right.left.right)
  | _ =>
      simp only [hcommand, operationTypeByCommand, Bool.and_eq_true,
        decide_eq_true_eq] at h
      refine iff_of_false (by decide) ?_
      cases hpayload : c.payload with
      | orderOperation => exact Bool.noConfusion
      | deliveryInvestigation =>
          have htype := h.right.left.right
          rw [hpayload] at htype
          cases htype

end ProviderCommandEnvelope

namespace OutboxMessage

/-- The raw texts of a row, stripped. -/
def stripped (m : OutboxMessage) : OutboxMessage :=
  { m with
    leaseOwner := m.leaseOwner.map Text.trim
    lastErrorCode := m.lastErrorCode.map Text.trim
    lastErrorMessage := m.lastErrorMessage.map Text.trim }

theorem valid_stripped {m : OutboxMessage} (h : m.valid = true) :
    m.stripped.valid = true := by
  have htext : forall s : Option String,
      (s.map Text.trim).all textAccepted = s.all textAccepted := by
    intro s
    cases s <;> simp [textAccepted]
  have herror : forall s : Option String,
      (s.map Text.trim).all errorTextAccepted = s.all errorTextAccepted := by
    intro s
    cases s <;> simp [errorTextAccepted]
  unfold valid at h ⊢
  simp only [Bool.and_eq_true, decide_eq_true_eq] at h ⊢
  simp only [stripped, Option.isSome_map, htext, herror]
  exact h

theorem toEnvelope_eq {m : OutboxMessage} (h : m.toProviderCommandEnvelope.valid = true) :
    m.toEnvelope =
      Except.ok { m.toProviderCommandEnvelope with createdAt := m.createdAt } := by
  have hkey := ProviderCommandEnvelope.valid_key h
  have hsame : m.trimmedEnvelope = m.toProviderCommandEnvelope := by
    unfold trimmedEnvelope
    rw [hkey.left]
  unfold toEnvelope
  rw [hsame]
  exact if_pos ⟨hkey.right, h⟩

theorem outboxFromRow_columns {jsonb : JsonObject -> JsonObject}
    (hjsonb : forall o, (jsonb o).Perm o) {m : OutboxMessage} (hm : m.valid = true)
    (henvelope : m.toProviderCommandEnvelope.valid = true) :
    outboxFromRow (m.columns jsonb) = Except.ok m.stripped := by
  have hpayload := ProviderCommandPayload.parse?_dump (hjsonb m.payload.dump)
    (ProviderCommandEnvelope.valid_payload henvelope)
  have hkey := ProviderCommandEnvelope.valid_key henvelope
  have hfields : (m.columns jsonb).fields m.payload = some m.stripped := by
    have hkey' : CleanText.parse? m.idempotencyKey =
        some ⟨m.idempotencyKey, hkey.left, hkey.right⟩ :=
      CleanText.parse?_text ⟨m.idempotencyKey, hkey.left, hkey.right⟩
    have hkind : OutboxColumns.literalColumn ProviderFailureKind.word
        ProviderFailureKind.literals (m.lastFailureKind.map ProviderFailureKind.word) =
          some m.lastFailureKind := by
      cases hfailure : m.lastFailureKind with
      | none => rfl
      | some kind =>
          show (literal? _ _ kind.word).map some = _
          rw [ProviderFailureKind.literal?_word]
          rfl
    simp only [OutboxColumns.fields, columns, CleanText.parse?_text, hkey', hkind,
      ProviderCapability.literal?_word, ProviderCommandType.literal?_word,
      ProviderAggregateType.literal?_word, OutboxDeliveryStatus.literal?_word]
    rfl
  unfold outboxFromRow
  rw [show (m.columns jsonb).commandType = m.commandType.word from rfl,
    show (m.columns jsonb).payload = jsonb m.payload.dump from rfl, hpayload]
  show (m.columns jsonb).validate m.payload = _
  unfold OutboxColumns.validate
  rw [hfields]
  exact if_pos ⟨rfl, valid_stripped hm⟩

theorem rebuiltEnvelope_columns {jsonb : JsonObject -> JsonObject}
    (hjsonb : forall o, (jsonb o).Perm o) {m : OutboxMessage} (hm : m.valid = true)
    (henvelope : m.toProviderCommandEnvelope.valid = true) :
    rebuiltEnvelope (m.columns jsonb) =
      Except.ok { m.toProviderCommandEnvelope with createdAt := m.createdAt } := by
  unfold rebuiltEnvelope
  rw [outboxFromRow_columns hjsonb hm henvelope]
  exact toEnvelope_eq (m := m.stripped) henvelope

end OutboxMessage

/-!
## A new row
-/

/-- The row behind the columns of an insert. -/
def insertedRow (command : DatedEnvelope) (status : OutboxDeliveryStatus)
    (availableAt now : Time) (capability : ProviderCapability) : OutboxMessage :=
  { outboxRow command.toProviderCommandEnvelope now with
    providerCapability := capability
    status := status
    availableAt := availableAt }

theorem insertedColumns_eq (jsonb : JsonObject -> JsonObject) (command : DatedEnvelope)
    (status : OutboxDeliveryStatus) (availableAt now : Time)
    (capability : ProviderCapability) :
    insertedColumns jsonb command status availableAt now capability =
      (insertedRow command status availableAt now capability).columns jsonb :=
  rfl

theorem insertedRow_valid {jsonb : JsonObject -> JsonObject} {command : DatedEnvelope}
    {status : OutboxDeliveryStatus} {availableAt now : Time}
    {capability : ProviderCapability}
    (hcommand : command.toProviderCommandEnvelope.valid = true)
    (hchecks :
      (insertedColumns jsonb command status availableAt now capability).checks = true) :
    (insertedRow command status availableAt now capability).valid = true := by
  have hstatus : status ≠ OutboxDeliveryStatus.processing ∧
      status ≠ OutboxDeliveryStatus.published ∧ status ≠ OutboxDeliveryStatus.dead := by
    unfold OutboxColumns.checks at hchecks
    simp only [Bool.and_eq_true, decide_eq_true_eq] at hchecks
    have hprocessing := hchecks.left.left.left.left.left.left.right
    have hpublished := hchecks.left.left.left.right
    have hdead := hchecks.left.left.right
    refine ⟨?_, ?_, ?_⟩
    · rintro rfl
      exact absurd (hprocessing.mp rfl) Bool.false_ne_true
    · rintro rfl
      exact absurd (hpublished.mp rfl) Bool.false_ne_true
    · rintro rfl
      exact absurd (hdead.mp rfl) Bool.false_ne_true
  unfold ProviderCommandEnvelope.valid at hcommand
  unfold OutboxMessage.valid
  simp only [Bool.and_eq_true, decide_eq_true_eq] at hcommand ⊢
  refine ⟨⟨⟨⟨⟨⟨⟨⟨⟨⟨⟨?_, ?_⟩, ?_⟩, ?_⟩, ?_⟩, ?_⟩, ?_⟩, hcommand.left⟩, ?_⟩, rfl⟩, rfl⟩, rfl⟩
  · exact Int.le_refl now
  · exact iff_of_false hstatus.left Bool.false_ne_true
  · exact iff_of_false hstatus.left Bool.false_ne_true
  · exact iff_of_false hstatus.left Bool.false_ne_true
  · exact iff_of_false hstatus.right.left Bool.false_ne_true
  · exact iff_of_false hstatus.right.right Bool.false_ne_true
  · show (match command.aggregateType with
      | ProviderAggregateType.orderOperation => command.expectedOrderVersion.isSome &&
          decide (command.commandType ≠ ProviderCommandType.deliveryInvestigation)
      | ProviderAggregateType.supportCase => command.expectedOrderVersion.isNone &&
          decide (command.commandType = ProviderCommandType.deliveryInvestigation)) = true
    have hkind := hcommand.right
    cases htype : command.commandType with
    | deliveryInvestigation =>
        simp only [htype, operationTypeByCommand, Bool.and_eq_true,
          decide_eq_true_eq] at hkind
        simp [hkind.left.left.left, hkind.left.left.right]
    | _ =>
        simp only [htype, operationTypeByCommand, Bool.and_eq_true,
          decide_eq_true_eq] at hkind
        simp [hkind.left.left.left, hkind.left.left.right]
  · exact Nat.le_refl 1

theorem rebuiltEnvelope_inserted {jsonb : JsonObject -> JsonObject}
    (hjsonb : forall o, (jsonb o).Perm o) {command : DatedEnvelope}
    {status : OutboxDeliveryStatus} {availableAt now : Time}
    {capability : ProviderCapability}
    (hcommand : command.toProviderCommandEnvelope.valid = true)
    (hchecks :
      (insertedColumns jsonb command status availableAt now capability).checks = true) :
    rebuiltEnvelope (insertedColumns jsonb command status availableAt now capability) =
      Except.ok { command with createdAt := now } := by
  rw [insertedColumns_eq]
  exact OutboxMessage.rebuiltEnvelope_columns hjsonb
    (insertedRow_valid hcommand hchecks) hcommand

/--
The checks of the table let every valid command pass whose order version it can hold.
PostgreSQL itself also refuses a text with the character U+0000, which is no check of the
table.
-/
theorem insertedColumns_checks (jsonb : JsonObject -> JsonObject) {command : DatedEnvelope}
    {status : OutboxDeliveryStatus} (availableAt now : Time)
    (capability : ProviderCapability)
    (hcommand : command.toProviderCommandEnvelope.valid = true)
    (hstatus : status = OutboxDeliveryStatus.pending ∨
      status = OutboxDeliveryStatus.retryScheduled)
    (hversion : forall v, command.expectedOrderVersion = some v -> v < 2 ^ 31) :
    (insertedColumns jsonb command status availableAt now capability).checks = true := by
  have htext : forall t : CleanText, Text.btrim t.text ≠ "" := by
    intro t
    refine Text.btrim_ne_empty_of_trim ?_
    rw [t.clean.left]
    exact t.clean.right
  have hkey := ProviderCommandEnvelope.valid_key hcommand
  have hkeyText : Text.btrim command.idempotencyKey ≠ "" := by
    refine Text.btrim_ne_empty_of_trim ?_
    rw [hkey.left]
    exact hkey.right
  unfold ProviderCommandEnvelope.valid at hcommand
  simp only [Bool.and_eq_true] at hcommand
  have hbounds : (command.expectedOrderVersion.all fun v =>
      decide (1 ≤ v) && decide (v < 2 ^ 31)) = true := by
    cases hexpected : command.expectedOrderVersion with
    | none => rfl
    | some v =>
        have hpositive := hcommand.left
        rw [hexpected] at hpositive
        simp only [Option.all_some, decide_eq_true_eq] at hpositive
        simp only [Option.all_some, Bool.and_eq_true, decide_eq_true_eq]
        exact ⟨hpositive, hversion v hexpected⟩
  have hkind := hcommand.right
  unfold OutboxColumns.checks
  simp only [Bool.and_eq_true, decide_eq_true_eq, beq_iff_eq]
  refine ⟨⟨⟨⟨⟨⟨⟨⟨⟨⟨⟨⟨⟨⟨⟨⟨rfl, hkeyText⟩, htext _⟩, htext _⟩, htext _⟩, htext _⟩, hbounds⟩,
    Nat.le_refl 1⟩, Nat.zero_le 8⟩, Int.le_refl now⟩, ?_⟩, ?_⟩, ?_⟩, ?_⟩, ?_⟩, ?_⟩, ?_⟩
  · rcases hstatus with rfl | rfl <;> simp [insertedColumns, OutboxDeliveryStatus.word]
  · rcases hstatus with rfl | rfl <;> simp [insertedColumns, OutboxDeliveryStatus.word]
  · rcases hstatus with rfl | rfl <;> simp [insertedColumns, OutboxDeliveryStatus.word]
  · rcases hstatus with rfl | rfl <;> simp [insertedColumns, OutboxDeliveryStatus.word]
  · rcases hstatus with rfl | rfl <;> simp [insertedColumns, OutboxDeliveryStatus.word]
  · cases htype : command.commandType <;>
      simp only [htype, operationTypeByCommand, Bool.and_eq_true,
        decide_eq_true_eq] at hkind <;>
      simp [insertedColumns, hkind.left.left.left, hkind.left.left.right,
        ProviderAggregateType.word]
  · cases htype : command.commandType <;>
      simp only [htype, operationTypeByCommand, Bool.and_eq_true,
        decide_eq_true_eq] at hkind <;>
      simp [insertedColumns, htype, hkind.left.left.left, ProviderAggregateType.word,
        ProviderCommandType.word]

end RefundAgent
