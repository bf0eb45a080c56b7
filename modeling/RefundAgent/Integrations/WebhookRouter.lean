import RefundAgent.Integrations.EnvelopeRow
import RefundAgent.Integrations.InboxRepository

/-!
# Receiving a webhook

What the canonical adapter checks before the router stores an event: the
headers are there, the signature is valid, and the decoded envelope names the
same event, connection, tenant and time as the request.  The envelope's texts
are stripped, so these checks leave only texts that stripping does not change.
-/

namespace RefundAgent

open Foundation

namespace ProviderCommandExecutionStatus

def word : ProviderCommandExecutionStatus -> String
  | accepted => "accepted"
  | processing => "processing"
  | completed => "completed"
  | rejected => "rejected"

def literals : List ProviderCommandExecutionStatus :=
  [accepted, processing, completed, rejected]

@[simp] theorem literal?_word (a : ProviderCommandExecutionStatus) :
    literal? word literals a.word = some a := by
  cases a <;> rfl

end ProviderCommandExecutionStatus

/-!
## The stored event
-/

namespace ProviderWebhookEventData

section

-- the text forms of identifiers and times in JSON
variable (uuids : TextCodec UUID) (times : TextCodec Time)

/-- `model_dump(mode="json")` of an event. -/
def dump (event : ProviderWebhookEventData) : JsonObject :=
  [("command_id", JsonValue.string (uuids.encode event.commandId)),
    ("aggregate_type", JsonValue.string event.aggregateType.word),
    ("aggregate_id", JsonValue.string (uuids.encode event.aggregateId)),
    ("command_status", JsonValue.string event.commandStatus.word),
    ("provider_operation_id", JsonObject.nullable CleanText.text event.providerOperationId),
    ("provider_reference", JsonObject.nullable CleanText.text event.providerReference),
    ("order_id", JsonObject.nullable OrderId.text event.orderId),
    ("occurred_at", JsonValue.string (times.encode event.occurredAt))]

/-- `ProviderWebhookEventData.model_validate` of a stored object. -/
def parse? (o : JsonObject) : Option ProviderWebhookEventData :=
  if o.only ["command_id", "aggregate_type", "aggregate_id", "command_status",
      "provider_operation_id", "provider_reference", "order_id", "occurred_at"] then do
    let commandId ← (o.requiredText "command_id").bind uuids.decode
    let aggregateType ← (o.requiredText "aggregate_type").bind
      (literal? ProviderAggregateType.word ProviderAggregateType.literals)
    let aggregateId ← (o.requiredText "aggregate_id").bind uuids.decode
    let commandStatus ← (o.requiredText "command_status").bind
      (literal? ProviderCommandExecutionStatus.word ProviderCommandExecutionStatus.literals)
    let providerOperationId ← o.optionalText CleanText.parse? "provider_operation_id"
    let providerReference ← o.optionalText CleanText.parse? "provider_reference"
    let orderId ← o.optionalText OrderId.parse? "order_id"
    let occurredAt ← (o.requiredText "occurred_at").bind times.decode
    pure
      { commandId := commandId
        aggregateType := aggregateType
        aggregateId := aggregateId
        commandStatus := commandStatus
        providerOperationId := providerOperationId
        providerReference := providerReference
        orderId := orderId
        occurredAt := occurredAt }
  else
    none

theorem names_dump (event : ProviderWebhookEventData) :
    (event.dump uuids times).names.Nodup := by
  simp [dump, JsonObject.names]

theorem parse?_dump {event : ProviderWebhookEventData} {o : JsonObject}
    (hperm : o.Perm (event.dump uuids times)) : parse? uuids times o = some event := by
  have hnames := names_dump uuids times event
  have htext (name s : String)
      (h : (name, JsonValue.string s) ∈ event.dump uuids times) :
      o.requiredText name = some s :=
    JsonObject.requiredText_of_perm hperm hnames h
  have hclean (name : String) (t : Option CleanText)
      (h : (name, JsonObject.nullable CleanText.text t) ∈ event.dump uuids times) :
      o.optionalText CleanText.parse? name = some t :=
    JsonObject.optionalText_of_perm CleanText.parse?_text hperm hnames h
  have horder : o.optionalText OrderId.parse? "order_id" = some event.orderId :=
    JsonObject.optionalText_of_perm OrderId.parse?_text hperm hnames (by simp [dump])
  rw [parse?, if_pos (JsonObject.only_of_perm hperm (by simp [dump, JsonObject.only,
      JsonObject.names])),
    htext "command_id" (uuids.encode event.commandId) (by simp [dump]),
    htext "aggregate_type" event.aggregateType.word (by simp [dump]),
    htext "aggregate_id" (uuids.encode event.aggregateId) (by simp [dump]),
    htext "command_status" event.commandStatus.word (by simp [dump]),
    htext "occurred_at" (times.encode event.occurredAt) (by simp [dump]),
    hclean "provider_operation_id" event.providerOperationId (by simp [dump]),
    hclean "provider_reference" event.providerReference (by simp [dump]), horder]
  simp [uuids.decode_encode, times.decode_encode]

end

end ProviderWebhookEventData

/-!
## The adapter
-/

structure ProviderWebhookEnvelope where
  eventId : CleanText
  providerConnectionId : CleanText
  tenantId : CleanText
  timestamp : Time
  data : ProviderWebhookEventData

/-- The connection that the resolver finds; its model does not strip. -/
structure ProviderWebhookConnection where
  connectionId : String
  tenantId : String

/-- The headers of a webhook request; an absent header is the empty text. -/
structure WebhookHeaders where
  eventId : String
  timestamp : String
  signature : String

inductive WebhookRefusal where
  | payload (message : String)
  | authentication
deriving DecidableEq, Repr

/-- The parts of the request handling that lie outside the service. -/
structure WebhookLibrary (body : Type) where
  parseTimestamp : String -> Option Time
  signatureIsValid : ProviderWebhookConnection -> Time -> WebhookHeaders -> body -> Bool
  decode : body -> Option ProviderWebhookEnvelope
  sha256 : body -> String

section

variable {body : Type} (lib : WebhookLibrary body)

/-- `verify_and_decode`. -/
def verifyAndDecode (connection : ProviderWebhookConnection)
    (providerConnectionId : String) (headers : WebhookHeaders) (rawBody : body) :
    Except WebhookRefusal ProviderWebhookEnvelope :=
  if headers.eventId = "" ∨ headers.timestamp = "" ∨ headers.signature = "" then
    Except.error (WebhookRefusal.payload "required provider webhook headers are missing")
  else
    match lib.parseTimestamp headers.timestamp with
    | none => Except.error (WebhookRefusal.payload "provider webhook timestamp is invalid")
    | some timestamp =>
        if lib.signatureIsValid connection timestamp headers rawBody = false then
          Except.error WebhookRefusal.authentication
        else
          match lib.decode rawBody with
          | none =>
              Except.error (WebhookRefusal.payload "provider webhook payload is invalid")
          | some envelope =>
              if envelope.eventId.text ≠ headers.eventId ∨
                  envelope.providerConnectionId.text ≠ providerConnectionId ∨
                  envelope.tenantId.text ≠ connection.tenantId ∨
                  envelope.timestamp ≠ timestamp then
                Except.error
                  (WebhookRefusal.payload "provider webhook identifiers are inconsistent")
              else
                Except.ok envelope

/-- The row that `receive_provider_webhook` passes to the repository. -/
def receiveProviderWebhook (connection : ProviderWebhookConnection)
    (providerConnectionId : String) (headers : WebhookHeaders) (rawBody : body)
    (inboxId : UUID) (receivedAt : Time) : Except WebhookRefusal InboxMessage :=
  (verifyAndDecode lib connection providerConnectionId headers rawBody).map fun envelope =>
    receivedRow inboxId providerConnectionId envelope.eventId.text connection.tenantId
      envelope.data (lib.sha256 rawBody) receivedAt

end

/-- A row that the router passes to the repository for some request. -/
def RoutedReceipt (incoming : InboxMessage) : Prop :=
  exists (body : Type) (lib : WebhookLibrary body) (connection : ProviderWebhookConnection)
    (providerConnectionId : String) (headers : WebhookHeaders) (rawBody : body)
    (inboxId : UUID) (receivedAt : Time),
    receiveProviderWebhook lib connection providerConnectionId headers rawBody inboxId
      receivedAt = Except.ok incoming

/-- A text that a stripping model accepts and leaves as it is. -/
def TextClean (s : String) : Prop :=
  Text.trim s = s ∧ s ≠ ""

structure ReceivedWebhook.Clean (r : ReceivedWebhook) : Prop where
  connection : TextClean r.providerConnectionId
  event : TextClean r.eventId
  tenant : TextClean r.tenantId

theorem RoutedReceipt.spec {incoming : InboxMessage} (h : RoutedReceipt incoming) :
    incoming.toReceivedWebhook.Clean ∧ exists inboxId connectionId eventId tenantId event
      sha receivedAt, incoming =
        receivedRow inboxId connectionId eventId tenantId event sha receivedAt := by
  rcases h with ⟨body, lib, connection, providerConnectionId, headers, rawBody, inboxId,
    receivedAt, h⟩
  unfold receiveProviderWebhook at h
  cases hverified : verifyAndDecode lib connection providerConnectionId headers rawBody with
  | error e =>
      rw [hverified] at h
      cases h
  | ok envelope =>
      rw [hverified] at h
      cases h
      refine ⟨?_, _, _, _, _, _, _, _, rfl⟩
      unfold verifyAndDecode at hverified
      split at hverified
      · cases hverified
      · split at hverified
        · cases hverified
        · split at hverified
          · cases hverified
          · split at hverified
            · cases hverified
            · split at hverified
              · cases hverified
              · rename_i hsame
                push Not at hsame
                cases hverified
                refine ⟨?_, envelope.eventId.clean, ?_⟩
                · show TextClean providerConnectionId
                  rw [← hsame.right.left]
                  exact envelope.providerConnectionId.clean
                · show TextClean connection.tenantId
                  rw [← hsame.right.right.left]
                  exact envelope.tenantId.clean

end RefundAgent
