import RefundAgent.Foundation.Dict
import RefundAgent.Foundation.JsonTree
import RefundAgent.Integrations.SigningTime
import RefundAgent.Integrations.WebhookRouter

/-!
# The canonical webhook adapter

`signing.py` and `webhook_adapter.py`: the signature of a request, its verification,
and the envelope in the body.  Hashing, `json.loads` and the readings of identifiers
and times are parameters.
-/

namespace RefundAgent

open Foundation

/-!
## Signatures
-/

/-- The hash functions, and what is known of the length of their values. -/
structure Digests where
  hmac : List UInt8 -> List UInt8 -> List UInt8
  sha256 : List UInt8 -> List UInt8
  hmacLength : forall key message, (hmac key message).length = 32

/-- The two digits of a byte. -/
def hexByte (b : UInt8) : List Char :=
  [Nat.digitChar (b.toNat / 16), Nat.digitChar (b.toNat % 16)]

def hexdigest (bytes : List UInt8) : String :=
  String.ofList (bytes.flatMap hexByte)

def isHexDigit (c : Char) : Bool :=
  ('0' ≤ c && c ≤ '9') || ('a' ≤ c && c ≤ 'f')

/-- `_SIGNATURE_PATTERN.fullmatch`. -/
def signaturePattern (signature : String) : Bool :=
  signature.toList.length == 64 && signature.toList.all isHexDigit

theorem isHexDigit_digitChar : forall d, d < 16 -> isHexDigit (Nat.digitChar d) = true := by
  decide

theorem length_flatMap_hexByte (bytes : List UInt8) :
    (bytes.flatMap hexByte).length = 2 * bytes.length := by
  induction bytes with
  | nil => rfl
  | cons b rest ih =>
      rw [List.flatMap_cons, List.length_append, ih, List.length_cons]
      show 2 + 2 * rest.length = 2 * (rest.length + 1)
      omega

theorem signaturePattern_hexdigest {bytes : List UInt8} (h : bytes.length = 32) :
    signaturePattern (hexdigest bytes) = true := by
  unfold signaturePattern hexdigest
  rw [String.toList_ofList, length_flatMap_hexByte, h, List.all_eq_true.mpr]
  · rfl
  · intro c hc
    rcases List.mem_flatMap.mp hc with ⟨b, _, hc⟩
    have hb := b.toNat_lt
    simp only [hexByte, List.mem_cons, List.not_mem_nil, or_false] at hc
    rcases hc with rfl | rfl
    · exact isHexDigit_digitChar _ (by omega)
    · exact isHexDigit_digitChar _ (by omega)

/--
`ProviderWebhookConnection` with its secret and window.  The floating point number of
the window is a rational.
-/
structure SigningConnection extends ProviderWebhookConnection where
  signingSecret : String
  validityWindowSeconds : Rat
  idNotEmpty : connectionId ≠ "" ∧ tenantId ≠ ""
  secretNotEmpty : signingSecret ≠ ""
  windowPositive : 0 < validityWindowSeconds

section

variable (digests : Digests)

/-- `compute_signature`, of a secret that is not empty. -/
def computeSignature (secret : List UInt8) (timestamp : UtcSecond) (eventId : String)
    (rawBody : List UInt8) : Except String String :=
  if secret = [] then
    Except.error "secret must not be empty"
  else
    (buildCanonicalPayload timestamp eventId rawBody).map fun payload =>
      hexdigest (digests.hmac secret payload)

/-- `timedelta.total_seconds`. -/
def totalSeconds (age : Time) : Rat :=
  age / 1000000

/-- `signature_is_valid`. -/
def signatureIsValid (secret : List UInt8) (timestamp : UtcSecond) (eventId : String)
    (rawBody : List UInt8) (signature : String) (now : Time) (maxAgeSeconds : Rat) :
    Except String Bool :=
  if secret = [] then
    Except.error "secret must not be empty"
  else if maxAgeSeconds ≤ 0 then
    Except.error "max_age_seconds must be a finite positive number"
  else if signaturePattern signature = false then
    Except.ok false
  else
    (computeSignature digests secret timestamp eventId rawBody).map fun expected =>
      decide (expected = signature) &&
        decide (|totalSeconds (now - timestamp.time)| ≤ maxAgeSeconds)

end

structure ValidSignature (digests : Digests) (c : SigningConnection) (timestamp : UtcSecond)
    (eventId : String) (rawBody : List UInt8) (signature : String) (now : Time) : Prop where
  signed : computeSignature digests (encode c.signingSecret) timestamp eventId rawBody =
    Except.ok signature
  window : |totalSeconds (now - timestamp.time)| ≤ c.validityWindowSeconds

theorem encode_ne_nil {s : String} (h : s ≠ "") : encode s ≠ [] := by
  intro hnil
  apply h
  apply encode_inj
  rw [hnil]
  rfl

theorem computeSignature_pattern {digests : Digests} {secret : List UInt8}
    {timestamp : UtcSecond} {eventId signature : String} {rawBody : List UInt8}
    (h : computeSignature digests secret timestamp eventId rawBody = Except.ok signature) :
    signaturePattern signature = true := by
  unfold computeSignature at h
  split at h
  · cases h
  · cases hpayload : buildCanonicalPayload timestamp eventId rawBody with
    | error e =>
        rw [hpayload] at h
        cases h
    | ok payload =>
        rw [hpayload] at h
        cases h
        exact signaturePattern_hexdigest (digests.hmacLength _ payload)

theorem signatureIsValid_eq {digests : Digests} {c : SigningConnection}
    {timestamp : UtcSecond} {eventId signature : String} {rawBody : List UInt8} {now : Time}
    (hevent : Text.strip eventId ≠ "") :
    exists b, signatureIsValid digests (encode c.signingSecret) timestamp eventId rawBody
        signature now c.validityWindowSeconds = Except.ok b ∧
      (b = true ↔
        ValidSignature digests c timestamp eventId rawBody signature now) := by
  have hsecret := encode_ne_nil c.secretNotEmpty
  have hcompute : exists expected, computeSignature digests (encode c.signingSecret)
      timestamp eventId rawBody = Except.ok expected := by
    unfold computeSignature buildCanonicalPayload
    rw [if_neg hsecret, if_neg hevent]
    exact ⟨_, rfl⟩
  rcases hcompute with ⟨expected, hexpected⟩
  unfold signatureIsValid
  rw [if_neg hsecret, if_neg (not_le.mpr c.windowPositive)]
  by_cases hpattern : signaturePattern signature = false
  · rw [if_pos hpattern]
    refine ⟨false, rfl, ?_⟩
    constructor
    · intro h
      cases h
    · intro h
      rw [computeSignature_pattern h.signed] at hpattern
      cases hpattern
  · rw [if_neg hpattern, hexpected]
    refine ⟨_, rfl, ?_⟩
    rw [Bool.and_eq_true, decide_eq_true_eq, decide_eq_true_eq]
    constructor
    · intro h
      exact ⟨hexpected.trans (congrArg Except.ok h.left), h.right⟩
    · intro h
      exact ⟨Except.ok.inj (hexpected.symm.trans h.signed), h.window⟩

/-!
## The envelope
-/

/-- What lies behind `json.loads` and the types of identifiers and times. -/
structure WebhookWire where
  loads : List UInt8 -> Option JsonTree
  uuid : JsonTree -> Option UUID
  datetime : JsonTree -> Option Time

/-- A literal of the vocabulary. -/
def readLiteral {α : Type} (word : α -> String) (literals : List α) (v : JsonTree) : Option α :=
  v.asText.bind (literal? word literals)

def readClean (v : JsonTree) : Option CleanText :=
  v.asText.bind CleanText.parse?

def readOrderId (v : JsonTree) : Option OrderId :=
  v.asText.bind OrderId.parse?

section

variable (wire : WebhookWire)

/-- `ProviderWebhookEventData.model_validate`. -/
def ProviderWebhookEventData.validate : JsonTree -> Option ProviderWebhookEventData
  | JsonTree.object fields =>
      if JsonTree.only ["command_id", "aggregate_type", "aggregate_id", "command_status",
          "provider_operation_id", "provider_reference", "order_id", "occurred_at"]
          fields then do
        let commandId ← JsonTree.required wire.uuid fields "command_id"
        let aggregateType ← JsonTree.required
          (readLiteral ProviderAggregateType.word ProviderAggregateType.literals) fields
          "aggregate_type"
        let aggregateId ← JsonTree.required wire.uuid fields "aggregate_id"
        let commandStatus ← JsonTree.required
          (readLiteral ProviderCommandExecutionStatus.word
            ProviderCommandExecutionStatus.literals) fields "command_status"
        let providerOperationId ← JsonTree.optional readClean fields "provider_operation_id"
        let providerReference ← JsonTree.optional readClean fields "provider_reference"
        let orderId ← JsonTree.optional readOrderId fields "order_id"
        let occurredAt ← JsonTree.required wire.datetime fields "occurred_at"
        pure
          { commandId := commandId
            aggregateType := aggregateType
            aggregateId := aggregateId
            commandStatus := commandStatus
            providerOperationId := providerOperationId
            providerReference := providerReference
            orderId := orderId
            occurredAt := occurredAt }
      else
        none
  | _ => none

/-- `SchemaVersion`; a number that is one. -/
def readSchemaVersion : JsonTree -> Option Unit
  | JsonTree.number q => if q = 1 then some () else none
  | _ => none

/-- `ProviderWebhookEventType`. -/
def readEventType (v : JsonTree) : Option Unit :=
  if v.isText "provider_command_status_changed" then some () else none

/-- A field with a default. -/
def schemaVersionField (fields : List (String × JsonTree)) : Option Unit :=
  match JsonTree.field fields "schema_version" with
  | none => some ()
  | some v => readSchemaVersion v

/-- `ProviderWebhookEnvelope.model_validate`. -/
def ProviderWebhookEnvelope.validate : JsonTree -> Option ProviderWebhookEnvelope
  | JsonTree.object fields =>
      if JsonTree.only ["schema_version", "event_id", "provider_connection_id", "tenant_id",
          "timestamp", "event_type", "data"] fields then do
        let _ ← schemaVersionField fields
        let eventId ← JsonTree.required readClean fields "event_id"
        let providerConnectionId ← JsonTree.required readClean fields
          "provider_connection_id"
        let tenantId ← JsonTree.required readClean fields "tenant_id"
        let timestamp ← JsonTree.required wire.datetime fields "timestamp"
        let _ ← JsonTree.required readEventType fields "event_type"
        let data ← JsonTree.required (ProviderWebhookEventData.validate wire) fields "data"
        pure
          { eventId := eventId
            providerConnectionId := providerConnectionId
            tenantId := tenantId
            timestamp := timestamp
            data := data }
      else
        none
  | _ => none

/-- `ProviderWebhookEnvelope.model_validate(json.loads(raw_body))`. -/
def decodeEnvelope (rawBody : List UInt8) : Option ProviderWebhookEnvelope :=
  (wire.loads rawBody).bind (ProviderWebhookEnvelope.validate wire)

/--
`CanonicalHmacWebhookAdapter` for one connection and one reading of the clock.  A
timestamp that verifies is read from the header once more, since the payload is
signed with its fields.  A blank event id would raise; the route refuses it before.
-/
def canonicalAdapter (digests : Digests) (c : SigningConnection) (now : Time) :
    WebhookLibrary (List UInt8) where
  parseTimestamp := fun s => (strptime s).map UtcSecond.time
  signatureIsValid := fun _ _ headers rawBody =>
    match strptime headers.timestamp with
    | none => false
    | some timestamp =>
        match signatureIsValid digests (encode c.signingSecret) timestamp headers.eventId
          rawBody headers.signature now c.validityWindowSeconds with
        | Except.ok valid => valid
        | Except.error _ => false
  decode := decodeEnvelope wire
  sha256 := fun rawBody => hexdigest (digests.sha256 rawBody)

end

/-- A request that the adapter has verified, with the envelope in its body. -/
structure VerifiedWebhook (wire : WebhookWire) (digests : Digests) (c : SigningConnection)
    (headers : WebhookHeaders) (rawBody : List UInt8) (now : Time)
    (envelope : ProviderWebhookEnvelope) : Prop where
  signature : exists timestamp, strptime headers.timestamp = some timestamp ∧
    envelope.timestamp = timestamp.time ∧
    ValidSignature digests c timestamp headers.eventId rawBody headers.signature now
  decoded : decodeEnvelope wire rawBody = some envelope
  event : envelope.eventId.text = headers.eventId
  connection : envelope.providerConnectionId.text = c.connectionId
  tenant : envelope.tenantId.text = c.tenantId

theorem verifyAndDecode_spec {body : Type} {lib : WebhookLibrary body}
    {connection : ProviderWebhookConnection} {providerConnectionId : String}
    {headers : WebhookHeaders} {rawBody : body} {envelope : ProviderWebhookEnvelope}
    (hpresent : ¬(headers.eventId = "" ∨ headers.timestamp = "" ∨ headers.signature = "")) :
    verifyAndDecode lib connection providerConnectionId headers rawBody =
        Except.ok envelope ↔
      exists timestamp, lib.parseTimestamp headers.timestamp = some timestamp ∧
        lib.signatureIsValid connection timestamp headers rawBody = true ∧
        lib.decode rawBody = some envelope ∧
        envelope.eventId.text = headers.eventId ∧
        envelope.providerConnectionId.text = providerConnectionId ∧
        envelope.tenantId.text = connection.tenantId ∧ envelope.timestamp = timestamp := by
  unfold verifyAndDecode
  rw [if_neg hpresent]
  constructor
  · intro h
    split at h
    · cases h
    · rename_i timestamp htime
      split at h
      · cases h
      · rename_i hvalid
        split at h
        · cases h
        · rename_i found hdecode
          split at h
          · cases h
          · rename_i hsame
            push Not at hsame
            cases h
            exact ⟨timestamp, htime, Bool.of_not_eq_false hvalid, hdecode, hsame⟩
  · rintro ⟨timestamp, htime, hvalid, hdecode, hsame⟩
    rw [htime]
    dsimp only
    rw [if_neg (by rw [hvalid]; decide), hdecode]
    dsimp only
    rw [if_neg]
    rintro (hno | hno | hno | hno)
    · exact hno hsame.left
    · exact hno hsame.right.left
    · exact hno hsame.right.right.left
    · exact hno hsame.right.right.right

theorem verifyAndDecode_eq_ok {wire : WebhookWire} {digests : Digests}
    {c : SigningConnection} {headers : WebhookHeaders} {rawBody : List UInt8} {now : Time}
    {envelope : ProviderWebhookEnvelope} (hevent : Text.strip headers.eventId ≠ "")
    (htimestamp : headers.timestamp ≠ "") (hsignature : headers.signature ≠ "") :
    verifyAndDecode (canonicalAdapter wire digests c now) c.toProviderWebhookConnection
        c.connectionId headers rawBody = Except.ok envelope ↔
      VerifiedWebhook wire digests c headers rawBody now envelope := by
  have hpresent : ¬(headers.eventId = "" ∨ headers.timestamp = "" ∨
      headers.signature = "") := by
    rintro (h | h | h)
    · apply hevent
      rw [h]
      decide
    · exact htimestamp h
    · exact hsignature h
  have hverify (t : UtcSecond) (h : strptime headers.timestamp = some t) (time : Time) :
      (canonicalAdapter wire digests c now).signatureIsValid c.toProviderWebhookConnection
          time headers rawBody = true ↔
        ValidSignature digests c t headers.eventId rawBody headers.signature now := by
    have hspec : exists b, signatureIsValid digests (encode c.signingSecret) t
        headers.eventId rawBody headers.signature now c.validityWindowSeconds =
          Except.ok b ∧ (b = true ↔
            ValidSignature digests c t headers.eventId rawBody headers.signature now) :=
      signatureIsValid_eq hevent
    rcases hspec with ⟨b, hb, hvalid⟩
    rw [← hvalid]
    simp only [canonicalAdapter, h, hb]
  rw [verifyAndDecode_spec hpresent]
  constructor
  · rintro ⟨time, htime, hvalid, hdecode, hid, hconnection, htenant, hstamp⟩
    rcases Option.map_eq_some_iff.mp htime with ⟨t, hread, rfl⟩
    exact ⟨⟨t, hread, hstamp, (hverify t hread _).mp hvalid⟩, hdecode, hid, hconnection,
      htenant⟩
  · intro h
    rcases h.signature with ⟨t, hread, hstamp, hsigned⟩
    exact ⟨t.time, Option.map_eq_some_iff.mpr ⟨t, hread, rfl⟩,
      (hverify t hread _).mpr hsigned, h.decoded, h.event, h.connection, h.tenant, hstamp⟩

/-- The router passes the envelope of a verified request to the repository. -/
theorem VerifiedWebhook.routed {wire : WebhookWire} {digests : Digests}
    {c : SigningConnection} {headers : WebhookHeaders} {rawBody : List UInt8} {now : Time}
    {envelope : ProviderWebhookEnvelope}
    (h : VerifiedWebhook wire digests c headers rawBody now envelope)
    (hevent : Text.strip headers.eventId ≠ "") (htimestamp : headers.timestamp ≠ "")
    (hsignature : headers.signature ≠ "") (inboxId : UUID) (receivedAt : Time) :
    RoutedReceipt (receivedRow inboxId c.connectionId envelope.eventId.text c.tenantId
      envelope.data (hexdigest (digests.sha256 rawBody)) receivedAt) := by
  refine ⟨List UInt8, canonicalAdapter wire digests c now, c.toProviderWebhookConnection,
    c.connectionId, headers, rawBody, inboxId, receivedAt, ?_⟩
  unfold receiveProviderWebhook
  rw [(verifyAndDecode_eq_ok hevent htimestamp hsignature).mpr h]
  rfl

end RefundAgent
