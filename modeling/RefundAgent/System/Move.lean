import RefundAgent.System.Effects

/-!
# Moves

A move is one step in each group of tables, in one of the combinations that the
service makes.  The combinations carry what ties the groups together: which
operation belongs to which command, which case a review is linked to, and under
which key an event is written.
-/

namespace RefundAgent

open Foundation

/-- `provider-command:{id}:cycle:{n}:{suffix}`. -/
def deliveryKey (commandId : UUID) (deliveryCycle : Nat) (suffix : String) : String :=
  "provider-command:" ++ toString commandId ++ ":cycle:" ++
    toString deliveryCycle ++ ":" ++ suffix

/-- The operation status that an ending which settles a command leads to. -/
def Ending.operationStatus : Ending -> OperationRecordStatus
  | finalized v _ => finalStatus v.finalization.target v.finalization.failureKind
  | _ => OperationRecordStatus.manualReview

/-- The case a case step leaves behind. -/
def CaseLabel.result : CaseLabel -> Option SupportCase
  | keep => none
  | create c _ => some c
  | update _ c' _ => some c'
  | record c _ => some c
  | redrive c _ => some c

/-- No event of a case step has a key of the outbox finalizer. -/
def CaseLabel.KeysApart (l : CaseLabel) : Prop :=
  forall e, e ∈ l.events -> ¬KeyUnder Writer.delivery.head e.idempotencyKey

structure ReviewCase (o : OrderOperation) (c : SupportCase) : Prop where
  reason : HandoffReason.providerDeliveryFailed ∈ c.reasonCodes
  kind : c.caseType = CaseType.orderOperationReview
  tenant : c.tenantId = o.tenantId
  thread : c.threadId = o.threadId

/-!
## The combinations
-/

/-- Confirmation, cancellation, submission and the link to a case. -/
structure ServiceChange (o o' : OrderOperation) : Prop where
  status :
    (o.status = OperationRecordStatus.pendingConfirmation ∧
      o'.status ≠ OperationRecordStatus.pendingConfirmation ∧
      o'.status ≠ OperationRecordStatus.queued) ∨
    (o.status = OperationRecordStatus.manualReview ∧ o'.status = o.status ∧
      o.supportCaseId = none)
  review : o'.requiresManualReview = o.requiresManualReview

structure FallbackChange (o o' : OrderOperation) (l : CaseLabel) : Prop where
  before : o.status = OperationRecordStatus.pendingConfirmation
  after : o'.status = OperationRecordStatus.manualReview
  review : o'.requiresManualReview = true
  linked : exists c, l.result = some c ∧ o'.supportCaseId = some c.caseId
  ground : l.Grounded fun _ => False
  caseKeys : l.KeysApart

structure Associated (o : OrderOperation) (m : ProviderCommandEnvelope) : Prop where
  tenant : o.tenantId = m.tenantId
  customer : o.customerId = m.customerId
  version : m.expectedOrderVersion = some o.orderVersion
  source : m.sourceMessageId = o.sourceMessageId
  payload : m.payload.isOrderOperation = true
  order : m.payload.orderId = o.orderId
  operationType : m.payload.operationType? = some o.operationType

structure OperationQueued (o o' : OrderOperation) (m : OutboxMessage) : Prop extends
    Associated o m.toProviderCommandEnvelope where
  kind : m.aggregateType = ProviderAggregateType.orderOperation
  aggregate : m.aggregateId = o.operationId
  before : o.status = OperationRecordStatus.pendingConfirmation
  after : o'.status = OperationRecordStatus.queued
  review : o'.requiresManualReview = false
  kept : o'.requiresManualReview = o.requiresManualReview

structure InvestigationQueued (c : SupportCase) (m : OutboxMessage) : Prop where
  kind : m.aggregateType = ProviderAggregateType.supportCase
  command : m.commandType = ProviderCommandType.deliveryInvestigation
  aggregate : m.aggregateId = c.caseId
  tenant : m.tenantId = c.tenantId
  customer : m.customerId = c.customerId
  caseKind : c.caseType = CaseType.deliveryInvestigation

structure OperationSettled (e : Ending) (m : OutboxMessage)
    (o o' : OrderOperation) (l : CaseLabel) : Prop where
  kind : m.aggregateType = ProviderAggregateType.orderOperation
  settles : e.settles = true
  aggregate : o.operationId = m.aggregateId
  tenant : o.tenantId = m.tenantId
  before : o.status = OperationRecordStatus.queued
  after : o'.status = e.operationStatus
  review : o'.status = OperationRecordStatus.manualReview ->
    o'.requiresManualReview = true ∧
      (o.supportCaseId = none -> exists c, l.result = some c ∧
        o'.supportCaseId = some c.caseId ∧ ReviewCase o c)
  ground : l.Grounded fun _ => False
  caseKeys : forall e, e ∈ l.events ->
    e.idempotencyKey = deliveryKey m.commandId m.deliveryCycle "technical-review"

structure CaseSettled (e : Ending) (m : OutboxMessage) (c : SupportCase)
    (ev : SupportCaseEvent) (l : CaseLabel) : Prop where
  kind : m.aggregateType = ProviderAggregateType.supportCase
  label : l = CaseLabel.record c ev ∨ exists c₀, l = CaseLabel.update c₀ c [ev]
  case : c.caseId = m.aggregateId
  event : ev.caseId = c.caseId ∧ ev.eventType = CaseEventType.providerUpdate ∧
    ev.providerCommandId = some m.commandId
  finalized : exists v now, e = Ending.finalized v now ∧
    ev.idempotencyKey =
      deliveryKey m.commandId m.deliveryCycle v.finalization.target.word ∧
    (v.finalization.target = FinalTarget.dead ->
      HandoffReason.providerDeliveryFailed ∈ c.reasonCodes) ∧
    (v.finalization.target ≠ FinalTarget.dead -> l = CaseLabel.record c ev)
  undelivered : forall c₀, l = CaseLabel.update c₀ c [ev] -> Undelivered c₀ c

/-- The audit record of a redrive and the case event it writes. -/
structure RedriveAudited (r : OutboxRedrive) (ev : SupportCaseEvent) : Prop where
  colon : ':' ∉ r.tenantId.text.toList
  key : ev.idempotencyKey =
    "provider-redrive:" ++ r.tenantId.text ++ ":" ++ toString r.redriveId

structure OperationRedriven (m : OutboxMessage) (r : OutboxRedrive)
    (o o' : OrderOperation) (e : OrderOperationEvent) : Prop where
  kind : m.aggregateType = ProviderAggregateType.orderOperation
  aggregate : o.operationId = m.aggregateId
  before : o.status = OperationRecordStatus.manualReview
  after : o'.status = OperationRecordStatus.queued
  review : o'.requiresManualReview = false
  key : e.idempotencyKey = "provider-redrive:" ++ r.tenantId.text ++ ":" ++
    toString m.commandId ++ ":" ++ r.requestId

structure CallbackChange (o o' : OrderOperation) : Prop where
  status :
    (o'.status = o.status ∧ o.status ≠ OperationRecordStatus.pendingConfirmation ∧
      o.status ≠ OperationRecordStatus.queued ∧
      o.status ≠ OperationRecordStatus.manualReview) ∨
    ((o.status = OperationRecordStatus.submitted ∨
        o.status = OperationRecordStatus.processing) ∧
      (o'.status = OperationRecordStatus.processing ∨
        o'.status = OperationRecordStatus.completed ∨
        o'.status = OperationRecordStatus.rejected))
  review : o'.requiresManualReview = o.requiresManualReview ∧
    o'.supportCaseId = o.supportCaseId

/-- A change of cases alone, or the half of a combination that changes one. -/
def CaseLabel.writes : CaseLabel -> Prop
  | create _ _ => True
  | update _ _ _ => True
  | _ => False

inductive Combination :
    OperationLabel -> CaseLabel -> OutboxLabel -> InboxLabel -> Prop
  | idle : Combination OperationLabel.keep CaseLabel.keep OutboxLabel.keep
      InboxLabel.keep
  | createOperation (o : OrderOperation) (e : OrderOperationEvent) :
      Combination (OperationLabel.create o e) CaseLabel.keep OutboxLabel.keep
        InboxLabel.keep
  | changeOperation {o o' : OrderOperation} {es : List OrderOperationEvent}
      (h : ServiceChange o o')
      (keys : forall e, e ∈ es -> KeyUnder (operationHead o.operationId)
        e.idempotencyKey) :
      Combination (OperationLabel.update Writer.service o o' es) CaseLabel.keep
        OutboxLabel.keep InboxLabel.keep
  | fallback {o o' : OrderOperation} {es : List OrderOperationEvent} {l : CaseLabel}
      (h : FallbackChange o o' l) (hl : l.writes)
      (keys : forall e, e ∈ es -> KeyUnder
        ("provider-queue-failure:" ++ toString o.operationId) e.idempotencyKey) :
      Combination (OperationLabel.update Writer.fallback o o' es) l OutboxLabel.keep
        InboxLabel.keep
  | queueOperation {o o' : OrderOperation} {es : List OrderOperationEvent}
      {m : OutboxMessage} (h : OperationQueued o o' m)
      (keys : forall e, e ∈ es -> KeyUnder (operationHead o.operationId)
        e.idempotencyKey) :
      Combination (OperationLabel.update Writer.service o o' es) CaseLabel.keep
        (OutboxLabel.queue m) InboxLabel.keep
  | changeCase {l : CaseLabel} (hl : l.writes) (keys : l.KeysApart) :
      Combination OperationLabel.keep l OutboxLabel.keep InboxLabel.keep
  | queueInvestigation {l : CaseLabel} {c : SupportCase} {m : OutboxMessage}
      (hl : l.writes) (hc : l.result = some c) (h : InvestigationQueued c m)
      (keys : l.KeysApart) :
      Combination OperationLabel.keep l (OutboxLabel.queue m) InboxLabel.keep
  | claim (m m' : OutboxMessage) (a : OutboxDeliveryAttempt) :
      Combination OperationLabel.keep CaseLabel.keep (OutboxLabel.claim m m' a)
        InboxLabel.keep
  | renew (m m' : OutboxMessage) :
      Combination OperationLabel.keep CaseLabel.keep (OutboxLabel.renew m m')
        InboxLabel.keep
  | reschedule {e : Ending} (m : OutboxMessage) (a : OutboxDeliveryAttempt)
      (h : e.settles = false) :
      Combination OperationLabel.keep CaseLabel.keep (OutboxLabel.finish e m a)
        InboxLabel.keep
  | abandonCase {now deadAt updatedAt : Time} {m : OutboxMessage}
      (a : OutboxDeliveryAttempt)
      (h : m.aggregateType = ProviderAggregateType.supportCase) :
      Combination OperationLabel.keep CaseLabel.keep
        (OutboxLabel.finish (Ending.exhausted now deadAt updatedAt) m a)
        InboxLabel.keep
  | settleOperation {o o' : OrderOperation} {es : List OrderOperationEvent}
      {l : CaseLabel} {e : Ending} {m : OutboxMessage} (a : OutboxDeliveryAttempt)
      (h : OperationSettled e m o o' l) (hl : l.writes ∨ l = CaseLabel.keep)
      (recorded : exists ev, ev ∈ es ∧
        ev.idempotencyKey = deliveryKey m.commandId m.deliveryCycle "status") :
      Combination (OperationLabel.update Writer.delivery o o' es) l
        (OutboxLabel.finish e m a) InboxLabel.keep
  | settleCase {c : SupportCase} {ev : SupportCaseEvent} {l : CaseLabel}
      {e : Ending} {m : OutboxMessage} (a : OutboxDeliveryAttempt)
      (h : CaseSettled e m c ev l) :
      Combination OperationLabel.keep l (OutboxLabel.finish e m a) InboxLabel.keep
  | redriveOperation {o o' : OrderOperation} {e : OrderOperationEvent}
      {c : SupportCase} {ev : SupportCaseEvent} {m m' : OutboxMessage}
      {r : OutboxRedrive} (h : OperationRedriven m r o o' e)
      (audit : RedriveAudited r ev) :
      Combination (OperationLabel.update Writer.redrive o o' [e])
        (CaseLabel.redrive c ev) (OutboxLabel.redrive m m' r) InboxLabel.keep
  | redriveCase {c : SupportCase} {ev : SupportCaseEvent} {m m' : OutboxMessage}
      {r : OutboxRedrive} (kind : m.aggregateType = ProviderAggregateType.supportCase)
      (audit : RedriveAudited r ev) :
      Combination OperationLabel.keep (CaseLabel.redrive c ev)
        (OutboxLabel.redrive m m' r) InboxLabel.keep
  | inbox {l : InboxLabel} (h : forall e m a, l = InboxLabel.finish e m a ->
        e.isProcessed = false) :
      Combination OperationLabel.keep CaseLabel.keep OutboxLabel.keep l
  | callbackOperation {o o' : OrderOperation} {es : List OrderOperationEvent}
      {now : Time} {m : InboxMessage} {a : InboxProcessingAttempt}
      (h : CallbackChange o o') (single : es.length ≤ 1) :
      Combination (OperationLabel.update Writer.callback o o' es) CaseLabel.keep
        OutboxLabel.keep (InboxLabel.finish (InboxEnding.processed now) m a)
  | callbackOnly {now : Time} {m : InboxMessage} {a : InboxProcessingAttempt} :
      Combination OperationLabel.keep CaseLabel.keep OutboxLabel.keep
        (InboxLabel.finish (InboxEnding.processed now) m a)
  | callbackCase {c : SupportCase} {ev : SupportCaseEvent} {now : Time}
      {m : InboxMessage} {a : InboxProcessingAttempt}
      (keys : (CaseLabel.record c ev).KeysApart) :
      Combination OperationLabel.keep (CaseLabel.record c ev) OutboxLabel.keep
        (InboxLabel.finish (InboxEnding.processed now) m a)

/-!
## Moves
-/

/-- The labels of a move: one for each group of tables, and the new refund request. -/
structure Label where
  operation : OperationLabel := OperationLabel.keep
  case : CaseLabel := CaseLabel.keep
  outbox : OutboxLabel := OutboxLabel.keep
  inbox : InboxLabel := InboxLabel.keep
  refund : Option RefundRequest := none

/--
The event of a case update is missing only where the finalizer of a command has
already written one under the same key.
-/
def Label.Silent (l : Label) (db : Database) : Prop :=
  exists e m a x, l.outbox = OutboxLabel.finish e m a ∧ x ∈ db.cases.events.rows ∧
    x.idempotencyKey = deliveryKey m.commandId m.deliveryCycle "technical-review"

/-- A row with the identifier is inserted. -/
def Label.creates (l : Label) (x : UUID) : Prop :=
  l.operation.created? = some x ∨ l.case.created? = some x ∨
    l.outbox.created? = some x ∨ (l.refund.map RefundRequest.refundId) = some x

/-- The audit record a label writes. -/
def OutboxLabel.redriveId? : OutboxLabel -> Option UUID
  | redrive _ _ r => some r.redriveId
  | _ => none

structure Move (l : Label) (db db' : Database) : Prop where
  operation : OperationStep l.operation db.operations db'.operations
  case : CaseStep l.case db.cases db'.cases
  outbox : OutboxStep l.outbox db.outbox db'.outbox
  inbox : InboxStep l.inbox db.inbox db'.inbox
  refund : RefundStep l.refund db.refunds db'.refunds
  combined : Combination l.operation l.case l.outbox l.inbox
  ids : db.ids.Extends db'.ids
  operationEventIds : forall e, e ∈ l.operation.events -> db'.ids.Issued e.eventId
  caseEventIds : forall e, e ∈ l.case.events -> db'.ids.Issued e.eventId
  redriveIds : forall x, l.outbox.redriveId? = some x -> db'.ids.Issued x
  createdIds : forall x, l.creates x -> db'.ids.Issued x
  silent : forall c c', l.case = CaseLabel.update c c' [] -> l.Silent db

/-- A sequence of moves whose labels all satisfy a condition. -/
def Moves (P : Label -> Prop) : Database -> Database -> Prop :=
  Relation.ReflTransGen fun db db' => exists l, P l ∧ Move l db db'

theorem Moves.refl (P : Label -> Prop) (db : Database) : Moves P db db :=
  Relation.ReflTransGen.refl

theorem Moves.single {P : Label -> Prop} {l : Label} {db db' : Database}
    (hl : P l) (h : Move l db db') : Moves P db db' :=
  Relation.ReflTransGen.single ⟨l, hl, h⟩

theorem Moves.trans {P : Label -> Prop} {db db' db'' : Database}
    (h : Moves P db db') (h' : Moves P db' db'') : Moves P db db'' :=
  Relation.ReflTransGen.trans h h'

theorem Moves.preserves {P : Label -> Prop} {I : Database -> Prop}
    (hstep : forall l db db', P l -> Move l db db' -> I db -> I db')
    {db db' : Database} (h : Moves P db db') (hdb : I db) : I db' := by
  induction h with
  | refl => exact hdb
  | tail _ hlast ih =>
      rcases hlast with ⟨l, hl, hm⟩
      exact hstep l _ _ hl hm ih

/-!
## What later states keep

Rows are never deleted, their fixed columns never change, and a row whose
version has not moved has not changed at all.
-/

structure Later (db db' : Database) : Prop where
  operations : forall id o, db.operations.rows.get id = some o ->
    exists o', db'.operations.rows.get id = some o' ∧ o'.frozen = o.frozen ∧
      o.version ≤ o'.version ∧ (o'.version = o.version -> o' = o)
  cases : forall id c, db.cases.rows.get id = some c ->
    exists c', db'.cases.rows.get id = some c' ∧ c'.frozen = c.frozen ∧
      c.version ≤ c'.version ∧ (c'.version = c.version -> c' = c)
  outbox : forall id m, db.outbox.messages.get id = some m ->
    exists m', db'.outbox.messages.get id = some m' ∧
      m'.toProviderCommandEnvelope = m.toProviderCommandEnvelope
  inbox : forall id m, db.inbox.messages.get id = some m ->
    exists m', db'.inbox.messages.get id = some m' ∧
      m'.toReceivedWebhook = m.toReceivedWebhook
  ids : db.ids.Extends db'.ids

theorem Later.refl (db : Database) : Later db db where
  operations := fun _ o h => ⟨o, h, rfl, Nat.le_refl _, fun _ => rfl⟩
  cases := fun _ c h => ⟨c, h, rfl, Nat.le_refl _, fun _ => rfl⟩
  outbox := fun _ m h => ⟨m, h, rfl⟩
  inbox := fun _ m h => ⟨m, h, rfl⟩
  ids := db.ids.extends_refl

theorem Later.trans {a b c : Database} (h : Later a b) (h' : Later b c) :
    Later a c where
  operations := by
    intro id o ho
    rcases h.operations id o ho with ⟨o₁, ho₁, hf₁, hv₁, he₁⟩
    rcases h'.operations id o₁ ho₁ with ⟨o₂, ho₂, hf₂, hv₂, he₂⟩
    refine ⟨o₂, ho₂, hf₂.trans hf₁, Nat.le_trans hv₁ hv₂, ?_⟩
    intro hv
    have h₁ : o₁.version = o.version := by omega
    rw [he₂ (hv.trans h₁.symm), he₁ h₁]
  cases := by
    intro id k hk
    rcases h.cases id k hk with ⟨k₁, hk₁, hf₁, hv₁, he₁⟩
    rcases h'.cases id k₁ hk₁ with ⟨k₂, hk₂, hf₂, hv₂, he₂⟩
    refine ⟨k₂, hk₂, hf₂.trans hf₁, Nat.le_trans hv₁ hv₂, ?_⟩
    intro hv
    have h₁ : k₁.version = k.version := by omega
    rw [he₂ (hv.trans h₁.symm), he₁ h₁]
  outbox := by
    intro id m hm
    rcases h.outbox id m hm with ⟨m₁, hm₁, he₁⟩
    rcases h'.outbox id m₁ hm₁ with ⟨m₂, hm₂, he₂⟩
    exact ⟨m₂, hm₂, he₂.trans he₁⟩
  inbox := by
    intro id m hm
    rcases h.inbox id m hm with ⟨m₁, hm₁, he₁⟩
    rcases h'.inbox id m₁ hm₁ with ⟨m₂, hm₂, he₂⟩
    exact ⟨m₂, hm₂, he₂.trans he₁⟩
  ids := h.ids.trans h'.ids

theorem operationId_of_frozen {o o' : OrderOperation} (h : o'.frozen = o.frozen) :
    o'.operationId = o.operationId := by
  show o'.frozen.operationId = o.frozen.operationId
  rw [h]

theorem Associated.of_frozen {o o' : OrderOperation} {m : ProviderCommandEnvelope}
    (h : Associated o m) (hfrozen : o'.frozen = o.frozen) : Associated o' m := by
  constructor
  · show o'.frozen.tenantId = _
    rw [hfrozen]
    exact h.tenant
  · show o'.frozen.customerId = _
    rw [hfrozen]
    exact h.customer
  · show _ = some o'.frozen.orderVersion
    rw [hfrozen]
    exact h.version
  · show _ = o'.frozen.sourceMessageId
    rw [hfrozen]
    exact h.source
  · exact h.payload
  · show _ = o'.frozen.orderId
    rw [hfrozen]
    exact h.order
  · show _ = some o'.frozen.operationType
    rw [hfrozen]
    exact h.operationType

theorem caseId_of_frozen {c c' : SupportCase} (h : c'.frozen = c.frozen) :
    c'.caseId = c.caseId := by
  show c'.frozen.caseId = c.frozen.caseId
  rw [h]

theorem Ending.message_envelope (e : Ending) (m : OutboxMessage) :
    (e.message m).toProviderCommandEnvelope = m.toProviderCommandEnvelope := by
  cases e <;> rfl

theorem InboxEnding.message_received (e : InboxEnding) (m : InboxMessage) :
    (e.message m).toReceivedWebhook = m.toReceivedWebhook := by
  cases e <;> rfl

theorem get_put_related {ρ : Type} {key : ρ -> UUID} {R : ρ -> ρ -> Prop}
    (t : Table ρ UUID key) {old new : ρ} (hget : t.get (key old) = some old)
    (hkey : key new = key old) (hrefl : forall r, R r r) (hR : R old new) :
    forall id r, t.get id = some r ->
      exists r', (t.put new).get id = some r' ∧ R r r' := by
  intro id r hr
  have hold : t.get (key new) = some old := by
    rw [hkey]
    exact hget
  rw [Table.get_put id hold]
  by_cases hid : id = key new
  · rw [if_pos hid]
    rw [hid, hold] at hr
    cases hr
    exact ⟨new, rfl, hR⟩
  · rw [if_neg hid]
    exact ⟨r, hr, hrefl r⟩

theorem get_insert_related {ρ : Type} {key : ρ -> UUID} {R : ρ -> ρ -> Prop}
    {t u : Table ρ UUID key} {new : ρ} (hins : t.insert? new = some u)
    (hrefl : forall r, R r r) :
    forall id r, t.get id = some r -> exists r', u.get id = some r' ∧ R r r' := by
  intro id r hr
  exact ⟨r, Table.get_of_rows_append (Table.insert?_eq_some.mp hins).right hr,
    hrefl r⟩

theorem OperationStep.later {l : OperationLabel} {t u : OperationTables}
    (h : OperationStep l t u) :
    forall id o, t.rows.get id = some o ->
      exists o', u.rows.get id = some o' ∧ o'.frozen = o.frozen ∧
        o.version ≤ o'.version ∧ (o'.version = o.version -> o' = o) := by
  cases h with
  | keep => exact fun _ o h => ⟨o, h, rfl, Nat.le_refl _, fun _ => rfl⟩
  | create insert free appended unused new =>
      exact get_insert_related insert (fun r => ⟨rfl, Nat.le_refl _, fun _ => rfl⟩)
  | @update _ events w o o' es get free appended unused change =>
      refine get_put_related t.rows get (operationId_of_frozen change.frozen)
        (fun r => ⟨rfl, Nat.le_refl _, fun _ => rfl⟩) ⟨change.frozen, ?_, ?_⟩
      · rw [change.version]
        exact Nat.le_succ _
      · intro hv
        rw [change.version] at hv
        omega

theorem CaseStep.later {l : CaseLabel} {t u : CaseTables} (h : CaseStep l t u) :
    forall id c, t.rows.get id = some c ->
      exists c', u.rows.get id = some c' ∧ c'.frozen = c.frozen ∧
        c.version ≤ c'.version ∧ (c'.version = c.version -> c' = c) := by
  have hsame : u.rows = t.rows -> forall id c, t.rows.get id = some c ->
      exists c', u.rows.get id = some c' ∧ c'.frozen = c.frozen ∧
        c.version ≤ c'.version ∧ (c'.version = c.version -> c' = c) := by
    intro hrows id c hc
    rw [hrows]
    exact ⟨c, hc, rfl, Nat.le_refl _, fun _ => rfl⟩
  cases h with
  | keep => exact hsame rfl
  | create insert valid checks free owner events keys =>
      exact get_insert_related insert (fun r => ⟨rfl, Nat.le_refl _, fun _ => rfl⟩)
  | @update _ _ c c' es get change checks free owner rows events keys =>
      rw [rows]
      refine get_put_related t.rows get (caseId_of_frozen change.frozen)
        (fun r => ⟨rfl, Nat.le_refl _, fun _ => rfl⟩) ⟨change.frozen, ?_, ?_⟩
      · rw [change.version]
        exact Nat.le_succ _
      · intro hv
        rw [change.version] at hv
        omega
  | record get owner rows events keys => exact hsame rows
  | redrive get owner rows events => exact hsame rows

theorem OutboxStep.later {l : OutboxLabel} {t u : OutboxTables}
    (h : OutboxStep l t u) :
    forall id m, t.messages.get id = some m ->
      exists m', u.messages.get id = some m' ∧
        m'.toProviderCommandEnvelope = m.toProviderCommandEnvelope := by
  cases h with
  | keep => exact fun _ m h => ⟨m, h, rfl⟩
  | queue valid free insert => exact get_insert_related insert (fun _ => rfl)
  | claim get due worker insert =>
      exact get_put_related t.messages get rfl (fun _ => rfl) rfl
  | renew get held =>
      exact get_put_related t.messages get rfl (fun _ => rfl) rfl
  | @finish _ e m a get held getAttempt ofCommand isOpen allowed checks =>
      exact get_put_related t.messages get
        (congrArg ProviderCommandEnvelope.commandId (e.message_envelope m))
        (fun _ => rfl) (e.message_envelope m)
  | redrive get dead insert audit =>
      exact get_put_related t.messages get rfl (fun _ => rfl) rfl

theorem InboxStep.later {l : InboxLabel} {t u : InboxTables}
    (h : InboxStep l t u) :
    forall id m, t.messages.get id = some m ->
      exists m', u.messages.get id = some m' ∧
        m'.toReceivedWebhook = m.toReceivedWebhook := by
  cases h with
  | keep => exact fun _ m h => ⟨m, h, rfl⟩
  | receive fresh insert => exact get_insert_related insert (fun _ => rfl)
  | claim get due worker insert =>
      exact get_put_related t.messages get rfl (fun _ => rfl) rfl
  | renew get held =>
      exact get_put_related t.messages get rfl (fun _ => rfl) rfl
  | @finish _ e m a get held getAttempt ofMessage isOpen allowed =>
      exact get_put_related t.messages get
        (congrArg ReceivedWebhook.inboxId (e.message_received m))
        (fun _ => rfl) (e.message_received m)
  | redrive get failed =>
      exact get_put_related t.messages get rfl (fun _ => rfl) rfl

theorem Move.later {l : Label} {db db' : Database} (h : Move l db db') :
    Later db db' where
  operations := h.operation.later
  cases := h.case.later
  outbox := h.outbox.later
  inbox := h.inbox.later
  ids := h.ids

theorem Moves.later {P : Label -> Prop} {db db' : Database} (h : Moves P db db') :
    Later db db' := by
  induction h with
  | refl => exact Later.refl db
  | tail _ hlast ih =>
      rcases hlast with ⟨l, _, hm⟩
      exact ih.trans hm.later

end RefundAgent
