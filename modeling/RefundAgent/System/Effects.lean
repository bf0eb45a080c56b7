import RefundAgent.Cases.Service
import RefundAgent.Integrations.ProviderFailure
import RefundAgent.Integrations.ProviderOperations

/-!
# What a transaction can do

Every transaction of the service moves each of the four groups of tables by at
most one small step.  The steps are listed here, group by group, each under a
label that names the rows involved.  The invariants of the system are proved
from the steps alone, so they do not depend on the order or the wording of the
statements in the source.
-/

namespace RefundAgent

open Foundation

/-- A key of the form `head:rest`. -/
def KeyUnder (head key : String) : Prop :=
  exists rest, key = head ++ ":" ++ rest

theorem KeyUnder.head_eq {a b key : String} (ha : ':' ∉ a.toList)
    (hb : ':' ∉ b.toList) (h : KeyUnder a key) (h' : KeyUnder b key) : a = b := by
  rcases h with ⟨x, hx⟩
  rcases h' with ⟨y, hy⟩
  exact (Text.colon_inj ha hb (hx.symm.trans hy)).left

/-!
## Order operations
-/

/-- The columns of an operation that no statement rewrites. -/
def OrderOperation.frozen (o : OrderOperation) : OrderOperation :=
  { o with
    policyReasonCodes := []
    requiresManualReview := false
    reviewCaseType := none
    reviewPriority := none
    supportCaseId := none
    providerReference := none
    status := OperationRecordStatus.pendingConfirmation
    updatedAt := 0
    version := 0 }

inductive Writer where
  | service
  | fallback
  | delivery
  | callback
  | redrive
deriving DecidableEq, Repr

/-- The first part of the idempotency keys of a writer. -/
def Writer.head : Writer -> String
  | service => "operation"
  | fallback => "provider-queue-failure"
  | delivery => "provider-command"
  | callback => "provider-webhook"
  | redrive => "provider-redrive"

/-- The first two parts of the keys that the service writes for an operation. -/
def operationHead (operationId : UUID) : String :=
  "operation:" ++ toString operationId

theorem KeyUnder.service {operationId : UUID} {key : String}
    (h : KeyUnder (operationHead operationId) key) :
    KeyUnder Writer.service.head key := by
  rcases h with ⟨rest, rfl⟩
  refine ⟨toString operationId ++ ":" ++ rest, ?_⟩
  have hhead : "operation:" = Writer.service.head ++ ":" := rfl
  unfold operationHead
  rw [hhead]
  simp only [String.append_assoc]

/-- The redrive step, the one status change outside the transition table. -/
def redriveTransition (current target : OperationRecordStatus) : Prop :=
  current = OperationRecordStatus.manualReview ∧
    target = OperationRecordStatus.queued

/-- The status changes that a row update may make. -/
def Transition (current target : OperationRecordStatus) : Prop :=
  target ∈ allowedStatusTransitions current ∨ redriveTransition current target

/-- The events of an update record its status change exactly once. -/
def Recorded (o o' : OrderOperation) (es : List OrderOperationEvent) : Prop :=
  (o'.status = o.status ∧
      es.filter OrderOperationEvent.isStatusChange = []) ∨
    (Transition o.status o'.status ∧
      exists e, es.filter OrderOperationEvent.isStatusChange = [e] ∧
        e.previousStatus = some o.status ∧ e.currentStatus = some o'.status)

/-- The provider has not answered about the operation yet. -/
def OperationRecordStatus.unanswered (s : OperationRecordStatus) : Prop :=
  s = pendingConfirmation ∨ s = queued ∨ s = manualReview

/-- The model can read the reference of the provider, which it strips first. -/
def OrderOperation.legible (o : OrderOperation) : Prop :=
  o.providerReference.map Text.trim ≠ some ""

theorem OrderOperation.legible_of_parsed {o : OrderOperation} {t : Option CleanText}
    (h : t.map CleanText.text = o.providerReference.map Text.trim) : o.legible := by
  unfold OrderOperation.legible
  rw [← h]
  cases t with
  | none => exact fun hno => (by cases hno)
  | some t => exact fun hno => t.clean.right (Option.some.inj hno)

theorem OrderOperation.legible_of_eq {o o' : OrderOperation} (ho : o.legible)
    (h : o'.providerReference = o.providerReference) : o'.legible := by
  unfold OrderOperation.legible
  rw [h]
  exact ho

theorem OrderOperation.legible_of_read {row o : OrderOperation}
    (h : o.providerReference = row.providerReference.map Text.trim) :
    o.legible ↔ row.legible := by
  unfold OrderOperation.legible
  rw [h]
  cases row.providerReference with
  | none => exact Iff.rfl
  | some s =>
      show some (Text.trim (Text.trim s)) ≠ some "" ↔ some (Text.trim s) ≠ some ""
      rw [Text.trim_trim]

/--
What a row update does to the reference of the provider.  Before the provider has
answered it may be written, and stays empty as long as the provider has not; after
that it is filled in or rewritten as the model reads it, which strips it.
-/
structure Referenced (o o' : OrderOperation) : Prop where
  legible : o.legible -> o'.legible
  kept : o.status.unanswered ∨ o.providerReference = none ∨
    o'.providerReference = o.providerReference ∨
    o'.providerReference = o.providerReference.map Text.trim
  blank : o'.status.unanswered -> o.status.unanswered ∧
    (o.providerReference = none -> o'.providerReference = none)

/-- Another active operation of the tenant holds the order of the given one. -/
def OrderTaken (t : OperationTables) (o : OrderOperation) : Prop :=
  exists r, r ∈ t.rows.rows ∧ r.active = true ∧ o.active = true ∧
    r.operationId ≠ o.operationId ∧ r.tenantId = o.tenantId ∧
    r.orderId = o.orderId

inductive OperationLabel where
  | keep
  | create (o : OrderOperation) (e : OrderOperationEvent)
  | update (w : Writer) (o o' : OrderOperation) (es : List OrderOperationEvent)

/-- The events a label appends. -/
def OperationLabel.events : OperationLabel -> List OrderOperationEvent
  | keep => []
  | create _ e => [e]
  | update _ _ _ es => es

/-- The identifier of the row a label inserts. -/
def OperationLabel.created? : OperationLabel -> Option UUID
  | create o _ => some o.operationId
  | _ => none

structure OperationCreated (o : OrderOperation) (e : OrderOperationEvent) : Prop where
  valid : o.valid = true
  status : o.status = OperationRecordStatus.pendingConfirmation
  version : o.version = 1
  support : o.supportCaseId = none
  checks : o.checks = true
  event : e.operationId = o.operationId
  created : e.eventType = OperationEventType.operationCreated
  key : KeyUnder Writer.service.head e.idempotencyKey
  ends : exists rest, e.idempotencyKey = rest ++ ":created"
  reference : o.providerReference = none

structure OperationUpdated (w : Writer) (o o' : OrderOperation)
    (es : List OrderOperationEvent) : Prop where
  frozen : o'.frozen = o.frozen
  policy : o'.policyReasonCodes = o.policyReasonCodes
  version : o'.version = o.version + 1
  checks : o'.checks = true
  recorded : Recorded o o' es
  owner : forall e, e ∈ es -> e.operationId = o.operationId
  keys : forall e, e ∈ es -> KeyUnder w.head e.idempotencyKey
  reference : Referenced o o'

inductive OperationStep : OperationLabel -> OperationTables -> OperationTables -> Prop
  | keep (t : OperationTables) : OperationStep OperationLabel.keep t t
  | create {t : OperationTables}
      {rows : Table OrderOperation UUID OrderOperation.operationId}
      {events : Table OrderOperationEvent UUID OrderOperationEvent.eventId}
      {o : OrderOperation} {e : OrderOperationEvent}
      (insert : t.rows.insert? o = some rows) (free : ¬OrderTaken t o)
      (appended : events.rows = t.events.rows ++ [e])
      (unused : forall x, x ∈ t.events.rows -> x.idempotencyKey ≠ e.idempotencyKey)
      (new : OperationCreated o e) :
      OperationStep (OperationLabel.create o e) t ⟨rows, events⟩
  | update {t : OperationTables}
      {events : Table OrderOperationEvent UUID OrderOperationEvent.eventId}
      {w : Writer} {o o' : OrderOperation} {es : List OrderOperationEvent}
      (get : t.rows.get o.operationId = some o) (free : ¬OrderTaken t o')
      (appended : events.rows = t.events.rows ++ es)
      (unused : forall e, e ∈ es -> forall x, x ∈ t.events.rows ->
        x.idempotencyKey ≠ e.idempotencyKey)
      (change : OperationUpdated w o o' es) :
      OperationStep (OperationLabel.update w o o' es) t ⟨t.rows.put o', events⟩

/-!
## Support cases
-/

/-- The columns of a case that no statement rewrites. -/
def SupportCase.frozen (c : SupportCase) : SupportCase :=
  { c with
    orderId := none
    priority := CasePriority.p0
    status := CaseStatus.open
    riskLevel := none
    riskCategories := []
    reasonCodes := []
    onHoldReason := none
    updatedAt := 0
    version := 0
    assignedAgentId := none }

def redriveHead : String := "provider-redrive"

inductive CaseLabel where
  | keep
  | create (c : SupportCase) (e : SupportCaseEvent)
  | update (c c' : SupportCase) (es : List SupportCaseEvent)
  | record (c : SupportCase) (e : SupportCaseEvent)
  | redrive (c : SupportCase) (e : SupportCaseEvent)

def CaseLabel.events : CaseLabel -> List SupportCaseEvent
  | keep => []
  | create _ e => [e]
  | update _ _ es => es
  | record _ e => [e]
  | redrive _ e => [e]

/-- The identifier of the row a label inserts. -/
def CaseLabel.created? : CaseLabel -> Option UUID
  | create c _ => some c.caseId
  | _ => none

/-- Another unresolved case holds the place of the given one in an active index. -/
def CaseTaken (t : CaseTables) (c : SupportCase) : Prop :=
  exists r, r ∈ t.rows.rows ∧ r.unresolved = true ∧ c.unresolved = true ∧
    r.caseId ≠ c.caseId ∧ r.tenantId = c.tenantId ∧ r.threadId = c.threadId ∧
    r.caseType = c.caseType ∧
    (c.caseType = CaseType.deliveryInvestigation -> r.orderId = c.orderId)

structure OfCase (c : SupportCase) (e : SupportCaseEvent) : Prop where
  id : e.caseId = c.caseId
  tenant : e.tenantId = c.tenantId
  customer : e.customerId = c.customerId

structure CaseFacts where
  status : Option CaseStatus
  onHoldReason : Option OnHoldReason
  priority : Option CasePriority
  assignedAgentId : Option CleanText
deriving DecidableEq

/-- Nothing has been reported yet. -/
def CaseFacts.unknown : CaseFacts :=
  { status := none, onHoldReason := none, priority := none, assignedAgentId := none }

def SupportCase.facts (c : SupportCase) : CaseFacts :=
  { status := some c.status
    onHoldReason := c.onHoldReason
    priority := some c.priority
    assignedAgentId := c.assignedAgentId }

/--
One more event.  A value that it leaves out stays what it was; the reason of a
hold is reported by the changes of status, which have none when the hold ends.
-/
def CaseFacts.read (f : CaseFacts) (e : SupportCaseEvent) : CaseFacts :=
  { status := e.currentStatus.or f.status
    onHoldReason :=
      if e.eventType = CaseEventType.statusChanged then e.onHoldReason
      else f.onHoldReason
    priority := e.currentPriority.or f.priority
    assignedAgentId := e.currentAssignedAgentId.or f.assignedAgentId }

/-- The previous values that an event names are the ones reported so far. -/
structure CaseFacts.Recalled (f : CaseFacts) (e : SupportCaseEvent) : Prop where
  status : forall s, e.previousStatus = some s -> f.status = some s
  priority : forall p, e.previousPriority = some p -> f.priority = some p
  agent : forall a, e.previousAssignedAgentId = some a -> f.assignedAgentId = some a

structure Recounts (f : CaseFacts) (c : SupportCase) (e : SupportCaseEvent) : Prop where
  facts : f.read e = c.facts
  recalled : f.Recalled e
  reasons : forall r, r ∈ e.reasonCodes -> r ∈ c.reasonCodes

/--
How a row update may change a case.  Its reasons only accumulate; its priority
only rises, except that a technical review sets it outright; its risk level only
rises.
-/
structure CaseUpdated (c c' : SupportCase) : Prop where
  frozen : c'.frozen = c.frozen
  version : c'.version = c.version + 1
  reasons : forall r, r ∈ c.reasonCodes -> r ∈ c'.reasonCodes
  urgency : priorityRank c'.priority ≤ priorityRank c.priority ∨
    (c.caseType = CaseType.orderOperationReview ∧ c'.priority = CasePriority.p1)
  risk : forall x, c.riskLevel = some x ->
    exists y, c'.riskLevel = some y ∧ riskLevelRank x ≤ riskLevelRank y

structure CaseEventsAppended (t u : CaseTables) (es : List SupportCaseEvent) :
    Prop where
  appended : u.events.rows = t.events.rows ++ es
  unused : forall e, e ∈ es -> forall x, x ∈ t.events.rows ->
    x.idempotencyKey ≠ e.idempotencyKey

inductive CaseStep : CaseLabel -> CaseTables -> CaseTables -> Prop
  | keep (t : CaseTables) : CaseStep CaseLabel.keep t t
  | create {t u : CaseTables} {c : SupportCase} {e : SupportCaseEvent}
      (insert : t.rows.insert? c = some u.rows) (valid : c.valid = true)
      (checks : c.checks = true) (free : ¬CaseTaken t c) (owner : OfCase c e)
      (events : CaseEventsAppended t u [e])
      (keys : ¬KeyUnder redriveHead e.idempotencyKey)
      (told : Recounts CaseFacts.unknown c e) :
      CaseStep (CaseLabel.create c e) t u
  | update {t u : CaseTables} {c c' : SupportCase} {es : List SupportCaseEvent}
      (get : t.rows.get c.caseId = some c) (change : CaseUpdated c c')
      (checks : c'.checks = true) (free : ¬CaseTaken t c')
      (owner : forall e, e ∈ es -> OfCase c e)
      (rows : u.rows = t.rows.put c') (events : CaseEventsAppended t u es)
      (keys : forall e, e ∈ es -> ¬KeyUnder redriveHead e.idempotencyKey)
      (told : forall e, e ∈ es -> Recounts c.facts c' e) (single : es.length ≤ 1) :
      CaseStep (CaseLabel.update c c' es) t u
  | record {t u : CaseTables} {c : SupportCase} {e : SupportCaseEvent}
      (get : t.rows.get c.caseId = some c) (owner : OfCase c e)
      (rows : u.rows = t.rows) (events : CaseEventsAppended t u [e])
      (keys : ¬KeyUnder redriveHead e.idempotencyKey)
      (told : Recounts c.facts c e) :
      CaseStep (CaseLabel.record c e) t u
  | redrive {t u : CaseTables} {c : SupportCase} {e : SupportCaseEvent}
      (get : t.rows.get c.caseId = some c) (owner : OfCase c e)
      (rows : u.rows = t.rows) (events : CaseEventsAppended t u [e])
      (told : Recounts c.facts c e) :
      CaseStep (CaseLabel.redrive c e) t u

/-- Why a case is opened as it is: a handoff decision, or a failed delivery. -/
inductive OpenGround (D : HandoffDecision -> Prop) (c : SupportCase) : Prop
  | decided {d : HandoffDecision} (hd : D d) (kind : d.caseType = some c.caseType)
      (priority : d.priority = some c.priority) (reasons : c.reasonCodes = d.reasonCodes) :
      OpenGround D c
  | technical (kind : c.caseType = CaseType.orderOperationReview)
      (priority : c.priority = CasePriority.p1)
      (reasons : c.reasonCodes = [HandoffReason.providerDeliveryFailed]) :
      OpenGround D c

/-- Why an update changes the priority and the reasons of a case. -/
inductive UpdateGround (D : HandoffDecision -> Prop) (c c' : SupportCase) : Prop
  | kept (priority : c'.priority = c.priority) (reasons : c'.reasonCodes = c.reasonCodes) :
      UpdateGround D c c'
  | decided {d : HandoffDecision} {p : CasePriority} (hd : D d)
      (kind : d.caseType = some c.caseType) (decision : d.priority = some p)
      (priority : c'.priority = selectHigherPriority c.priority p)
      (reasons : c'.reasonCodes = mergeUnique c.reasonCodes d.reasonCodes) :
      UpdateGround D c c'
  | technical (kind : c.caseType = CaseType.orderOperationReview)
      (priority : c'.priority = CasePriority.p1)
      (reasons : c'.reasonCodes = withDeliveryFailed c.reasonCodes) :
      UpdateGround D c c'

/-- A delivery investigation whose command has failed: the reason, and no priority. -/
structure Undelivered (c c' : SupportCase) : Prop where
  kind : c.caseType = CaseType.deliveryInvestigation
  fresh : HandoffReason.providerDeliveryFailed ∉ c.reasonCodes
  priority : c'.priority = c.priority
  reasons : c'.reasonCodes = c.reasonCodes ++ [HandoffReason.providerDeliveryFailed]

/-- Every handoff decision that a case step acts on satisfies a condition. -/
def CaseLabel.Grounded (D : HandoffDecision -> Prop) : CaseLabel -> Prop
  | create c _ => OpenGround D c
  | update c c' _ => UpdateGround D c c'
  | _ => True

theorem CaseLabel.Grounded.mono {D E : HandoffDecision -> Prop}
    (hDE : forall d, D d -> E d) {l : CaseLabel} (h : l.Grounded D) : l.Grounded E := by
  cases l with
  | create c e =>
      cases h with
      | decided hd kind priority reasons =>
          exact OpenGround.decided (hDE _ hd) kind priority reasons
      | technical kind priority reasons => exact OpenGround.technical kind priority reasons
  | update c c' es =>
      cases h with
      | kept priority reasons => exact UpdateGround.kept priority reasons
      | decided hd kind decision priority reasons =>
          exact UpdateGround.decided (hDE _ hd) kind decision priority reasons
      | technical kind priority reasons =>
          exact UpdateGround.technical kind priority reasons
  | keep => trivial
  | record c e => trivial
  | redrive c e => trivial

/-!
## Outbox
-/

inductive Ending where
  | finalized (v : Verdict) (now : Time)
  | retried (r : OutboxRetry) (now : Time)
  | expired (now availableAt updatedAt : Time)
  | exhausted (now deadAt updatedAt : Time)

namespace Ending

/-- The message after the ending. -/
def message : Ending -> OutboxMessage -> OutboxMessage
  | finalized v now => (v.finalization.transition now).apply
  | retried r now => (r.transition now).apply
  | expired _ availableAt updatedAt =>
      OutboxMessage.setRecovered availableAt updatedAt
  | exhausted _ deadAt updatedAt => OutboxMessage.setExhausted deadAt updatedAt

/-- The attempt after the ending. -/
def attempt : Ending -> OutboxDeliveryAttempt -> OutboxDeliveryAttempt
  | finalized v now => (v.finalization.attemptResult now).apply
  | retried r now => (r.attemptResult now).apply
  | expired now _ _ => OutboxDeliveryAttempt.setLeaseExpired now "lease_expired"
  | exhausted now _ _ =>
      OutboxDeliveryAttempt.setLeaseExpired now "lease_expired_attempts_exhausted"

/-- What the code has checked before it ends an attempt. -/
def Allowed : Ending -> OutboxMessage -> Prop
  | finalized v _, _ => errorFieldValid v.finalization.errorCode ∧
      errorFieldValid v.finalization.errorMessage ∧
      (forall s, (v.finalization.attemptResult 0).providerReference = some s ->
        textAccepted s = true)
  | retried r _, m => m.attemptsInCycle < 8 ∧
      r.failureKind ∈ retryableFailureKinds ∧ errorFieldValid r.errorCode ∧
      errorFieldValid r.errorMessage ∧
      (forall s, r.retryAfterSeconds = some s -> 0 ≤ s)
  | expired _ _ _, m => m.attemptsInCycle < 8
  | exhausted _ _ _, m => 8 ≤ m.attemptsInCycle

/-- The ending settles the command for its cycle. -/
def settles : Ending -> Bool
  | finalized _ _ => true
  | retried _ _ => false
  | expired _ _ _ => false
  | exhausted _ _ _ => true

end Ending

inductive OutboxLabel where
  | keep
  | queue (m : OutboxMessage)
  | claim (m m' : OutboxMessage) (a : OutboxDeliveryAttempt)
  | renew (m m' : OutboxMessage)
  | finish (e : Ending) (m : OutboxMessage) (a : OutboxDeliveryAttempt)
  | redrive (m m' : OutboxMessage) (r : OutboxRedrive)

/-- The identifier of the row a label inserts. -/
def OutboxLabel.created? : OutboxLabel -> Option UUID
  | queue m => some m.commandId
  | _ => none

/-- A message that a worker may claim. -/
def OutboxMessage.claimable (m : OutboxMessage) : Prop :=
  (m.status = OutboxDeliveryStatus.pending ∨
    m.status = OutboxDeliveryStatus.retryScheduled) ∧ m.attemptsInCycle < 8

inductive OutboxStep : OutboxLabel -> OutboxTables -> OutboxTables -> Prop
  | keep (t : OutboxTables) : OutboxStep OutboxLabel.keep t t
  | queue {t : OutboxTables}
      {messages : Table OutboxMessage UUID (fun m => m.commandId)}
      {command : ProviderCommandEnvelope} {now : Time}
      (valid : command.valid = true)
      (free : forall r, r ∈ t.messages.rows ->
        ¬(r.tenantId = command.tenantId ∧ r.idempotencyKey = command.idempotencyKey))
      (insert : t.messages.insert? (outboxRow command now) = some messages) :
      OutboxStep (OutboxLabel.queue (outboxRow command now)) t
        { t with messages := messages }
  | claim {t : OutboxTables}
      {attempts : Table OutboxDeliveryAttempt UUID OutboxDeliveryAttempt.attemptId}
      {m : OutboxMessage} {leaseId attemptId : UUID} {workerId : String}
      {expiresAt now : Time}
      (get : t.messages.get m.commandId = some m) (due : m.claimable)
      (worker : Text.strip workerId ≠ "")
      (insert : t.attempts.insert? (claimAttempt
        (m.setClaimed leaseId workerId expiresAt now) attemptId leaseId workerId) =
          some attempts) :
      OutboxStep
        (OutboxLabel.claim m (m.setClaimed leaseId workerId expiresAt now)
          (claimAttempt (m.setClaimed leaseId workerId expiresAt now) attemptId
            leaseId workerId)) t
        { t with
          messages := t.messages.put (m.setClaimed leaseId workerId expiresAt now)
          attempts := attempts }
  | renew {t : OutboxTables} {m : OutboxMessage} {expiresAt now : Time}
      (get : t.messages.get m.commandId = some m)
      (held : m.status = OutboxDeliveryStatus.processing) :
      OutboxStep (OutboxLabel.renew m (m.setRenewed expiresAt now)) t
        { t with messages := t.messages.put (m.setRenewed expiresAt now) }
  | finish {t : OutboxTables} {e : Ending} {m : OutboxMessage}
      {a : OutboxDeliveryAttempt}
      (get : t.messages.get m.commandId = some m)
      (held : m.status = OutboxDeliveryStatus.processing)
      (getAttempt : t.attempts.get a.attemptId = some a)
      (ofCommand : a.commandId = m.commandId) (isOpen : a.isOpen = true)
      (allowed : e.Allowed m) (checks : (e.attempt a).checks = true) :
      OutboxStep (OutboxLabel.finish e m a) t
        { t with
          messages := t.messages.put (e.message m)
          attempts := t.attempts.put (e.attempt a) }
  | redrive {t : OutboxTables}
      {redrives : Table OutboxRedrive UUID OutboxRedrive.redriveId}
      {m : OutboxMessage} {r : OutboxRedrive} {availableAt now : Time}
      (get : t.messages.get m.commandId = some m)
      (dead : m.status = OutboxDeliveryStatus.dead)
      (insert : t.redrives.insert? r = some redrives)
      (audit : r.tenantId = m.tenantId ∧ r.commandId = m.commandId ∧
        r.previousCycle = m.deliveryCycle ∧ r.newCycle = m.deliveryCycle + 1) :
      OutboxStep
        (OutboxLabel.redrive m (m.setRedriven (m.deliveryCycle + 1) availableAt now)
          r) t
        { t with
          messages := t.messages.put
            (m.setRedriven (m.deliveryCycle + 1) availableAt now)
          redrives := redrives }

/-!
## Inbox
-/

inductive InboxEnding where
  | processed (now : Time)
  | failed (now : Time) (errorCode errorMessage : Option String)
  | retried (availableAt now : Time) (errorCode errorMessage : Option String)
  | expired (now availableAt updatedAt : Time)
  | exhausted (now failedAt updatedAt : Time)

namespace InboxEnding

def message : InboxEnding -> InboxMessage -> InboxMessage
  | processed now => InboxMessage.setProcessed now
  | failed now errorCode errorMessage =>
      InboxMessage.setFailed now errorCode errorMessage
  | retried availableAt now errorCode errorMessage =>
      InboxMessage.setRetry availableAt now errorCode errorMessage
  | expired _ availableAt updatedAt =>
      InboxMessage.setRecovered availableAt updatedAt
  | exhausted _ failedAt updatedAt => InboxMessage.setExhausted failedAt updatedAt

def attempt : InboxEnding -> InboxProcessingAttempt -> InboxProcessingAttempt
  | processed now => InboxAttemptResult.apply
      { finishedAt := now, outcome := InboxAttemptOutcome.processed }
  | failed now errorCode errorMessage => InboxAttemptResult.apply
      { finishedAt := now
        outcome := InboxAttemptOutcome.terminalFailure
        safeErrorCode := errorCode
        safeErrorMessage := errorMessage }
  | retried _ now errorCode errorMessage => InboxAttemptResult.apply
      { finishedAt := now
        outcome := InboxAttemptOutcome.retryScheduled
        safeErrorCode := errorCode
        safeErrorMessage := errorMessage }
  | expired now _ _ => InboxProcessingAttempt.setLeaseExpired now
  | exhausted now _ _ => InboxProcessingAttempt.setLeaseExpired now

/-- What the code has checked before it ends an attempt. -/
def Allowed : InboxEnding -> Prop
  | processed _ => True
  | failed _ errorCode errorMessage =>
      errorFieldValid errorCode ∧ errorFieldValid errorMessage
  | retried _ _ errorCode errorMessage =>
      errorFieldValid errorCode ∧ errorFieldValid errorMessage
  | expired _ _ _ => True
  | exhausted _ _ _ => True

def isProcessed : InboxEnding -> Bool
  | processed _ => true
  | _ => false

end InboxEnding

inductive InboxLabel where
  | keep
  | receive (m : InboxMessage)
  | claim (m m' : InboxMessage) (a : InboxProcessingAttempt)
  | renew (m m' : InboxMessage)
  | finish (e : InboxEnding) (m : InboxMessage) (a : InboxProcessingAttempt)
  | redrive (m m' : InboxMessage)

def InboxLabel.receives : InboxLabel -> Prop
  | receive _ => True
  | _ => False

/-- A row as `receive_inbox_idempotently` inserts it. -/
structure FreshInbox (m : InboxMessage) : Prop where
  checks : m.checks = true
  status : m.status = InboxProcessingStatus.received
  attempts : m.processingAttempts = 0
  cycle : m.processingCycle = 1
  inCycle : m.attemptsInCycle = 0
  lease : m.leaseId = none ∧ m.leaseOwner = none ∧ m.leaseExpiresAt = none
  errors : m.lastErrorCode = none ∧ m.lastErrorMessage = none
  times : m.updatedAt = m.receivedAt
  marks : m.processedAt = none ∧ m.failedAt = none

inductive InboxStep : InboxLabel -> InboxTables -> InboxTables -> Prop
  | keep (t : InboxTables) : InboxStep InboxLabel.keep t t
  | receive {t : InboxTables}
      {messages : Table InboxMessage UUID (fun m => m.inboxId)} {m : InboxMessage}
      (fresh : FreshInbox m) (insert : t.messages.insert? m = some messages) :
      InboxStep (InboxLabel.receive m) t { t with messages := messages }
  | claim {t : InboxTables}
      {attempts : Table InboxProcessingAttempt UUID InboxProcessingAttempt.attemptId}
      {m : InboxMessage} {leaseId attemptId : UUID} {workerId : String}
      {expiresAt now : Time}
      (get : t.messages.get m.inboxId = some m)
      (due : m.status = InboxProcessingStatus.received ∧ m.attemptsInCycle < 5)
      (worker : Text.strip workerId ≠ "")
      (insert : t.attempts.insert? (claimInboxAttempt
        (m.setClaimed leaseId workerId expiresAt now) attemptId leaseId workerId) =
          some attempts) :
      InboxStep
        (InboxLabel.claim m (m.setClaimed leaseId workerId expiresAt now)
          (claimInboxAttempt (m.setClaimed leaseId workerId expiresAt now) attemptId
            leaseId workerId)) t
        { t with
          messages := t.messages.put (m.setClaimed leaseId workerId expiresAt now)
          attempts := attempts }
  | renew {t : InboxTables} {m : InboxMessage} {expiresAt now : Time}
      (get : t.messages.get m.inboxId = some m)
      (held : m.status = InboxProcessingStatus.processing) :
      InboxStep (InboxLabel.renew m (m.setRenewed expiresAt now)) t
        { t with messages := t.messages.put (m.setRenewed expiresAt now) }
  | finish {t : InboxTables} {e : InboxEnding} {m : InboxMessage}
      {a : InboxProcessingAttempt}
      (get : t.messages.get m.inboxId = some m)
      (held : m.status = InboxProcessingStatus.processing)
      (getAttempt : t.attempts.get a.attemptId = some a)
      (ofMessage : a.inboxId = m.inboxId) (isOpen : a.isOpen = true)
      (allowed : e.Allowed) :
      InboxStep (InboxLabel.finish e m a) t
        { t with
          messages := t.messages.put (e.message m)
          attempts := t.attempts.put (e.attempt a) }
  | redrive {t : InboxTables}
      {redrives : Table InboxRedrive UUID InboxRedrive.redriveId}
      {m : InboxMessage} {r : InboxRedrive} {availableAt now : Time}
      (get : t.messages.get m.inboxId = some m)
      (failed : m.status = InboxProcessingStatus.failed)
      (insert : t.redrives.insert? r = some redrives)
      (audit : r.inboxId = m.inboxId ∧ r.previousCycle = m.processingCycle ∧
        r.newCycle = m.processingCycle + 1) :
      InboxStep
        (InboxLabel.redrive m (m.setRedriven (m.processingCycle + 1) availableAt now))
        t
        { t with
          messages := t.messages.put
            (m.setRedriven (m.processingCycle + 1) availableAt now)
          redrives := redrives }

/-!
## Refund requests
-/

inductive RefundStep : Option RefundRequest -> RefundTable -> RefundTable -> Prop
  | keep (t : RefundTable) : RefundStep none t t
  | create {r : RefundRequest} {t u : RefundTable}
      (free : forall x, x ∈ t.rows -> x.orderId ≠ r.orderId)
      (insert : t.insert? r = some u) : RefundStep (some r) t u

end RefundAgent
