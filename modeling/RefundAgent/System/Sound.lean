import RefundAgent.System.CaseInvariant
import RefundAgent.System.InboxInvariant
import RefundAgent.System.OperationInvariant
import RefundAgent.System.OutboxInvariant

/-!
# The invariant of the whole database

A command and its aggregate live in different tables and are moved by different
modules.  The relation between them is stated per command; a move keeps it
because the combinations of a move say which operation belongs to the command
that is moved with it.
-/

namespace RefundAgent

open Foundation

/-!
## Commands and operations
-/

structure Coupled (t : CaseTables) (m : OutboxMessage) (o : OrderOperation) : Prop
    extends Associated o m.toProviderCommandEnvelope where
  waiting : m.undelivered = true ↔ o.status = OperationRecordStatus.queued
  published : m.status = OutboxDeliveryStatus.published ->
    o.status = OperationRecordStatus.submitted ∨
      o.status = OperationRecordStatus.processing ∨
      o.status = OperationRecordStatus.completed ∨
      o.status = OperationRecordStatus.rejected
  rejected : m.status = OutboxDeliveryStatus.dead ->
    m.lastFailureKind = some ProviderFailureKind.providerRejection ->
    o.status = OperationRecordStatus.rejected
  reviewed : m.status = OutboxDeliveryStatus.dead ->
    m.lastFailureKind ≠ some ProviderFailureKind.providerRejection ->
    o.status = OperationRecordStatus.manualReview ∧ o.requiresManualReview = true ∧
      exists c, o.supportCaseId = some c.caseId ∧
        t.rows.get c.caseId = some c ∧ ReviewCase o c

structure Investigated (m : OutboxMessage) (c : SupportCase) : Prop where
  tenant : c.tenantId = m.tenantId
  customer : c.customerId = m.customerId
  kind : c.caseType = CaseType.deliveryInvestigation

theorem undelivered_cases (m : OutboxMessage) :
    m.undelivered = true ∨ m.status = OutboxDeliveryStatus.published ∨
      m.status = OutboxDeliveryStatus.dead := by
  unfold OutboxMessage.undelivered
  cases m.status <;> simp

theorem Coupled.not_pending {t : CaseTables} {m : OutboxMessage}
    {o : OrderOperation} (h : Coupled t m o) :
    o.status ≠ OperationRecordStatus.pendingConfirmation := by
  intro hs
  rcases undelivered_cases m with hm | hm | hm
  · have := h.waiting.mp hm
    rw [hs] at this
    cases this
  · rcases h.published hm with hp | hp | hp | hp <;> rw [hs] at hp <;> cases hp
  · by_cases hk : m.lastFailureKind = some ProviderFailureKind.providerRejection
    · have := h.rejected hm hk
      rw [hs] at this
      cases this
    · have := (h.reviewed hm hk).left
      rw [hs] at this
      cases this

theorem Coupled.linked {t : CaseTables} {m : OutboxMessage} {o : OrderOperation}
    (h : Coupled t m o) (hs : o.status = OperationRecordStatus.manualReview) :
    o.supportCaseId ≠ none := by
  rcases undelivered_cases m with hm | hm | hm
  · have := h.waiting.mp hm
    rw [hs] at this
    cases this
  · rcases h.published hm with hp | hp | hp | hp <;> rw [hs] at hp <;> cases hp
  · by_cases hk : m.lastFailureKind = some ProviderFailureKind.providerRejection
    · have := h.rejected hm hk
      rw [hs] at this
      cases this
    · rcases (h.reviewed hm hk).right.right with ⟨c, hc, _⟩
      rw [hc]
      simp

/-!
## What a step leaves in its table
-/

namespace OutboxLabel

/-- The message a label starts from. -/
def source : OutboxLabel -> Option OutboxMessage
  | claim m _ _ => some m
  | renew m _ => some m
  | finish _ m _ => some m
  | redrive m _ _ => some m
  | _ => none

/-- The message a label leaves behind. -/
def result : OutboxLabel -> Option OutboxMessage
  | keep => none
  | queue m => some m
  | claim _ m' _ => some m'
  | renew _ m' => some m'
  | finish e m _ => some (e.message m)
  | redrive _ m' _ => some m'

end OutboxLabel

theorem OutboxStep.origin {l : OutboxLabel} {t u : OutboxTables}
    (h : OutboxStep l t u) {x : OutboxMessage} (hx : x ∈ u.messages.rows) :
    l.result = some x ∨ (x ∈ t.messages.rows ∧
      forall m, l.result = some m -> x.commandId ≠ m.commandId) := by
  cases h with
  | keep => exact Or.inr ⟨hx, fun m hm => (by cases hm)⟩
  | @queue _ messages command now valid free insert =>
      have hins := Table.insert?_eq_some.mp insert
      rw [hins.right] at hx
      rcases List.mem_append.mp hx with hx | hx
      · refine Or.inr ⟨hx, ?_⟩
        intro m hm
        cases hm
        exact Table.get_eq_none.mp hins.left x hx
      · exact Or.inl (congrArg some (List.mem_singleton.mp hx).symm)
  | claim get due worker insert =>
      rcases Table.mem_put hx with rfl | ⟨hx, hne⟩
      · exact Or.inl rfl
      · exact Or.inr ⟨hx, fun m hm => (by cases hm; exact hne)⟩
  | renew get held =>
      rcases Table.mem_put hx with rfl | ⟨hx, hne⟩
      · exact Or.inl rfl
      · exact Or.inr ⟨hx, fun m hm => (by cases hm; exact hne)⟩
  | finish get held getAttempt ofCommand isOpen allowed checks =>
      rcases Table.mem_put hx with rfl | ⟨hx, hne⟩
      · exact Or.inl rfl
      · exact Or.inr ⟨hx, fun m hm => (by cases hm; exact hne)⟩
  | redrive get dead insert audit =>
      rcases Table.mem_put hx with rfl | ⟨hx, hne⟩
      · exact Or.inl rfl
      · exact Or.inr ⟨hx, fun m hm => (by cases hm; exact hne)⟩

theorem OutboxStep.mem_source {l : OutboxLabel} {t u : OutboxTables}
    (h : OutboxStep l t u) {m : OutboxMessage} (hm : l.source = some m) :
    m ∈ t.messages.rows := by
  cases h with
  | keep => cases hm
  | queue valid free insert => cases hm
  | claim get due worker insert => cases hm; exact Table.mem_of_get get
  | renew get held => cases hm; exact Table.mem_of_get get
  | finish get held getAttempt ofCommand isOpen allowed checks =>
      cases hm
      exact Table.mem_of_get get
  | redrive get dead insert audit => cases hm; exact Table.mem_of_get get

theorem OutboxStep.held {e : Ending} {m : OutboxMessage} {a : OutboxDeliveryAttempt}
    {t u : OutboxTables} (h : OutboxStep (OutboxLabel.finish e m a) t u) :
    m.status = OutboxDeliveryStatus.processing := by
  cases h with
  | finish get held getAttempt ofCommand isOpen allowed checks => exact held

theorem OutboxStep.undelivered_of_redrive {m m' : OutboxMessage} {r : OutboxRedrive}
    {t u : OutboxTables} (h : OutboxStep (OutboxLabel.redrive m m' r) t u) :
    m'.undelivered = true := by
  cases h
  rfl

theorem OutboxStep.redrives_of_redrive {m m' : OutboxMessage} {r : OutboxRedrive}
    {t u : OutboxTables} (h : OutboxStep (OutboxLabel.redrive m m' r) t u) :
    u.redrives.rows = t.redrives.rows ++ [r] := by
  cases h with
  | redrive get dead insert audit => exact (Table.insert?_eq_some.mp insert).right

theorem OutboxStep.redrive_origin {l : OutboxLabel} {t u : OutboxTables}
    (h : OutboxStep l t u) {r : OutboxRedrive} (hr : r ∈ u.redrives.rows) :
    r ∈ t.redrives.rows ∨ l.redriveId? = some r.redriveId := by
  cases h with
  | redrive get dead insert audit =>
      rw [(Table.insert?_eq_some.mp insert).right] at hr
      rcases List.mem_append.mp hr with hr | hr
      · exact Or.inl hr
      · rw [List.mem_singleton.mp hr]
        exact Or.inr rfl
  | _ => exact Or.inl hr

theorem OutboxStep.mem_redrives {l : OutboxLabel} {t u : OutboxTables}
    (h : OutboxStep l t u) {r : OutboxRedrive} (hr : r ∈ t.redrives.rows) :
    r ∈ u.redrives.rows := by
  cases h with
  | redrive get dead insert audit =>
      rw [(Table.insert?_eq_some.mp insert).right]
      exact List.mem_append_left _ hr
  | _ => exact hr

theorem OperationStep.get_cases {l : OperationLabel} {t u : OperationTables}
    (h : OperationStep l t u) {id : UUID} {o : OrderOperation}
    (ho : t.rows.get id = some o) :
    u.rows.get id = some o ∨ exists w o' es, l = OperationLabel.update w o o' es ∧
      u.rows.get id = some o' ∧ o.operationId = id := by
  cases h with
  | keep => exact Or.inl ho
  | create insert free appended unused new =>
      exact Or.inl (Table.get_of_rows_append (Table.insert?_eq_some.mp insert).right ho)
  | @update _ events w o₁ o' es get free appended unused change =>
      have hput : t.rows.get o'.operationId = some o₁ := by
        rw [operationId_of_frozen change.frozen]
        exact get
      show (t.rows.put o').get id = some o ∨ _
      by_cases hid : id = o'.operationId
      · rw [hid, hput] at ho
        cases ho
        refine Or.inr ⟨w, o', es, rfl, ?_, ?_⟩
        · rw [hid]
          exact Table.get_put_self hput
        · rw [hid, operationId_of_frozen change.frozen]
      · rw [Table.get_put_ne hid]
        exact Or.inl ho

/-- An update, read off its label. -/
structure RowUpdated (w : Writer) (o o' : OrderOperation)
    (es : List OrderOperationEvent) (t u : OperationTables) : Prop where
  before : t.rows.get o.operationId = some o
  after : u.rows.get o.operationId = some o'
  change : OperationUpdated w o o' es

theorem OperationStep.updated {w : Writer} {o o' : OrderOperation}
    {es : List OrderOperationEvent} {t u : OperationTables}
    (h : OperationStep (OperationLabel.update w o o' es) t u) :
    RowUpdated w o o' es t u := by
  cases h with
  | update get free appended unused change =>
      have hid := operationId_of_frozen change.frozen
      refine ⟨get, ?_, change⟩
      show (t.rows.put o').get o.operationId = some o'
      rw [← hid]
      exact Table.get_put_self (by rw [hid]; exact get)

theorem OperationStep.events_eq {l : OperationLabel} {t u : OperationTables}
    (h : OperationStep l t u) : u.events.rows = t.events.rows ++ l.events := by
  cases h with
  | keep => exact (List.append_nil _).symm
  | create insert free appended unused new => exact appended
  | update get free appended unused change => exact appended

theorem OperationStep.mem_events {l : OperationLabel} {t u : OperationTables}
    (h : OperationStep l t u) {e : OrderOperationEvent} (he : e ∈ u.events.rows) :
    e ∈ t.events.rows ∨ e ∈ l.events := by
  rw [h.events_eq] at he
  exact List.mem_append.mp he

theorem OperationStep.events_unused {l : OperationLabel} {t u : OperationTables}
    (h : OperationStep l t u) {e : OrderOperationEvent} (he : e ∈ l.events) :
    forall x, x ∈ t.events.rows -> x.idempotencyKey ≠ e.idempotencyKey := by
  cases h with
  | keep => cases he
  | create insert free appended unused new =>
      rw [List.mem_singleton.mp he]
      exact unused
  | update get free appended unused change => exact unused e he

theorem CaseStep.events_eq {l : CaseLabel} {t u : CaseTables} (h : CaseStep l t u) :
    u.events.rows = t.events.rows ++ l.events := by
  cases h with
  | keep => simp [CaseLabel.events]
  | create insert valid checks free owner events keys => exact events.appended
  | update get change checks free owner rows events keys => exact events.appended
  | record get owner rows events keys => exact events.appended
  | redrive get owner rows events => exact events.appended

theorem CaseStep.key_cases {l : CaseLabel} {t u : CaseTables} (h : CaseStep l t u)
    {e : SupportCaseEvent} (he : e ∈ l.events) :
    ¬KeyUnder redriveHead e.idempotencyKey ∨ exists c, l = CaseLabel.redrive c e := by
  cases h with
  | keep => cases he
  | create insert valid checks free owner events keys =>
      rw [List.mem_singleton.mp he]
      exact Or.inl keys
  | update get change checks free owner rows events keys => exact Or.inl (keys e he)
  | record get owner rows events keys =>
      rw [List.mem_singleton.mp he]
      exact Or.inl keys
  | @redrive _ _ c e' get owner rows events =>
      rw [List.mem_singleton.mp he]
      exact Or.inr ⟨c, rfl⟩

theorem CaseStep.reasons_kept {l : CaseLabel} {t u : CaseTables}
    (h : CaseStep l t u) {id : UUID} {c : SupportCase} (hc : t.rows.get id = some c) :
    exists c', u.rows.get id = some c' ∧ c'.frozen = c.frozen ∧
      forall r, r ∈ c.reasonCodes -> r ∈ c'.reasonCodes := by
  cases h with
  | keep => exact ⟨c, hc, rfl, fun _ hr => hr⟩
  | create insert valid checks free owner events keys =>
      exact ⟨c, Table.get_of_rows_append (Table.insert?_eq_some.mp insert).right hc, rfl,
        fun _ hr => hr⟩
  | @update _ _ c₁ c' es get change checks free owner rows events keys =>
      rw [rows]
      exact get_put_related (R := fun c c' => c'.frozen = c.frozen ∧
          forall r, r ∈ c.reasonCodes -> r ∈ c'.reasonCodes) t.rows get
        (caseId_of_frozen change.frozen) (fun r => ⟨rfl, fun _ hr => hr⟩)
        ⟨change.frozen, change.reasons⟩ id c hc
  | record get owner rows events keys => exact ⟨c, by rw [rows]; exact hc, rfl, fun _ hr => hr⟩
  | redrive get owner rows events => exact ⟨c, by rw [rows]; exact hc, rfl, fun _ hr => hr⟩

theorem CaseStep.get_result {l : CaseLabel} {t u : CaseTables} (h : CaseStep l t u)
    {c : SupportCase} (hc : l.result = some c) : u.rows.get c.caseId = some c := by
  cases h with
  | keep => cases hc
  | create insert valid checks free owner events keys =>
      cases hc
      apply Table.get_of_mem
      rw [(Table.insert?_eq_some.mp insert).right]
      simp
  | update get change checks free owner rows events keys =>
      cases hc
      rw [rows]
      exact Table.get_put_self (by rw [caseId_of_frozen change.frozen]; exact get)
  | record get owner rows events keys =>
      cases hc
      rw [rows]
      exact get
  | redrive get owner rows events =>
      cases hc
      rw [rows]
      exact get

/-!
## The coupling of one command
-/

theorem ReviewCase.of_frozen {o o' : OrderOperation} {c c' : SupportCase}
    (h : ReviewCase o c) (ho : o'.frozen = o.frozen) (hc : c'.frozen = c.frozen)
    (hr : forall r, r ∈ c.reasonCodes -> r ∈ c'.reasonCodes) : ReviewCase o' c' := by
  constructor
  · exact hr _ h.reason
  · show c'.frozen.caseType = _
    rw [hc]
    exact h.kind
  · show c'.frozen.tenantId = o'.frozen.tenantId
    rw [hc, ho]
    exact h.tenant
  · show c'.frozen.threadId = o'.frozen.threadId
    rw [hc, ho]
    exact h.thread

theorem tenantId_of_frozen {o o' : OrderOperation} (h : o'.frozen = o.frozen) :
    o'.tenantId = o.tenantId := by
  show o'.frozen.tenantId = o.frozen.tenantId
  rw [h]

theorem Coupled.of_caseStep {l : CaseLabel} {t u : CaseTables} {m : OutboxMessage}
    {o : OrderOperation} (h : Coupled t m o) (hstep : CaseStep l t u) :
    Coupled u m o where
  toAssociated := h.toAssociated
  waiting := h.waiting
  published := h.published
  rejected := h.rejected
  reviewed := by
    intro hm hk
    rcases h.reviewed hm hk with ⟨hs, hreview, c, hlink, hc, hcase⟩
    rcases hstep.reasons_kept hc with ⟨c', hc', hfrozen, hreasons⟩
    have hid := caseId_of_frozen hfrozen
    refine ⟨hs, hreview, c', ?_, ?_, hcase.of_frozen rfl hfrozen hreasons⟩
    · rw [hid]
      exact hlink
    · rw [hid]
      exact hc'

theorem Coupled.of_undelivered {t : CaseTables} {m m' : OutboxMessage}
    {o : OrderOperation} (h : Coupled t m o) (hm : m.undelivered = true)
    (hm' : m'.undelivered = true)
    (henv : m'.toProviderCommandEnvelope = m.toProviderCommandEnvelope) :
    Coupled t m' o := by
  have hstatus : m'.status ≠ OutboxDeliveryStatus.published ∧
      m'.status ≠ OutboxDeliveryStatus.dead := by
    unfold OutboxMessage.undelivered at hm'
    cases hs : m'.status <;> simp_all
  refine ⟨henv ▸ h.toAssociated, ?_, ?_, ?_, ?_⟩
  · rw [← h.waiting, hm, hm']
  · exact fun hp => absurd hp hstatus.left
  · exact fun hd => absurd hd hstatus.right
  · exact fun hd => absurd hd hstatus.right

theorem Coupled.of_callback {t : CaseTables} {m : OutboxMessage}
    {o o' : OrderOperation} (h : Coupled t m o) (hfrozen : o'.frozen = o.frozen)
    (hchange : CallbackChange o o') : Coupled t m o' := by
  refine ⟨h.toAssociated.of_frozen hfrozen, ?_, ?_, ?_, ?_⟩
  · have hbefore : o.status ≠ OperationRecordStatus.queued := by
      rcases hchange.status with hs | ⟨hs | hs, _⟩
      · exact hs.right.right.left
      · simp [hs]
      · simp [hs]
    have hafter : o'.status ≠ OperationRecordStatus.queued := by
      rcases hchange.status with hs | ⟨_, hs | hs | hs⟩
      · rw [hs.left]
        exact hs.right.right.left
      · simp [hs]
      · simp [hs]
      · simp [hs]
    constructor
    · exact fun hm => absurd (h.waiting.mp hm) hbefore
    · exact fun hs => absurd hs hafter
  · intro hm
    rcases hchange.status with hs | ⟨_, hs⟩
    · rw [hs.left]
      exact h.published hm
    · exact Or.inr hs
  · intro hm hk
    have hrejected := h.rejected hm hk
    rcases hchange.status with hs | ⟨hs | hs, _⟩
    · rw [hs.left]
      exact hrejected
    · rw [hrejected] at hs
      cases hs
    · rw [hrejected] at hs
      cases hs
  · intro hm hk
    have hreview := (h.reviewed hm hk).left
    rcases hchange.status with hs | ⟨hs | hs, _⟩
    · exact absurd hreview hs.right.right.right
    · rw [hreview] at hs
      cases hs
    · rw [hreview] at hs
      cases hs

theorem Coupled.settle {l : CaseLabel} {t u : CaseTables} {m : OutboxMessage}
    {o o' : OrderOperation} {e : Ending} (h : Coupled t m o)
    (hstep : CaseStep l t u) (hfrozen : o'.frozen = o.frozen)
    (hset : OperationSettled e m o o' l) (hnone : o.supportCaseId = none)
    (hkind : m.lastFailureKind ≠ some ProviderFailureKind.providerRejection) :
    Coupled u (e.message m) o' := by
  have hlinked : o'.status = OperationRecordStatus.manualReview ->
      o'.status = OperationRecordStatus.manualReview ∧
        o'.requiresManualReview = true ∧ exists c, o'.supportCaseId = some c.caseId ∧
          u.rows.get c.caseId = some c ∧ ReviewCase o' c := by
    intro hs
    rcases hset.review hs with ⟨hreview, hlink⟩
    rcases hlink hnone with ⟨c, hc, hid, hcase⟩
    exact ⟨hs, hreview, c, hid, hstep.get_result hc,
      hcase.of_frozen hfrozen rfl fun _ hr => hr⟩
  have hassociated : Associated o' (e.message m).toProviderCommandEnvelope := by
    rw [e.message_envelope]
    exact h.toAssociated.of_frozen hfrozen
  have hafter := hset.after
  cases e with
  | finalized v now =>
      cases v with
      | accepted result =>
          have hs : o'.status = OperationRecordStatus.submitted := hafter
          refine ⟨hassociated, ?_, fun _ => Or.inl hs, fun hd => (by cases hd),
            fun hd => (by cases hd)⟩
          rw [hs]
          exact ⟨fun hm => (by cases hm), fun hq => (by cases hq)⟩
      | rejected result =>
          have hs : o'.status = OperationRecordStatus.rejected := hafter
          refine ⟨hassociated, ?_, fun hp => (by cases hp), fun _ _ => hs,
            fun _ hk => absurd rfl hk⟩
          rw [hs]
          exact ⟨fun hm => (by cases hm), fun hq => (by cases hq)⟩
      | terminalFailure kind code message =>
          by_cases hk : kind = ProviderFailureKind.providerRejection
          · subst hk
            have hs : o'.status = OperationRecordStatus.rejected := hafter
            refine ⟨hassociated, ?_, fun hp => (by cases hp), fun _ _ => hs,
              fun _ hk => absurd rfl hk⟩
            rw [hs]
            exact ⟨fun hm => (by cases hm), fun hq => (by cases hq)⟩
          · have hs : o'.status = OperationRecordStatus.manualReview := by
              rw [hafter]
              simp [Ending.operationStatus, Verdict.finalization,
                Finalization.terminalFailure, finalStatus, hk]
            refine ⟨hassociated, ?_, fun hp => (by cases hp), ?_,
              fun _ _ => hlinked hs⟩
            · rw [hs]
              exact ⟨fun hm => (by cases hm), fun hq => (by cases hq)⟩
            · exact fun _ hc => absurd (Option.some.inj hc) hk
  | retried r now => cases hset.settles
  | expired now availableAt updatedAt => cases hset.settles
  | exhausted now deadAt updatedAt =>
      have hs : o'.status = OperationRecordStatus.manualReview := hafter
      refine ⟨hassociated, ?_, fun hp => (by cases hp),
        fun _ hk => absurd hk hkind, fun _ _ => hlinked hs⟩
      rw [hs]
      exact ⟨fun hm => (by cases hm), fun hq => (by cases hq)⟩

/-!
## Keys and identifiers
-/

structure Keyed (db : Database) : Prop where
  operationEventIds : forall e, e ∈ db.operations.events.rows ->
    db.ids.Issued e.eventId
  caseEventIds : forall e, e ∈ db.cases.events.rows -> db.ids.Issued e.eventId
  redriveIds : forall r, r ∈ db.outbox.redrives.rows -> db.ids.Issued r.redriveId
  fallback : forall e, e ∈ db.operations.events.rows -> forall id : UUID,
    KeyUnder ("provider-queue-failure:" ++ toString id) e.idempotencyKey ->
    exists o, db.operations.rows.get id = some o ∧
      o.status ≠ OperationRecordStatus.pendingConfirmation
  answered : forall e, e ∈ db.operations.events.rows -> forall id : UUID,
    KeyUnder (operationHead id) e.idempotencyKey ->
    (exists rest, e.idempotencyKey = rest ++ ":created") ∨
      exists o, db.operations.rows.get id = some o ∧
        o.status ≠ OperationRecordStatus.pendingConfirmation
  redriven : forall e, e ∈ db.operations.events.rows ->
    KeyUnder Writer.redrive.head e.idempotencyKey ->
    exists r commandId, r ∈ db.outbox.redrives.rows ∧
      ':' ∉ r.tenantId.text.toList ∧
      e.idempotencyKey = "provider-redrive:" ++ r.tenantId.text ++ ":" ++
        toString (commandId : UUID) ++ ":" ++ r.requestId
  audited : forall e, e ∈ db.cases.events.rows ->
    KeyUnder redriveHead e.idempotencyKey ->
    exists tenantId redriveId, ':' ∉ String.toList tenantId ∧
      db.ids.Issued redriveId ∧ e.idempotencyKey =
        "provider-redrive:" ++ tenantId ++ ":" ++ toString redriveId

theorem Writer.colon_not_mem_head (w : Writer) : ':' ∉ w.head.toList := by
  cases w <;> decide

theorem Writer.eq_of_key {w w' : Writer} {key : String} (h : KeyUnder w.head key)
    (h' : KeyUnder w'.head key) : w = w' := by
  have := KeyUnder.head_eq w.colon_not_mem_head w'.colon_not_mem_head h h'
  cases w <;> cases w' <;> first | rfl | (exact absurd this (by decide))

theorem KeyUnder.fallback {id : UUID} {key : String}
    (h : KeyUnder ("provider-queue-failure:" ++ toString id) key) :
    KeyUnder Writer.fallback.head key := by
  rcases h with ⟨rest, rfl⟩
  refine ⟨toString id ++ ":" ++ rest, ?_⟩
  have hhead : "provider-queue-failure:" = Writer.fallback.head ++ ":" := rfl
  rw [hhead]
  simp only [String.append_assoc]

theorem KeyUnder.fallback_inj {id id' : UUID} {key : String}
    (h : KeyUnder ("provider-queue-failure:" ++ toString id) key)
    (h' : KeyUnder ("provider-queue-failure:" ++ toString id') key) : id = id' := by
  rcases h with ⟨rest, hrest⟩
  rcases h' with ⟨rest', hrest'⟩
  have heq := hrest.symm.trans hrest'
  simp only [String.append_assoc] at heq
  have htail := Text.append_right_inj heq
  simp only [← String.append_assoc] at htail
  exact Text.toString_inj (Text.colon_inj (Text.colon_not_mem_toString id)
    (Text.colon_not_mem_toString id') htail).left

theorem operationHead_inj {id id' : UUID} {key : String}
    (h : KeyUnder (operationHead id) key) (h' : KeyUnder (operationHead id') key) :
    id = id' := by
  rcases h with ⟨rest, hrest⟩
  rcases h' with ⟨rest', hrest'⟩
  have heq := hrest.symm.trans hrest'
  simp only [operationHead, String.append_assoc] at heq
  have htail := Text.append_right_inj heq
  simp only [← String.append_assoc] at htail
  exact Text.toString_inj (Text.colon_inj (Text.colon_not_mem_toString id)
    (Text.colon_not_mem_toString id') htail).left

theorem not_transition_pending (s : OperationRecordStatus) :
    ¬Transition s OperationRecordStatus.pendingConfirmation := by
  cases s <;> simp [Transition, allowedStatusTransitions, redriveTransition]

theorem OperationStep.not_pending_kept {l : OperationLabel} {t u : OperationTables}
    (h : OperationStep l t u) {id : UUID} {o : OrderOperation}
    (ho : t.rows.get id = some o)
    (hs : o.status ≠ OperationRecordStatus.pendingConfirmation) :
    exists o', u.rows.get id = some o' ∧
      o'.status ≠ OperationRecordStatus.pendingConfirmation := by
  rcases h.advance with ⟨es, _, hrows⟩
  rcases hrows id o ho with ⟨o', ho', hchange⟩
  refine ⟨o', ho', ?_⟩
  rcases hchange.status with ⟨hsame, _⟩ | ⟨htransition, _⟩
  · rw [hsame]
    exact hs
  · intro hpending
    rw [hpending] at htransition
    exact not_transition_pending _ htransition

theorem OperationStep.writer_of_event {l : OperationLabel} {t u : OperationTables}
    (h : OperationStep l t u) {e : OrderOperationEvent} (he : e ∈ l.events) :
    (KeyUnder Writer.service.head e.idempotencyKey) ∨
      exists w o o' es, l = OperationLabel.update w o o' es ∧ e ∈ es ∧
        KeyUnder w.head e.idempotencyKey := by
  cases h with
  | keep => cases he
  | create insert free appended unused new =>
      rw [List.mem_singleton.mp he]
      exact Or.inl new.key
  | @update _ events w o o' es get free appended unused change =>
      exact Or.inr ⟨w, o, o', es, rfl, he, change.keys e he⟩

theorem OperationStep.creation_or_update {l : OperationLabel} {t u : OperationTables}
    (h : OperationStep l t u) {e : OrderOperationEvent} (he : e ∈ l.events) :
    (exists rest, e.idempotencyKey = rest ++ ":created") ∨
      exists w o o' es, l = OperationLabel.update w o o' es ∧ e ∈ es ∧
        KeyUnder w.head e.idempotencyKey := by
  cases h with
  | keep => cases he
  | create insert free appended unused new =>
      rw [List.mem_singleton.mp he]
      exact Or.inl new.ends
  | @update _ events w o o' es get free appended unused change =>
      exact Or.inr ⟨w, o, o', es, rfl, he, change.keys e he⟩

theorem Move.fallback_kept {l : Label} {db db' : Database} (h : Move l db db')
    (hdb : Keyed db) : forall e, e ∈ db'.operations.events.rows -> forall id : UUID,
      KeyUnder ("provider-queue-failure:" ++ toString id) e.idempotencyKey ->
      exists o, db'.operations.rows.get id = some o ∧
        o.status ≠ OperationRecordStatus.pendingConfirmation := by
  intro e he id hkey
  rcases h.operation.mem_events he with he | he
  · rcases hdb.fallback e he id hkey with ⟨o, ho, hs⟩
    exact h.operation.not_pending_kept ho hs
  · rcases h.operation.writer_of_event he with hw | ⟨w, o, o', es, hl, hes, hw⟩
    · cases Writer.eq_of_key hw hkey.fallback
    · cases Writer.eq_of_key hw hkey.fallback
      -- only the fallback itself writes such a key, and it ends in a review
      rcases l with ⟨lo, lc, lx, li, lr⟩
      cases hl
      have hstep := h.operation.updated
      cases h.combined with
      | fallback hchange hcase keys =>
          rw [KeyUnder.fallback_inj hkey (keys e hes)]
          exact ⟨o', hstep.after, by rw [hchange.after]; simp⟩

theorem Move.answered_kept {l : Label} {db db' : Database} (h : Move l db db')
    (hdb : Keyed db) : forall e, e ∈ db'.operations.events.rows -> forall id : UUID,
      KeyUnder (operationHead id) e.idempotencyKey ->
      (exists rest, e.idempotencyKey = rest ++ ":created") ∨
        exists o, db'.operations.rows.get id = some o ∧
          o.status ≠ OperationRecordStatus.pendingConfirmation := by
  intro e he id hkey
  rcases h.operation.mem_events he with he | he
  · rcases hdb.answered e he id hkey with hend | ⟨o, ho, hs⟩
    · exact Or.inl hend
    · exact Or.inr (h.operation.not_pending_kept ho hs)
  · rcases h.operation.creation_or_update he with hend | ⟨w, o, o', es, hl, hes, hw⟩
    · exact Or.inl hend
    · cases Writer.eq_of_key hw hkey.service
      rcases l with ⟨lo, lc, lx, li, lr⟩
      cases hl
      have hstep := h.operation.updated
      cases h.combined with
      | changeOperation hchange keys =>
          rw [operationHead_inj hkey (keys e hes)]
          refine Or.inr ⟨o', hstep.after, ?_⟩
          rcases hchange.status with hs | hs
          · exact hs.right.left
          · rw [hs.right.left, hs.left]
            simp
      | queueOperation hq keys =>
          rw [operationHead_inj hkey (keys e hes)]
          exact Or.inr ⟨o', hstep.after, by rw [hq.after]; simp⟩

theorem Move.redriven_kept {l : Label} {db db' : Database} (h : Move l db db')
    (hdb : Keyed db) : forall e, e ∈ db'.operations.events.rows ->
      KeyUnder Writer.redrive.head e.idempotencyKey ->
      exists r commandId, r ∈ db'.outbox.redrives.rows ∧
        ':' ∉ r.tenantId.text.toList ∧
        e.idempotencyKey = "provider-redrive:" ++ r.tenantId.text ++ ":" ++
          toString (commandId : UUID) ++ ":" ++ r.requestId := by
  intro e he hkey
  rcases h.operation.mem_events he with he | he
  · rcases hdb.redriven e he hkey with ⟨r, c, hr, hrest⟩
    exact ⟨r, c, h.outbox.mem_redrives hr, hrest⟩
  · rcases h.operation.writer_of_event he with hw | ⟨w, o, o', es, hl, hes, hw⟩
    · cases Writer.eq_of_key hw hkey
    · cases Writer.eq_of_key hw hkey
      rcases l with ⟨lo, lc, lx, li, lr⟩
      cases hl
      have hstep := h.outbox
      cases h.combined with
      | @redriveOperation _ _ e' c ev m m' r hredriven audit =>
          refine ⟨r, m.commandId, hstep.redrives_of_redrive ▸ ?_, audit.colon, ?_⟩
          · simp
          · rw [List.mem_singleton.mp hes]
            exact hredriven.key

theorem Move.audited_kept {l : Label} {db db' : Database} (h : Move l db db')
    (hdb : Keyed db) : forall e, e ∈ db'.cases.events.rows ->
      KeyUnder redriveHead e.idempotencyKey ->
      exists tenantId redriveId, ':' ∉ String.toList tenantId ∧
        db'.ids.Issued redriveId ∧ e.idempotencyKey =
          "provider-redrive:" ++ tenantId ++ ":" ++ toString redriveId := by
  intro e he hkey
  rw [h.case.events_eq] at he
  rcases List.mem_append.mp he with he | he
  · rcases hdb.audited e he hkey with ⟨tenant, rid, hcolon, hissued, heq⟩
    exact ⟨tenant, rid, hcolon, hissued.mono h.ids, heq⟩
  · rcases l with ⟨lo, lc, lx, li, lr⟩
    have hids := h.redriveIds
    have hcase := h.case
    have hcombined := h.combined
    simp only at he hids hcase hcombined
    rcases hcase.key_cases he with hno | ⟨c, rfl⟩
    · exact absurd hkey hno
    · cases hcombined with
      | changeCase hl => cases hl
      | fallback hchange hl keys => cases hl
      | queueInvestigation hl hc hq => cases hl
      | settleOperation a hset hl => rcases hl with hl | hl <;> cases hl
      | settleCase a hset => rcases hset.label with hl | ⟨_, hl⟩ <;> cases hl
      | @redriveOperation _ _ _ _ _ _ _ r hredriven audit =>
          exact ⟨r.tenantId.text, r.redriveId, audit.colon, hids _ rfl, audit.key⟩
      | @redriveCase _ _ _ _ r kind audit =>
          exact ⟨r.tenantId.text, r.redriveId, audit.colon, hids _ rfl, audit.key⟩

theorem Move.keyed {l : Label} {db db' : Database} (h : Move l db db')
    (hdb : Keyed db) : Keyed db' where
  operationEventIds := by
    intro e he
    rcases h.operation.mem_events he with he | he
    · exact (hdb.operationEventIds e he).mono h.ids
    · exact h.operationEventIds e he
  caseEventIds := by
    intro e he
    rw [h.case.events_eq] at he
    rcases List.mem_append.mp he with he | he
    · exact (hdb.caseEventIds e he).mono h.ids
    · exact h.caseEventIds e he
  redriveIds := by
    intro r hr
    rcases h.outbox.redrive_origin hr with hr | hr
    · exact (hdb.redriveIds r hr).mono h.ids
    · exact h.redriveIds r.redriveId hr
  fallback := h.fallback_kept hdb
  answered := h.answered_kept hdb
  redriven := h.redriven_kept hdb
  audited := h.audited_kept hdb

/-!
## The invariant
-/

structure AllIssued (db : Database) : Prop where
  operations : forall o, o ∈ db.operations.rows.rows -> db.ids.Issued o.operationId
  cases : forall c, c ∈ db.cases.rows.rows -> db.ids.Issued c.caseId
  commands : forall m, m ∈ db.outbox.messages.rows -> db.ids.Issued m.commandId
  refunds : forall r, r ∈ db.refunds.rows -> db.ids.Issued r.refundId

structure Sound (db : Database) : Prop where
  operations : OperationSound db.operations
  cases : CaseSound db.cases
  allIssued : AllIssued db
  refunds : forall r r', r ∈ db.refunds.rows -> r' ∈ db.refunds.rows ->
    r.orderId = r'.orderId -> r = r'
  outbox : OutboxSound db.outbox
  inbox : InboxSound db.inbox
  keyed : Keyed db
  coupled : forall m, m ∈ db.outbox.messages.rows ->
    m.aggregateType = ProviderAggregateType.orderOperation ->
    exists o, db.operations.rows.get m.aggregateId = some o ∧ Coupled db.cases m o
  single : forall m m', m ∈ db.outbox.messages.rows -> m' ∈ db.outbox.messages.rows ->
    m.aggregateType = ProviderAggregateType.orderOperation ->
    m'.aggregateType = ProviderAggregateType.orderOperation ->
    m.aggregateId = m'.aggregateId -> m = m'
  investigated : forall m, m ∈ db.outbox.messages.rows ->
    m.aggregateType = ProviderAggregateType.supportCase ->
    exists c, db.cases.rows.get m.aggregateId = some c ∧ Investigated m c
  plain : forall o, o ∈ db.operations.rows.rows ->
    o.status = OperationRecordStatus.queued -> o.requiresManualReview = false
  unlinkedPending : forall o, o ∈ db.operations.rows.rows ->
    o.status = OperationRecordStatus.pendingConfirmation -> o.supportCaseId = none

theorem Sound.initial (ids : Supply) : Sound (Database.initial ids) where
  operations := OperationSound.initial ids
  cases := CaseSound.initial ids
  allIssued := ⟨fun o ho => (by cases ho), fun c hc => (by cases hc),
    fun m hm => (by cases hm), fun r hr => (by cases hr)⟩
  refunds := fun r r' hr => (by cases hr)
  outbox := OutboxSound.initial ids
  inbox := InboxSound.initial ids
  keyed := ⟨fun e he => (by cases he), fun e he => (by cases he),
    fun r hr => (by cases hr), fun e he => (by cases he), fun e he => (by cases he),
    fun e he => (by cases he), fun e he => (by cases he)⟩
  coupled := fun m hm => (by cases hm)
  single := fun m _ hm => (by cases hm)
  investigated := fun m hm => (by cases hm)
  plain := fun o ho => (by cases ho)
  unlinkedPending := fun o ho => (by cases ho)

theorem Sound.unlinked {db : Database} (h : Sound db) {o : OrderOperation}
    (ho : o ∈ db.operations.rows.rows)
    (hs : o.status = OperationRecordStatus.queued) : o.supportCaseId = none :=
  supportCaseId_eq_none (h.operations.checked o ho) (h.plain o ho hs)

theorem Sound.no_rejection {db : Database} (h : Sound db) {m : OutboxMessage}
    (hm : m ∈ db.outbox.messages.rows)
    (hs : m.status = OutboxDeliveryStatus.processing) :
    m.lastFailureKind ≠ some ProviderFailureKind.providerRejection := by
  intro hk
  have := (h.outbox.commands m hm).evident.rejection hk
  rw [hs] at this
  cases this

/-- The source of a label is the message with the key of its result. -/
theorem OutboxStep.source_of_result {l : OutboxLabel} {t u : OutboxTables}
    (h : OutboxStep l t u) {m' : OutboxMessage} (hm' : l.result = some m') :
    (exists command now, l = OutboxLabel.queue (outboxRow command now) ∧
        m' = outboxRow command now) ∨
      exists m, l.source = some m ∧ m ∈ t.messages.rows ∧
        m'.toProviderCommandEnvelope = m.toProviderCommandEnvelope := by
  cases h with
  | keep => cases hm'
  | @queue _ _ command now valid free insert =>
      cases hm'
      exact Or.inl ⟨command, now, rfl, rfl⟩
  | @claim _ _ m _ _ _ _ _ get due worker insert =>
      cases hm'
      exact Or.inr ⟨m, rfl, Table.mem_of_get get, rfl⟩
  | @renew _ m _ _ get held =>
      cases hm'
      exact Or.inr ⟨m, rfl, Table.mem_of_get get, rfl⟩
  | @finish _ e m a get held getAttempt ofCommand isOpen allowed checks =>
      cases hm'
      exact Or.inr ⟨m, rfl, Table.mem_of_get get, e.message_envelope m⟩
  | @redrive _ _ m _ _ _ get dead insert audit =>
      cases hm'
      exact Or.inr ⟨m, rfl, Table.mem_of_get get, rfl⟩

theorem Move.coupled_old {l : Label} {db db' : Database} (h : Move l db db')
    (hdb : Sound db) {m : OutboxMessage} (hm : m ∈ db.outbox.messages.rows)
    (hkind : m.aggregateType = ProviderAggregateType.orderOperation)
    (hne : forall m', l.outbox.result = some m' -> m.commandId ≠ m'.commandId) :
    exists o, db'.operations.rows.get m.aggregateId = some o ∧
      Coupled db'.cases m o := by
  rcases hdb.coupled m hm hkind with ⟨o, ho, hcoupled⟩
  rcases h.operation.get_cases ho with hsame | ⟨w, o', es, hl, ho', hid⟩
  · exact ⟨o, hsame, hcoupled.of_caseStep h.case⟩
  · refine ⟨o', ho', ?_⟩
    rcases l with ⟨lo, lc, lx, li, lr⟩
    have hstep := h.outbox
    have hcase := h.case
    have hop := h.operation
    have hcombined := h.combined
    simp only at hl hne hstep hcase hop hcombined
    subst hl
    have hfrozen := hop.updated.change.frozen
    -- the command that settles or redrives this operation would be this one
    have hother : forall {x : OutboxMessage}, x ∈ db.outbox.messages.rows ->
        x.aggregateType = ProviderAggregateType.orderOperation ->
        o.operationId = x.aggregateId -> m = x := by
      intro x hx hxkind hagg
      exact hdb.single m x hm hx hkind hxkind (hid.symm.trans hagg)
    cases hcombined with
    | changeOperation hchange =>
        rcases hchange.status with hs | hs
        · exact absurd hs.left hcoupled.not_pending
        · exact absurd hs.right.right (hcoupled.linked hs.left)
    | fallback hchange hl keys => exact absurd hchange.before hcoupled.not_pending
    | queueOperation hq => exact absurd hq.before hcoupled.not_pending
    | settleOperation a hset hl =>
        have hx := hother (hstep.mem_source rfl) hset.kind hset.aggregate
        subst hx
        exact absurd (Ending.message_commandId _ m).symm (hne _ rfl)
    | redriveOperation hred audit =>
        have hx := hother (hstep.mem_source rfl) hred.kind hred.aggregate
        subst hx
        rcases hstep.source_of_result rfl with ⟨_, _, hq, _⟩ | ⟨x, hx, _, henv⟩
        · cases hq
        · cases hx
          exact absurd (congrArg ProviderCommandEnvelope.commandId henv).symm
            (hne _ rfl)
    | callbackOperation hchange single =>
        exact (hcoupled.of_callback hfrozen hchange).of_caseStep hcase

theorem OperationStep.eq_of_keep {t u : OperationTables}
    (h : OperationStep OperationLabel.keep t u) : u = t := by
  cases h
  rfl

/-- The labels under which a command goes on waiting. -/
def OutboxLabel.waits : OutboxLabel -> Prop
  | claim _ _ _ => True
  | renew _ _ => True
  | finish e _ _ => e.settles = false
  | _ => False

theorem OutboxStep.undelivered {l : OutboxLabel} {t u : OutboxTables}
    (h : OutboxStep l t u) (hl : l.waits) :
    exists m m', l.source = some m ∧ l.result = some m' ∧ m.undelivered = true ∧
      m'.undelivered = true := by
  cases h with
  | keep => cases hl
  | queue valid free insert => cases hl
  | @claim _ _ m leaseId _ workerId expiresAt now get due worker insert =>
      refine ⟨m, m.setClaimed leaseId workerId expiresAt now, rfl, rfl, ?_, rfl⟩
      rcases due.left with hs | hs <;> simp [OutboxMessage.undelivered, hs]
  | @renew _ m expiresAt now get held =>
      refine ⟨m, m.setRenewed expiresAt now, rfl, rfl, ?_, ?_⟩
      · simp [OutboxMessage.undelivered, held]
      · simp [OutboxMessage.undelivered, OutboxMessage.setRenewed, held]
  | @finish _ e m a get held getAttempt ofCommand isOpen allowed checks =>
      refine ⟨m, e.message m, rfl, rfl, by simp [OutboxMessage.undelivered, held], ?_⟩
      cases e with
      | finalized v now => cases hl
      | retried r now => rfl
      | expired now availableAt updatedAt => rfl
      | exhausted now deadAt updatedAt => cases hl
  | redrive get dead insert audit => cases hl

theorem Move.coupled_waiting {lc : CaseLabel} {lx : OutboxLabel} {li : InboxLabel}
    {lr : Option RefundRequest}
    {db db' : Database}
    (h : Move ⟨OperationLabel.keep, lc, lx, li, lr⟩ db db') (hdb : Sound db)
    (hl : lx.waits) {m' : OutboxMessage} (hm' : lx.result = some m')
    (hkind : m'.aggregateType = ProviderAggregateType.orderOperation) :
    exists o, db'.operations.rows.get m'.aggregateId = some o ∧
      Coupled db'.cases m' o := by
  rcases h.outbox.undelivered hl with ⟨m, m'', hsource, hresult, hbefore, hafter⟩
  have hsame : m'' = m' := Option.some.inj (hresult.symm.trans hm')
  subst hsame
  rcases h.outbox.source_of_result hm' with ⟨_, _, hq, _⟩ | ⟨x, hx, hmem, henv⟩
  · simp only at hq
    rw [hq] at hl
    cases hl
  · have hxm : x = m := Option.some.inj (hx.symm.trans hsource)
    subst hxm
    have hxkind : x.aggregateType = ProviderAggregateType.orderOperation := by
      rw [← hkind]
      exact congrArg ProviderCommandEnvelope.aggregateType henv.symm
    rcases hdb.coupled x hmem hxkind with ⟨o, ho, hcoupled⟩
    refine ⟨o, ?_, ?_⟩
    · rw [h.operation.eq_of_keep,
        show m''.aggregateId = x.aggregateId from
          congrArg ProviderCommandEnvelope.aggregateId henv]
      exact ho
    · exact (hcoupled.of_undelivered hbefore hafter henv).of_caseStep h.case

theorem Coupled.of_queued (t : CaseTables) {m : OutboxMessage} {o : OrderOperation}
    (hm : m.undelivered = true) (ho : o.status = OperationRecordStatus.queued)
    (hassociated : Associated o m.toProviderCommandEnvelope) : Coupled t m o := by
  have hstatus : m.status ≠ OutboxDeliveryStatus.published ∧
      m.status ≠ OutboxDeliveryStatus.dead := by
    unfold OutboxMessage.undelivered at hm
    cases hs : m.status <;> simp_all
  exact ⟨hassociated, ⟨fun _ => ho, fun _ => hm⟩,
    fun hp => absurd hp hstatus.left, fun hd => absurd hd hstatus.right,
    fun hd => absurd hd hstatus.right⟩

theorem Move.coupled_new {l : Label} {db db' : Database} (h : Move l db db')
    (hdb : Sound db) {m' : OutboxMessage} (hm' : l.outbox.result = some m')
    (hkind : m'.aggregateType = ProviderAggregateType.orderOperation) :
    exists o, db'.operations.rows.get m'.aggregateId = some o ∧
      Coupled db'.cases m' o := by
  rcases l with ⟨lo, lc, lx, li, lr⟩
  have hstep := h.outbox
  have hcase := h.case
  have hop := h.operation
  have hcombined := h.combined
  simp only at hm' hstep hcase hop hcombined
  cases hcombined with
  | idle => cases hm'
  | createOperation o e => cases hm'
  | changeOperation hchange => cases hm'
  | fallback hchange hl keys => cases hm'
  | changeCase hl => cases hm'
  | inbox hl => cases hm'
  | callbackOperation hchange single => cases hm'
  | callbackOnly => cases hm'
  | callbackCase => cases hm'
  | claim m m₁ a => exact h.coupled_waiting hdb trivial hm' hkind
  | renew m m₁ => exact h.coupled_waiting hdb trivial hm' hkind
  | reschedule m a hs => exact h.coupled_waiting hdb hs hm' hkind
  | @queueOperation o o' es m hq =>
      cases hm'
      rcases hstep.source_of_result rfl with ⟨command, now, _, rfl⟩ | ⟨x, hx, _, _⟩
      · have hup := hop.updated
        refine ⟨o', ?_, Coupled.of_queued _ rfl hq.after
          (hq.toAssociated.of_frozen hup.change.frozen)⟩
        rw [hq.aggregate]
        exact hup.after
      · cases hx
  | queueInvestigation hl hc hq =>
      cases hm'
      rw [hq.kind] at hkind
      cases hkind
  | @abandonCase now deadAt updatedAt m a hsupport =>
      cases hm'
      have hkind : m.aggregateType = ProviderAggregateType.orderOperation := hkind
      rw [hsupport] at hkind
      cases hkind
  | @settleOperation o o' es _ e m a hset hl =>
      cases hm'
      have hup := hop.updated
      have hmem := hstep.mem_source rfl
      rcases hdb.coupled m hmem hset.kind with ⟨o₁, ho₁, hcoupled⟩
      have hsame : o₁ = o := by
        rw [← hset.aggregate, hup.before] at ho₁
        exact (Option.some.inj ho₁).symm
      subst hsame
      refine ⟨o', ?_, hcoupled.settle hcase hup.change.frozen hset
        (hdb.unlinked (Table.mem_of_get hup.before) hset.before)
        (hdb.no_rejection hmem hstep.held)⟩
      rw [show (e.message m).aggregateId = m.aggregateId from
        congrArg ProviderCommandEnvelope.aggregateId (e.message_envelope m),
        ← hset.aggregate]
      exact hup.after
  | @settleCase c ev _ e m a hset =>
      cases hm'
      rw [show (e.message m).aggregateType = m.aggregateType from
        congrArg ProviderCommandEnvelope.aggregateType (e.message_envelope m),
        hset.kind] at hkind
      cases hkind
  | @redriveOperation o o' e c ev m m₁ r hred audit =>
      cases hm'
      have hup := hop.updated
      have hmem := hstep.mem_source rfl
      rcases hdb.coupled m hmem hred.kind with ⟨o₁, ho₁, hcoupled⟩
      have hsame : o₁ = o := by
        rw [← hred.aggregate, hup.before] at ho₁
        exact (Option.some.inj ho₁).symm
      subst hsame
      rcases hstep.source_of_result rfl with ⟨_, _, hq, _⟩ | ⟨x, hx, _, henv⟩
      · cases hq
      · cases hx
        refine ⟨o', ?_, Coupled.of_queued _ hstep.undelivered_of_redrive hred.after ?_⟩
        · rw [show m'.aggregateId = m.aggregateId from
            congrArg ProviderCommandEnvelope.aggregateId henv, ← hred.aggregate]
          exact hup.after
        · rw [henv]
          exact hcoupled.toAssociated.of_frozen hup.change.frozen
  | @redriveCase c ev m m₁ r hsupport audit =>
      cases hm'
      rcases hstep.source_of_result rfl with ⟨_, _, hq, _⟩ | ⟨x, hx, _, henv⟩
      · cases hq
      · cases hx
        rw [show m'.aggregateType = m.aggregateType from
          congrArg ProviderCommandEnvelope.aggregateType henv, hsupport] at hkind
        cases hkind

theorem Move.first_command {l : Label} {db db' : Database} (h : Move l db db')
    (hdb : Sound db) {x m : OutboxMessage} (hx : x ∈ db.outbox.messages.rows)
    (hm : l.outbox.result = some m)
    (hne : x.commandId ≠ m.commandId)
    (hxkind : x.aggregateType = ProviderAggregateType.orderOperation)
    (hkind : m.aggregateType = ProviderAggregateType.orderOperation) :
    x.aggregateId ≠ m.aggregateId := by
  intro hagg
  rcases h.outbox.source_of_result hm with ⟨command, now, hq, hrow⟩ | ⟨y, _, hy, henv⟩
  · rcases l with ⟨lo, lc, lx, li, lr⟩
    have hop := h.operation
    have hcombined := h.combined
    simp only at hq hop hcombined
    subst hq
    rw [← hrow] at hcombined
    rcases hdb.coupled x hx hxkind with ⟨o₁, ho₁, hcoupled⟩
    cases hcombined with
    | queueOperation hqueued =>
        rw [hagg, hqueued.aggregate, hop.updated.before] at ho₁
        cases ho₁
        exact hcoupled.not_pending hqueued.before
    | queueInvestigation hl hc hqueued =>
        rw [hqueued.kind] at hkind
        cases hkind
  · have hykind : y.aggregateType = ProviderAggregateType.orderOperation := by
      rw [← hkind]
      exact congrArg ProviderCommandEnvelope.aggregateType henv.symm
    have hyagg : x.aggregateId = y.aggregateId :=
      hagg.trans (congrArg ProviderCommandEnvelope.aggregateId henv)
    have hxy := hdb.single x y hx hy hxkind hykind hyagg
    rw [hxy] at hne
    exact hne (congrArg ProviderCommandEnvelope.commandId henv).symm

theorem Move.single {l : Label} {db db' : Database} (h : Move l db db')
    (hdb : Sound db) {m m' : OutboxMessage} (hm : m ∈ db'.outbox.messages.rows)
    (hm' : m' ∈ db'.outbox.messages.rows)
    (hkind : m.aggregateType = ProviderAggregateType.orderOperation)
    (hkind' : m'.aggregateType = ProviderAggregateType.orderOperation)
    (hagg : m.aggregateId = m'.aggregateId) : m = m' := by
  rcases h.outbox.origin hm with hnew | ⟨hold, hne⟩
  · rcases h.outbox.origin hm' with hnew' | ⟨hold', hne'⟩
    · exact Option.some.inj (hnew.symm.trans hnew')
    · exact absurd hagg.symm
        (h.first_command hdb hold' hnew (hne' m hnew) hkind' hkind)
  · rcases h.outbox.origin hm' with hnew' | ⟨hold', _⟩
    · exact absurd hagg (h.first_command hdb hold hnew' (hne m' hnew') hkind hkind')
    · exact hdb.single m m' hold hold' hkind hkind' hagg

theorem Investigated.of_frozen {m : OutboxMessage} {c c' : SupportCase}
    (h : Investigated m c) (hc : c'.frozen = c.frozen) : Investigated m c' := by
  constructor
  · show c'.frozen.tenantId = _
    rw [hc]
    exact h.tenant
  · show c'.frozen.customerId = _
    rw [hc]
    exact h.customer
  · show c'.frozen.caseType = _
    rw [hc]
    exact h.kind

theorem Move.investigated {l : Label} {db db' : Database} (h : Move l db db')
    (hdb : Sound db) {m : OutboxMessage} (hm : m ∈ db'.outbox.messages.rows)
    (hkind : m.aggregateType = ProviderAggregateType.supportCase) :
    exists c, db'.cases.rows.get m.aggregateId = some c ∧ Investigated m c := by
  have hkept : forall {y : OutboxMessage}, y ∈ db.outbox.messages.rows ->
      y.toProviderCommandEnvelope = m.toProviderCommandEnvelope ->
      exists c, db'.cases.rows.get m.aggregateId = some c ∧ Investigated m c := by
    intro y hy henv
    have hagg : y.aggregateId = m.aggregateId :=
      congrArg ProviderCommandEnvelope.aggregateId henv
    have hykind : y.aggregateType = ProviderAggregateType.supportCase := by
      rw [← hkind]
      exact congrArg ProviderCommandEnvelope.aggregateType henv
    rcases hdb.investigated y hy hykind with ⟨c, hc, hinv⟩
    rcases h.case.reasons_kept hc with ⟨c', hc', hfrozen, _⟩
    rw [hagg] at hc'
    have hinv' := hinv.of_frozen hfrozen
    exact ⟨c', hc', hinv'.tenant.trans (congrArg ProviderCommandEnvelope.tenantId henv),
      hinv'.customer.trans (congrArg ProviderCommandEnvelope.customerId henv),
      hinv'.kind⟩
  rcases h.outbox.origin hm with hnew | ⟨hold, _⟩
  · rcases h.outbox.source_of_result hnew with ⟨command, now, hq, hrow⟩ | ⟨y, _, hy, henv⟩
    · rcases l with ⟨lo, lc, lx, li, lr⟩
      have hcase := h.case
      have hcombined := h.combined
      simp only at hq hcase hcombined
      subst hq
      rw [← hrow] at hcombined
      cases hcombined with
      | queueOperation hqueued =>
          rw [hqueued.kind] at hkind
          cases hkind
      | @queueInvestigation _ c _ hl hc hqueued =>
          refine ⟨c, ?_, hqueued.tenant.symm, hqueued.customer.symm, hqueued.caseKind⟩
          rw [hqueued.aggregate]
          exact hcase.get_result hc
    · exact hkept hy henv.symm
  · exact hkept hold rfl

theorem OperationStep.row_origin {l : OperationLabel} {t u : OperationTables}
    (h : OperationStep l t u) {o : OrderOperation} (ho : o ∈ u.rows.rows) :
    o ∈ t.rows.rows ∨ (exists e, l = OperationLabel.create o e ∧ OperationCreated o e) ∨
      exists w o₀ es, l = OperationLabel.update w o₀ o es := by
  cases h with
  | keep => exact Or.inl ho
  | @create _ rows events o₁ e insert free appended unused new =>
      have ho : o ∈ t.rows.rows ++ [o₁] := by
        rw [← (Table.insert?_eq_some.mp insert).right]
        exact ho
      rcases List.mem_append.mp ho with ho | ho
      · exact Or.inl ho
      · cases List.mem_singleton.mp ho
        exact Or.inr (Or.inl ⟨e, rfl, new⟩)
  | @update _ events w o₀ o' es get free appended unused change =>
      rcases Table.mem_put ho with rfl | ⟨ho, _⟩
      · exact Or.inr (Or.inr ⟨w, o₀, es, rfl⟩)
      · exact Or.inl ho

theorem Move.plain {l : Label} {db db' : Database} (h : Move l db db')
    (hdb : Sound db) {o : OrderOperation} (ho : o ∈ db'.operations.rows.rows)
    (hs : o.status = OperationRecordStatus.queued) :
    o.requiresManualReview = false := by
  rcases h.operation.row_origin ho with hold | ⟨e, hl, hnew⟩ | ⟨w, o₀, es, hl⟩
  · exact hdb.plain o hold hs
  · rw [hnew.status] at hs
    cases hs
  · rcases l with ⟨lo, lc, lx, li, lr⟩
    have hcombined := h.combined
    simp only at hl hcombined
    subst hl
    cases hcombined with
    | changeOperation hchange =>
        rcases hchange.status with hc | hc
        · exact absurd hs hc.right.right
        · rw [hc.right.left, hc.left] at hs
          cases hs
    | fallback hchange hl keys =>
        rw [hchange.after] at hs
        cases hs
    | queueOperation hq => exact hq.review
    | @settleOperation _ _ _ _ e m a hset hl =>
        rw [hset.after] at hs
        cases e with
        | finalized v now =>
            simp only [Ending.operationStatus, finalStatus] at hs
            split at hs
            · cases hs
            · split at hs <;> cases hs
        | retried r now => cases hs
        | expired now availableAt updatedAt => cases hs
        | exhausted now deadAt updatedAt => cases hs
    | redriveOperation hred audit => exact hred.review
    | callbackOperation hchange single =>
        rcases hchange.status with hc | ⟨_, hc | hc | hc⟩
        · rw [hc.left] at hs
          exact absurd hs hc.right.right.left
        · rw [hc] at hs
          cases hs
        · rw [hc] at hs
          cases hs
        · rw [hc] at hs
          cases hs

theorem Combination.not_pending {w : Writer} {o o' : OrderOperation}
    {es : List OrderOperationEvent} {lc : CaseLabel} {lx : OutboxLabel} {li : InboxLabel}
    (h : Combination (OperationLabel.update w o o' es) lc lx li) :
    o'.status ≠ OperationRecordStatus.pendingConfirmation := by
  cases h with
  | changeOperation hchange =>
      rcases hchange.status with hc | hc
      · exact hc.right.left
      · rw [hc.right.left, hc.left]
        simp
  | fallback hchange =>
      rw [hchange.after]
      simp
  | queueOperation hq =>
      rw [hq.after]
      simp
  | @settleOperation _ _ _ _ e m a hset hl =>
      rw [hset.after]
      cases e with
      | finalized v now =>
          simp only [Ending.operationStatus, finalStatus]
          split
          · simp
          · split <;> simp
      | retried r now => simp [Ending.operationStatus]
      | expired now availableAt updatedAt => simp [Ending.operationStatus]
      | exhausted now deadAt updatedAt => simp [Ending.operationStatus]
  | redriveOperation hred audit =>
      rw [hred.after]
      simp
  | callbackOperation hchange single =>
      rcases hchange.status with hc | ⟨_, hc | hc | hc⟩
      · rw [hc.left]
        exact hc.right.left
      · rw [hc]
        simp
      · rw [hc]
        simp
      · rw [hc]
        simp

theorem Move.unlinkedPending {l : Label} {db db' : Database} (h : Move l db db')
    (hdb : Sound db) {o : OrderOperation} (ho : o ∈ db'.operations.rows.rows)
    (hs : o.status = OperationRecordStatus.pendingConfirmation) :
    o.supportCaseId = none := by
  rcases h.operation.row_origin ho with hold | ⟨e, hl, hnew⟩ | ⟨w, o₀, es, hl⟩
  · exact hdb.unlinkedPending o hold hs
  · exact hnew.support
  · have hcombined := h.combined
    rw [hl] at hcombined
    exact absurd hs hcombined.not_pending

/-!
## Identifiers and refunds
-/

theorem OperationStep.id_origin {l : OperationLabel} {t u : OperationTables}
    (h : OperationStep l t u) {o : OrderOperation} (ho : o ∈ u.rows.rows) :
    (exists o₀, o₀ ∈ t.rows.rows ∧ o₀.operationId = o.operationId) ∨
      l.created? = some o.operationId := by
  rcases h.row_origin ho with hold | ⟨e, hl, _⟩ | ⟨w, o₀, es, hl⟩
  · exact Or.inl ⟨o, hold, rfl⟩
  · rw [hl]
    exact Or.inr rfl
  · rw [hl] at h
    have hupdated := h.updated
    exact Or.inl ⟨o₀, Table.mem_of_get hupdated.before,
      (operationId_of_frozen hupdated.change.frozen).symm⟩

theorem CaseStep.id_origin {l : CaseLabel} {t u : CaseTables} (h : CaseStep l t u)
    {c : SupportCase} (hc : c ∈ u.rows.rows) :
    (exists c₀, c₀ ∈ t.rows.rows ∧ c₀.caseId = c.caseId) ∨
      l.created? = some c.caseId := by
  cases h with
  | keep => exact Or.inl ⟨c, hc, rfl⟩
  | create insert valid checks free owner events keys =>
      rw [(Table.insert?_eq_some.mp insert).right] at hc
      rcases List.mem_append.mp hc with hc | hc
      · exact Or.inl ⟨c, hc, rfl⟩
      · cases List.mem_singleton.mp hc
        exact Or.inr rfl
  | update get change checks free owner rows events keys =>
      rw [rows] at hc
      rcases Table.mem_put hc with rfl | ⟨hc, _⟩
      · exact Or.inl ⟨_, Table.mem_of_get get, (caseId_of_frozen change.frozen).symm⟩
      · exact Or.inl ⟨c, hc, rfl⟩
  | record get owner rows events keys =>
      rw [rows] at hc
      exact Or.inl ⟨c, hc, rfl⟩
  | redrive get owner rows events =>
      rw [rows] at hc
      exact Or.inl ⟨c, hc, rfl⟩

theorem OutboxStep.id_origin {l : OutboxLabel} {t u : OutboxTables}
    (h : OutboxStep l t u) {m : OutboxMessage} (hm : m ∈ u.messages.rows) :
    (exists m₀, m₀ ∈ t.messages.rows ∧ m₀.commandId = m.commandId) ∨
      l.created? = some m.commandId := by
  rcases h.origin hm with hresult | ⟨hold, _⟩
  · cases h with
    | keep => cases hresult
    | queue valid free insert =>
        cases hresult
        exact Or.inr rfl
    | claim get due worker insert =>
        cases hresult
        exact Or.inl ⟨_, Table.mem_of_get get, rfl⟩
    | renew get held =>
        cases hresult
        exact Or.inl ⟨_, Table.mem_of_get get, rfl⟩
    | @finish _ e m₀ a get held getAttempt ofCommand isOpen allowed checks =>
        cases hresult
        exact Or.inl ⟨m₀, Table.mem_of_get get, by cases e <;> rfl⟩
    | redrive get dead insert audit =>
        cases hresult
        exact Or.inl ⟨_, Table.mem_of_get get, rfl⟩
  · exact Or.inl ⟨m, hold, rfl⟩

theorem RefundStep.origin {l : Option RefundRequest} {t u : RefundTable}
    (h : RefundStep l t u) {r : RefundRequest} (hr : r ∈ u.rows) :
    r ∈ t.rows ∨ (l = some r ∧ forall x, x ∈ t.rows -> x.orderId ≠ r.orderId) := by
  cases h with
  | keep => exact Or.inl hr
  | create free insert =>
      rw [(Table.insert?_eq_some.mp insert).right] at hr
      rcases List.mem_append.mp hr with hr | hr
      · exact Or.inl hr
      · cases List.mem_singleton.mp hr
        exact Or.inr ⟨rfl, free⟩

theorem Move.allIssued {l : Label} {db db' : Database} (h : Move l db db')
    (hdb : AllIssued db) : AllIssued db' where
  operations := by
    intro o ho
    rcases h.operation.id_origin ho with ⟨o₀, ho₀, hid⟩ | hnew
    · rw [← hid]
      exact (hdb.operations o₀ ho₀).mono h.ids
    · exact h.createdIds _ (Or.inl hnew)
  cases := by
    intro c hc
    rcases h.case.id_origin hc with ⟨c₀, hc₀, hid⟩ | hnew
    · rw [← hid]
      exact (hdb.cases c₀ hc₀).mono h.ids
    · exact h.createdIds _ (Or.inr (Or.inl hnew))
  commands := by
    intro m hm
    rcases h.outbox.id_origin hm with ⟨m₀, hm₀, hid⟩ | hnew
    · rw [← hid]
      exact (hdb.commands m₀ hm₀).mono h.ids
    · exact h.createdIds _ (Or.inr (Or.inr (Or.inl hnew)))
  refunds := by
    intro r hr
    rcases h.refund.origin hr with hold | ⟨hnew, _⟩
    · exact (hdb.refunds r hold).mono h.ids
    · refine h.createdIds _ (Or.inr (Or.inr (Or.inr ?_)))
      rw [hnew]
      rfl

theorem Move.refunds {l : Label} {db db' : Database} (h : Move l db db')
    (hdb : Sound db) {r r' : RefundRequest} (hr : r ∈ db'.refunds.rows)
    (hr' : r' ∈ db'.refunds.rows) (horder : r.orderId = r'.orderId) : r = r' := by
  rcases h.refund.origin hr with hold | ⟨hl, hfree⟩
  · rcases h.refund.origin hr' with hold' | ⟨hl', hfree'⟩
    · exact hdb.refunds r r' hold hold' horder
    · exact absurd horder (hfree' r hold)
  · rcases h.refund.origin hr' with hold' | ⟨hl', hfree'⟩
    · exact absurd horder.symm (hfree r' hold')
    · rw [hl] at hl'
      exact Option.some.inj hl'

theorem Move.sound {l : Label} {db db' : Database} (h : Move l db db')
    (hdb : Sound db) : Sound db' where
  operations := h.operation.sound hdb.operations
  cases := h.case.sound hdb.cases
  allIssued := h.allIssued hdb.allIssued
  refunds := fun r r' hr hr' horder => h.refunds hdb hr hr' horder
  outbox := h.outbox.sound hdb.outbox
  inbox := h.inbox.sound hdb.inbox
  keyed := h.keyed hdb.keyed
  coupled := by
    intro m hm hkind
    rcases h.outbox.origin hm with hnew | ⟨hold, hne⟩
    · exact h.coupled_new hdb hnew hkind
    · exact h.coupled_old hdb hold hkind hne
  single := fun m m' hm hm' hkind hkind' hagg => h.single hdb hm hm' hkind hkind' hagg
  investigated := fun m hm hkind => h.investigated hdb hm hkind
  plain := fun o ho hs => h.plain hdb ho hs
  unlinkedPending := fun o ho hs => h.unlinkedPending hdb ho hs

theorem Moves.sound {P : Label -> Prop} {db db' : Database} (h : Moves P db db')
    (hdb : Sound db) : Sound db' :=
  h.preserves (fun _ _ _ _ hm hs => hm.sound hs) hdb

end RefundAgent
