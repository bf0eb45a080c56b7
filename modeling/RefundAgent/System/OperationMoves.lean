import RefundAgent.System.DeliveryMoves

/-!
# The operation repository as moves

A call of the service reads an operation, decides, and writes with the version
it has read.  `Known` is what remains of the read once others may have run: the
row is still there, and as long as its version has not moved it still is what
was read.  Every write below is a move under that knowledge.
-/

namespace RefundAgent

open Foundation

def OutboxLabel.finishes : OutboxLabel -> Prop
  | finish _ _ _ => True
  | _ => False

def InboxLabel.finishes : InboxLabel -> Prop
  | finish _ _ _ => True
  | _ => False

variable {D : HandoffDecision -> Prop}

/--
The moves of the services: they finish no attempt and receive no event, and the
handoff decisions that they act on satisfy a condition.
-/
def Label.served (D : HandoffDecision -> Prop) (l : Label) : Prop :=
  ¬l.outbox.finishes ∧ ¬l.inbox.finishes ∧ ¬l.inbox.receives ∧ l.case.Grounded D

/-- A transaction of one of the services. -/
def Served (D : HandoffDecision -> Prop) (db db' : Database) : Prop :=
  exists l : Label, l.served D ∧ Move l db db'

theorem Served.of_steps {l : Label} {db db' : Database} (h : Steps l db db')
    (hc : Combination l.operation l.case l.outbox l.inbox) (hl : l.served D)
    (hs : forall c c', l.case = CaseLabel.update c c' [] -> l.Silent db := by
      intro c c' hl; cases hl) :
    Served D db db' :=
  ⟨l, hl, h.move hc hs⟩

theorem Served.refl (db : Database) : Served D db db :=
  Served.of_steps (Steps.refl db) Combination.idle ⟨id, id, id, trivial⟩

theorem Drawn.served {x : UUID} {db db' : Database} (h : Drawn x db db') :
    Served D db db' :=
  Served.of_steps ((Steps.refl db').afterId h) Combination.idle ⟨id, id, id, trivial⟩

theorem Served.later {db db' : Database} (h : Served D db db') : Later db db' := by
  rcases h with ⟨l, _, hmove⟩
  exact hmove.later

/-!
## Reading
-/

def Known (o : OrderOperation) (db : Database) : Prop :=
  exists row, db.operations.rows.get o.operationId = some row ∧
    o.version ≤ row.version ∧ (row.version = o.version -> row.ofRow? = some o)

theorem Known.later {o : OrderOperation} {db db' : Database} (h : Known o db)
    (hlater : Later db db') : Known o db' := by
  rcases h with ⟨row, hget, hle, heq⟩
  rcases hlater.operations _ row hget with ⟨row', hget', _, hle', heq'⟩
  refine ⟨row', hget', Nat.le_trans hle hle', ?_⟩
  intro hv
  have hsame : row'.version = row.version := by omega
  rw [heq' hsame]
  exact heq (by omega)

theorem Known.of_row {row o : OrderOperation} {db : Database} {id : UUID}
    (hget : db.operations.rows.get id = some row) (hrow : row.ofRow? = some o) :
    Known o db := by
  have hread : ReadFrom db o row := ReadFrom.mk ?_ hrow
  · refine ⟨row, hread.get, ?_, fun _ => hrow⟩
    rw [hread.eq]
  · rw [(OrderOperation.ofRow?_eq_some hrow).left]
    show db.operations.rows.get row.operationId = some row
    rw [Table.get_key hget]
    exact hget

theorem findOperation_spec {scope : AccessScope} {operationId : UUID}
    {db db' : Database} {found : Option OrderOperation}
    (h : findOperation scope operationId db = Except.ok (found, db')) :
    db' = db ∧ forall o, found = some o ->
      Known o db ∧ o.operationId = operationId := by
  simp only [findOperation, Transaction.bind_eq_ok, customerOwnedVisibility,
    Transaction.fetch_eq_ok] at h
  rcases h with ⟨customerId, _, ⟨_, rfl⟩, hfetch⟩
  have hread := fetchOperation_eq_ok hfetch
  refine ⟨hread.left, ?_⟩
  intro o ho
  rcases hread.right.left o ho with ⟨row, hrow, hparsed⟩
  rw [Option.filter_eq_some_iff] at hrow
  refine ⟨Known.of_row hrow.left hparsed, ?_⟩
  rw [(OrderOperation.ofRow?_eq_some hparsed).left]
  show row.operationId = operationId
  exact Table.get_key hrow.left

theorem fetchOperation_spec {query : Database -> Option OrderOperation}
    {db db' : Database} {found : Option OrderOperation}
    (h : fetchOperation query db = Except.ok (found, db')) : db' = db :=
  (fetchOperation_eq_ok h).left

/-!
## Versioned writes
-/

/-- What the service decides: an update of what it has read, with its events. -/
structure OperationWrite (current updated : OrderOperation)
    (es : List OrderOperationEvent) : Prop where
  id : updated.operationId = current.operationId
  policy : updated.policyReasonCodes = current.policyReasonCodes
  version : updated.version = current.version + 1
  recorded : Recorded current updated es
  owner : forall e, e ∈ es -> e.operationId = current.operationId
  keys : forall e, e ∈ es ->
    KeyUnder (operationHead current.operationId) e.idempotencyKey
  reference : Referenced current updated

theorem Referenced.of_row {row current updated : OrderOperation}
    (hrow : row.ofRow? = some current) (h : Referenced current updated) :
    Referenced row (updated.setFrom row) := by
  rcases OrderOperation.ofRow?_eq_some hrow with ⟨hread, _⟩
  have hstatus : current.status = row.status := by rw [hread]
  have hreference : current.providerReference = row.providerReference.map Text.trim := by
    rw [hread]
  have hnone : row.providerReference = none -> current.providerReference = none := by
    intro hnone
    rw [hreference, hnone]
    rfl
  constructor
  · intro hlegible
    exact OrderOperation.legible_of_eq
      (h.legible ((OrderOperation.legible_of_read hreference).mpr hlegible)) rfl
  · rcases h.kept with hwaiting | hempty | hsame | hsame
    · exact Or.inl (hstatus ▸ hwaiting)
    · rw [hreference, Option.map_eq_none_iff] at hempty
      exact Or.inr (Or.inl hempty)
    · exact Or.inr (Or.inr (Or.inr (hsame.trans hreference)))
    · refine Or.inr (Or.inr (Or.inr (hsame.trans ?_)))
      rw [hreference]
      cases row.providerReference with
      | none => rfl
      | some s => exact congrArg some (Text.trim_trim s)
  · intro hwaiting
    rcases h.blank hwaiting with ⟨hbefore, hblank⟩
    exact ⟨hstatus ▸ hbefore, fun hempty => hblank (hnone hempty)⟩

/-- A versioned write that has met the version it was made for. -/
structure OperationWritten (current updated row : OrderOperation)
    (es : List OrderOperationEvent) (db db' : Database) : Prop where
  parsed : row.ofRow? = some current
  step : OperationStep (OperationLabel.update Writer.service row (updated.setFrom row)
    es) db.operations db'.operations
  keys : forall e, e ∈ es -> KeyUnder (operationHead row.operationId) e.idempotencyKey
  touches : Touches Group.operations db db'

theorem writeOperation_spec {scope : AccessScope} {current updated : OrderOperation}
    {es : List OrderOperationEvent} {db db' : Database}
    (hknown : Known current db) (hwrite : OperationWrite current updated es)
    (h : writeOperation scope updated es current.version db = Except.ok ((), db')) :
    exists row, OperationWritten current updated row es db db' := by
  simp only [writeOperation, customerOwnedVisibility, Transaction.bind_eq_ok,
    Transaction.fetch_eq_ok, Transaction.require_eq_ok, Prod.mk.injEq] at h
  rcases h with ⟨customerId, _, ⟨_, rfl⟩, _, db₁, hup, _, _, ⟨rfl, _, rfl⟩, hevents⟩
  rcases updateOperation_spec hup with
    ⟨row, hget, hp, hchecks, hfree, hrows, hold, htouch⟩
  have happended := insertOperationEvents_spec hevents
  simp only [Bool.and_eq_true, decide_eq_true_eq] at hp
  rcases hknown with ⟨row', hget', _, hparsed⟩
  have hsame : row' = row := by
    rw [hwrite.id, hget'] at hget
    exact Option.some.inj hget
  subst hsame
  have hparsed := hparsed hp.left
  have hread := (OrderOperation.ofRow?_eq_some hparsed).left
  have hid : row'.operationId = current.operationId := by rw [hread]
  have hstatus : row'.status = current.status := by rw [hread]
  refine ⟨row', hparsed, ?_, ?_, htouch.trans happended.touches⟩
  swap
  · rw [hid]
    exact hwrite.keys
  refine OperationStep.of_update ?_ hfree ?_ ?_ ?_
    ⟨rfl, ?_, ?_, hchecks, ?_, ?_, fun e he => (hwrite.keys e he).service,
      hwrite.reference.of_row hparsed⟩
  · rw [hid]
    exact hget'
  · rw [happended.rows, hrows]
  · rw [happended.appended, hold]
  · have hunused := happended.unused
    rw [hold] at hunused
    exact hunused
  · show updated.policyReasonCodes = row'.policyReasonCodes
    rw [hwrite.policy, hread]
  · show updated.version = row'.version + 1
    rw [hwrite.version, hp.left]
  · have hrecorded := hwrite.recorded
    unfold Recorded at hrecorded ⊢
    rw [hstatus]
    exact hrecorded
  · intro e he
    rw [hwrite.owner e he, hid]

/-- The status changes of a service write, in terms of what was read. -/
def ServiceStatus (current updated : OrderOperation) : Prop :=
  (current.status = OperationRecordStatus.pendingConfirmation ∧
      updated.status ≠ OperationRecordStatus.pendingConfirmation ∧
      updated.status ≠ OperationRecordStatus.queued) ∨
    (current.status = OperationRecordStatus.manualReview ∧
      updated.status = current.status ∧ current.supportCaseId = none)

theorem updateOperationWithEvents_served {scope : AccessScope}
    {current updated : OrderOperation} {es : List OrderOperationEvent}
    {db db' : Database} (hknown : Known current db)
    (hwrite : OperationWrite current updated es)
    (hstatus : ServiceStatus current updated)
    (hids : forall e, e ∈ es -> db.ids.Issued e.eventId)
    (h : updateOperationWithEvents scope updated es current.version db =
      Except.ok ((), db')) : Served D db db' := by
  simp only [updateOperationWithEvents, Transaction.translate_eq_ok,
    Transaction.bind_eq_ok, validateOwnership, Transaction.require_eq_ok,
    Prod.mk.injEq] at h
  rcases h with ⟨_, _, ⟨_, _, ⟨_, _, rfl⟩, _, _, ⟨_, _, rfl⟩, _, _, ⟨_, _, rfl⟩, _, _,
    rfl⟩, hw⟩
  rcases writeOperation_spec hknown hwrite hw with ⟨row, hwritten⟩
  have hread := (OrderOperation.ofRow?_eq_some hwritten.parsed).left
  refine Served.of_steps ((Steps.refl db).thenOperation rfl hwritten.touches
    hwritten.step (fun e he => (hids e he).mono hwritten.touches.ids))
    (Combination.changeOperation ⟨?_, rfl⟩ hwritten.keys) ⟨id, id, id, trivial⟩
  unfold ServiceStatus at hstatus
  rw [hread] at hstatus
  exact hstatus

theorem createOperationWithEvents_served {scope : AccessScope} {o : OrderOperation}
    {e : OrderOperationEvent} {db db' : Database} (hnew : OperationCreated o e)
    (hid : db.ids.Issued e.eventId) (hnewId : db.ids.Issued o.operationId)
    (h : createOperationWithEvents scope o [e] db = Except.ok ((), db')) :
    Served D db db' := by
  simp only [createOperationWithEvents, Transaction.translate_eq_ok,
    Transaction.bind_eq_ok, validateOwnership, Transaction.require_eq_ok,
    Prod.mk.injEq] at h
  rcases h with ⟨_, _, ⟨_, _, ⟨_, _, rfl⟩, _, _, ⟨_, _, rfl⟩, _, _, ⟨_, _, rfl⟩, _, _,
    rfl⟩, _, db₁, hins, hevents⟩
  rcases insertOperation_spec hins with ⟨hrows, hold, _, hfree, htouch⟩
  have happended := insertOperationEvents_spec hevents
  have hstep : OperationStep (OperationLabel.create o e) db.operations
      db'.operations := by
    have hinsert : db.operations.rows.insert? o = some db'.operations.rows := by
      rw [happended.rows]
      exact hrows
    have hlog : db'.operations.events.rows = db.operations.events.rows ++ [e] := by
      rw [happended.appended, hold]
    have hunused := happended.unused e (List.mem_singleton.mpr rfl)
    rw [hold] at hunused
    exact OperationStep.create hinsert hfree hlog hunused hnew
  refine Served.of_steps ((Steps.refl db).thenOperation rfl
    (htouch.trans happended.touches) hstep ?_ ?_) (Combination.createOperation o e)
    ⟨id, id, id, trivial⟩
  · intro d hd
    rw [List.mem_singleton.mp hd]
    exact hid.mono (htouch.trans happended.touches).ids
  · intro x hx
    cases hx
    exact hnewId.mono (htouch.trans happended.touches).ids

/-!
## Queueing
-/

theorem insertOutboxMessage_spec {command : ProviderCommandEnvelope} {now : Time}
    {db db' : Database} (hvalid : command.valid = true)
    (h : insertOutboxMessage command now db = Except.ok ((), db')) :
    OutboxStep (OutboxLabel.queue (outboxRow command now)) db.outbox db'.outbox ∧
      Touches Group.outbox db db' := by
  simp only [insertOutboxMessage, insertOutboxRow, Transaction.bind_eq_ok,
    Transaction.require_eq_ok, Transaction.read_eq_ok, insertRow_eq_ok,
    Prod.mk.injEq] at h
  rcases h with ⟨_, _, ⟨rfl, rfl⟩, _, _, ⟨hfree, _, rfl⟩, t, ht, _, rfl⟩
  exact ⟨OutboxStep.queue hvalid hfree ht, fun _ => rfl, fun _ => rfl,
    fun hg => absurd rfl hg, fun _ => rfl, rfl, db.ids.extends_refl⟩

theorem operationCommandMismatch_none {o : OrderOperation}
    {es : List OrderOperationEvent} {command : ProviderCommandEnvelope} {v : Nat}
    (h : operationCommandMismatch o es command v = none) :
    command.valid = true ∧ o.status = OperationRecordStatus.queued ∧
      command.aggregateType = ProviderAggregateType.orderOperation ∧
      command.aggregateId = o.operationId ∧ Associated o command := by
  simp only [operationCommandMismatch, Option.map_eq_none_iff, List.find?_eq_none,
    List.forall_mem_cons, Bool.not_eq_true', Bool.not_eq_false, decide_eq_true_eq] at h
  rcases h with ⟨hvalid, hstatus, _, hkind, haggregate, htenant, hcustomer, hsource,
    hexpected, hpayload, horder, htype, _⟩
  exact ⟨hvalid, hstatus, hkind, haggregate,
    ⟨htenant.symm, hcustomer.symm, hexpected, hsource, hpayload, horder, htype⟩⟩

structure QueueWrite (current updated : OrderOperation)
    (es : List OrderOperationEvent) : Prop extends
    OperationWrite current updated es where
  before : current.status = OperationRecordStatus.pendingConfirmation
  automatic : current.requiresManualReview = false
  frozen : updated.frozen = current.frozen

theorem queueOperationWithEventsAndCommand_served {scope : AccessScope}
    {current updated : OrderOperation} {es : List OrderOperationEvent}
    {command : ProviderCommandEnvelope} {db db' : Database}
    (hknown : Known current db) (hwrite : QueueWrite current updated es)
    (hids : forall e, e ∈ es -> db.ids.Issued e.eventId)
    (hcommandId : db.ids.Issued command.commandId)
    (h : queueOperationWithEventsAndCommand scope updated es command current.version
      db = Except.ok ((), db')) : Served D db db' := by
  simp only [queueOperationWithEventsAndCommand, Transaction.translate_eq_ok] at h
  cases hmatch : operationCommandMismatch updated es command current.version with
  | some message =>
      rw [hmatch] at h
      exact absurd h (by simp)
  | none =>
      rcases operationCommandMismatch_none hmatch with
        ⟨hvalid, hqueued, hkind, haggregate, hassociated⟩
      simp only [hmatch, Transaction.bind_eq_ok, validateOwnership,
        Transaction.require_eq_ok, Prod.mk.injEq] at h
      rcases h with ⟨_, _, ⟨_, _, ⟨_, _, rfl⟩, _, _, ⟨_, _, rfl⟩, _, _, ⟨_, _, rfl⟩, _,
        _, rfl⟩, _, db₁, hw, hins⟩
      rcases writeOperation_spec hknown hwrite.toOperationWrite hw with
        ⟨row, hwritten⟩
      rcases insertOutboxMessage_spec hvalid hins with ⟨hstep, htouch⟩
      have hread := (OrderOperation.ofRow?_eq_some hwritten.parsed).left
      have hfrozen : updated.frozen = row.frozen := by
        rw [hwrite.frozen, hread]
        rfl
      have hsteps := ((Steps.refl db).thenOperation rfl hwritten.touches hwritten.step
        (fun e he => (hids e he).mono hwritten.touches.ids)).thenOutbox rfl htouch
        hstep (fun x hx => by cases hx) (fun x hx => by
          cases hx
          exact hcommandId.mono (hwritten.touches.ids.trans htouch.ids))
      refine Served.of_steps hsteps (Combination.queueOperation
        ⟨hassociated.of_frozen hfrozen.symm, hkind, ?_, ?_, hqueued, ?_, ?_⟩
        hwritten.keys) ⟨id, id, id, trivial⟩
      · show command.aggregateId = row.operationId
        rw [haggregate, hwrite.id, hread]
      · have hbefore := hwrite.before
        rw [hread] at hbefore
        exact hbefore
      · have hautomatic := hwrite.automatic
        rw [hread] at hautomatic
        exact hautomatic
      · rfl

/-!
## Fallback
-/

theorem queueFailureKey_under (operationId : UUID) (word requestId : String) :
    KeyUnder ("provider-queue-failure:" ++ toString operationId)
      (queueFailureKey operationId word requestId) := by
  refine ⟨word ++ ":" ++ requestId, ?_⟩
  unfold queueFailureKey
  simp only [String.append_assoc]

theorem queueFailureKey_not_redrive (operationId : UUID) (word requestId : String) :
    ¬KeyUnder redriveHead (queueFailureKey operationId word requestId) :=
  not_redriveKey (Writer.colon_not_mem_head Writer.fallback) (by decide)
    (queueFailureKey_under operationId word requestId).fallback

theorem queueFailureKey_apart (operationId : UUID) (word requestId : String) :
    ¬KeyUnder Writer.delivery.head (queueFailureKey operationId word requestId) := by
  intro hunder
  cases Writer.eq_of_key hunder (queueFailureKey_under operationId word requestId).fallback

theorem queueFailureCase_spec {o : OrderOperation} {requestId : String} {now : Time}
    {db db' : Database} {found : SupportCase × QueueFailureAction}
    (ho : o.valid = true)
    (h : queueFailureCase o requestId now db = Except.ok (found, db')) :
    exists l, CaseEnsured o found.1.caseId
        (queueFailureKey o.operationId "case" requestId) l db db' ∧
      forall c c', l ≠ CaseLabel.update c c' [] := by
  unfold queueFailureCase at h
  simp only at h
  rw [Transaction.bind_eq_ok] at h
  rcases h with ⟨active, db₀, hactive, h⟩
  simp only [Transaction.read_eq_ok, Prod.mk.injEq] at hactive
  rcases hactive with ⟨hactive, rfl⟩
  cases active with
  | some row =>
      simp only [Transaction.bind_eq_ok, caseFromRow_eq_ok, Transaction.require_eq_ok,
        Transaction.pure_eq_ok, Prod.mk.injEq] at h
      rcases h with ⟨_, _, ⟨_, rfl, rfl⟩, _, db₁, hup, _, _, ⟨rfl, _, rfl⟩, eventId,
        db₂, hid, _, db₃, hins, rfl, rfl⟩
      rcases activeReviewCase_eq_some hactive with ⟨hmem, htenant, hthread, hkind⟩
      rcases updateCase_spec hup with ⟨r, hget, _, hrows, hevents, htouch, hentry⟩
      have hrow : r = row := by
        have hget' : db.cases.rows.get row.caseId = some r := hget
        rw [Table.get_of_mem hmem] at hget'
        exact (Option.some.inj hget').symm
      subst hrow
      have hchange : CaseUpdated r ((r.withQueueFailure now).setQueueFailure r) :=
        ⟨rfl, rfl, fun x hx => mem_withDeliveryFailed.mpr (Or.inl hx),
          Or.inr ⟨hkind, rfl⟩, fun x hx => ⟨x, hx, Nat.le_refl _⟩⟩
      have hreview : ReviewCase o ((r.withQueueFailure now).setQueueFailure r) :=
        ⟨mem_withDeliveryFailed.mpr (Or.inr rfl), hkind, htenant, hthread⟩
      have hensured := CaseEnsured.of_update (c := r) hget hchange hreview hrows hevents
        htouch hentry (newId_spec hid) (EventOnce.written _ _) (insertCaseEvent_spec hins)
        ⟨rfl, rfl, rfl⟩ (queueFailureKey_not_redrive _ _ _)
        (technicalReviewEvent_recounts rfl rfl (mem_withDeliveryFailed.mpr (Or.inr rfl)))
        (UpdateGround.technical hkind rfl rfl)
      exact ⟨_, hensured, fun c c' hl => (by cases hl)⟩
  | none =>
      simp only [Transaction.bind_eq_ok, Transaction.pure_eq_ok, Prod.mk.injEq] at h
      rcases h with ⟨caseId', db₁, hcase, eventId, db₂, hid, _, db₃, hins, _, db₄, hev,
        rfl, rfl⟩
      have hreview : ReviewCase o (technicalReviewCase o caseId' now) :=
        ⟨List.mem_singleton.mpr rfl, rfl, rfl, rfl⟩
      have hensured := CaseEnsured.of_create (newId_spec hcase) (newId_spec hid) hreview rfl
        (technicalReviewCase_valid ho) ⟨rfl, rfl, rfl⟩ hins hev
        (queueFailureKey_not_redrive _ _ _) rfl technicalReviewEvent_opens
        (OpenGround.technical rfl rfl rfl)
      exact ⟨_, hensured, fun c c' hl => (by cases hl)⟩

theorem queueFailureEvents_recorded {scope : AccessScope} {o row row' : OrderOperation}
    {caseId : UUID} {requestId : String} {first second third : UUID} {now : Time}
    (hstatus : o.status = OperationRecordStatus.pendingConfirmation)
    (hrow : row.status = o.status)
    (hafter : row'.status = OperationRecordStatus.manualReview) :
    Recorded row row' (queueFailureEvents scope o caseId requestId first second third
      now) := by
  refine Or.inr ⟨Or.inl ?_, _, rfl, ?_, ?_⟩
  · rw [hrow, hstatus, hafter]
    decide
  · rw [hrow]
    rfl
  · rw [hafter]
    rfl

theorem mem_queueFailureEvents {scope : AccessScope} {o : OrderOperation}
    {caseId : UUID} {requestId : String} {first second third : UUID} {now : Time}
    {e : OrderOperationEvent}
    (h : e ∈ queueFailureEvents scope o caseId requestId first second third now) :
    e.operationId = o.operationId ∧
      (exists word, e.idempotencyKey = queueFailureKey o.operationId word requestId) ∧
      (e.eventId = first ∨ e.eventId = second ∨ e.eventId = third) := by
  simp only [queueFailureEvents, List.mem_cons, List.not_mem_nil, or_false] at h
  rcases h with rfl | rfl | rfl
  · exact ⟨rfl, ⟨"confirmed", rfl⟩, Or.inl rfl⟩
  · exact ⟨rfl, ⟨"status", rfl⟩, Or.inr (Or.inl rfl)⟩
  · exact ⟨rfl, ⟨"case-attached", rfl⟩, Or.inr (Or.inr rfl)⟩

theorem Sound.no_replay {db : Database} (h : Sound db) {row : OrderOperation}
    {operationId : UUID} (hget : db.operations.rows.get operationId = some row)
    (hstatus : row.status = OperationRecordStatus.pendingConfirmation)
    (requestId : String) : queueFailureReplay db operationId requestId = false := by
  rw [queueFailureReplay, List.any_eq_false]
  intro e he hkey
  have hunder := queueFailureKey_under operationId "confirmed" requestId
  rw [← of_decide_eq_true hkey] at hunder
  rcases h.keyed.fallback e he operationId hunder with ⟨o, ho, hne⟩
  rw [hget] at ho
  cases ho
  exact hne hstatus

theorem moveToReview_served {scope : AccessScope} {row o : OrderOperation}
    {requestId : String} {now : Time} {db db' : Database}
    {result : ProviderQueueFailureResult}
    (hget : db.operations.rows.get o.operationId = some row)
    (hparsed : row.ofRow? = some o)
    (hstatus : o.status = OperationRecordStatus.pendingConfirmation)
    (h : moveToReview scope o requestId false now db = Except.ok (result, db')) :
    Served D db db' := by
  simp only [moveToReview, Transaction.bind_eq_ok, Transaction.require_eq_ok,
    Transaction.pure_eq_ok, Transaction.ite_eq_ok, Bool.false_eq_true, false_and,
    not_false_eq_true, true_and, false_or, Prod.mk.injEq] at h
  rcases h with ⟨found, db₁, hcase, _, db₂, hup, _, _, ⟨rfl, _, rfl⟩, first, db₄,
    hfirst, second, db₅, hsecond, third, db₆, hthird, _, db₃, hevents, _, rfl⟩
  rcases queueFailureCase_spec (OrderOperation.ofRow?_eq_some hparsed).right hcase with
    ⟨l, hensured, hloud⟩
  rcases hensured.result with ⟨c, hc, hcid, _⟩
  have hread := (OrderOperation.ofRow?_eq_some hparsed).left
  have hrowStatus : row.status = o.status := by rw [hread]
  have hrowId : row.operationId = o.operationId := by rw [hread]
  have hkeep : db₁.operations = db.operations := hensured.steps.operation.eq_of_keep
  rcases updateOperation_spec hup with
    ⟨r, hget', hversion, hchecks, hfree, hrows, hold, htouch⟩
  have hsame : r = row := by
    rw [hkeep, hget] at hget'
    exact (Option.some.inj hget').symm
  subst hsame
  have hdrawn := newId_spec hfirst
  have hdrawn' := newId_spec hsecond
  have hdrawn'' := newId_spec hthird
  have happended := ((hdrawn.eventsAppended.trans hdrawn'.eventsAppended).trans
    hdrawn''.eventsAppended).trans (insertOperationEvents_spec hevents)
  have hlast := (insertOperationEvents_spec hevents).touches.ids
  have hstep : OperationStep (OperationLabel.update Writer.fallback r
      (o.setReview found.1.caseId now r)
      (queueFailureEvents scope o found.1.caseId requestId first second third now))
      db₁.operations db₃.operations := by
    refine OperationStep.of_update ?_ hfree ?_ ?_ ?_ ⟨rfl, rfl, ?_, hchecks,
      queueFailureEvents_recorded hstatus hrowStatus rfl, ?_, ?_,
      fun hlegible => hlegible, Or.inl (Or.inl (hrowStatus.trans hstatus)),
      fun _ => ⟨Or.inl (hrowStatus.trans hstatus), id⟩⟩
    · rw [hkeep, hrowId]
      exact hget
    · rw [happended.rows, hrows]
    · rw [happended.appended, hold]
      rfl
    · have hunused := happended.unused
      rw [hold] at hunused
      exact hunused
    · show o.version + 1 = r.version + 1
      rw [of_decide_eq_true hversion]
    · intro e he
      rw [(mem_queueFailureEvents he).left, hrowId]
    · intro e he
      rcases (mem_queueFailureEvents he).right.left with ⟨word, hkey⟩
      rw [hkey]
      exact (queueFailureKey_under _ _ _).fallback
  refine Served.of_steps (hensured.steps.thenOperation rfl
    (htouch.trans happended.touches) hstep ?_)
    (Combination.fallback ⟨?_, rfl, rfl, ⟨c, hc, ?_⟩, hensured.keyed.ground, ?_⟩
      hensured.writes ?_)
    ⟨id, id, id, hensured.keyed.ground.mono fun _ hd => hd.elim⟩
    fun c₁ c₂ hl => absurd hl (hloud c₁ c₂)
  · intro e he
    rcases (mem_queueFailureEvents he).right.right with hid | hid | hid
    · rw [hid]
      exact hdrawn.issued.mono ((hdrawn'.ids.trans hdrawn''.ids).trans hlast)
    · rw [hid]
      exact hdrawn'.issued.mono (hdrawn''.ids.trans hlast)
    · rw [hid]
      exact hdrawn''.issued.mono hlast
  · rw [hrowStatus, hstatus]
  · show some found.1.caseId = some c.caseId
    rw [hcid]
  · intro e he
    rw [hensured.keyed.keys e he]
    exact queueFailureKey_apart _ _ _
  · intro e he
    rcases (mem_queueFailureEvents he).right.left with ⟨word, hkey⟩
    rw [hkey, hrowId]
    exact queueFailureKey_under _ _ _

theorem moveOnce_served {scope : AccessScope} {operationId : UUID}
    {requestId : String} {now : Time} {db db' : Database}
    {result : ProviderQueueFailureResult} (hsound : Sound db)
    (h : moveOnce scope operationId requestId now db = Except.ok (result, db')) :
    Served D db db' := by
  simp only [moveOnce, Transaction.bind_eq_ok, Transaction.fetch_eq_ok,
    operationFromRow_eq_ok, Transaction.require_eq_ok, Transaction.read_eq_ok,
    Prod.mk.injEq] at h
  rcases h with ⟨row, _, ⟨hget, rfl⟩, o, _, ⟨hparsed, rfl⟩, _, _, ⟨_, _, rfl⟩, replay, _,
    ⟨hreplay, rfl⟩, h⟩
  have hread := (OrderOperation.ofRow?_eq_some hparsed).left
  have hgetRow : db.operations.rows.get o.operationId = some row := by
    rw [hread]
    show db.operations.rows.get row.operationId = some row
    rw [Table.get_key hget]
    exact hget
  have hmove : o.status = OperationRecordStatus.pendingConfirmation ->
      moveToReview scope o requestId replay now db = Except.ok (result, db') ->
      Served D db db' := by
    intro hstatus hmoved
    have hrow : row.status = OperationRecordStatus.pendingConfirmation := by
      rw [← hstatus, hread]
    rw [← hreplay, hsound.no_replay hget hrow] at hmoved
    exact moveToReview_served hgetRow hparsed hstatus hmoved
  cases hcase : o.supportCaseId with
  | none =>
      simp only [hcase, Transaction.bind_eq_ok, Transaction.require_eq_ok,
        Prod.mk.injEq] at h
      rcases h with ⟨_, _, ⟨hstatus, _, rfl⟩, hmoved⟩
      exact hmove hstatus hmoved
  | some caseId =>
      simp only [hcase, Transaction.ite_eq_ok, Transaction.bind_eq_ok,
        Transaction.require_eq_ok, Prod.mk.injEq] at h
      rcases h with ⟨_, hlinked⟩ | ⟨_, _, _, ⟨hstatus, _, rfl⟩, hmoved⟩
      · simp only [linkedReviewCase, Transaction.bind_eq_ok, Transaction.fetch_eq_ok,
          caseFromRow_eq_ok, Transaction.require_eq_ok, Transaction.pure_eq_ok,
          Prod.mk.injEq] at hlinked
        rcases hlinked with ⟨_, _, ⟨_, rfl⟩, _, _, ⟨_, _, rfl⟩, _, _, ⟨_, _, rfl⟩, _, rfl⟩
        exact Served.refl db
      · exact hmove hstatus hmoved

end RefundAgent
