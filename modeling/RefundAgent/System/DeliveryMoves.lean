import RefundAgent.System.Work

/-!
# Deliveries as moves

What the outbox repository and the outbox finalizer do to the database.
-/

namespace RefundAgent

open Foundation

/-!
## The aggregate of a settled command
-/

theorem commandKey_under (claimed : ClaimedOutboxMessage) (suffix : String) :
    KeyUnder Writer.delivery.head (commandKey claimed suffix) := by
  refine ⟨toString claimed.commandId ++ ":cycle:" ++ toString claimed.deliveryCycle ++
    ":" ++ suffix, ?_⟩
  have hhead : "provider-command:" = Writer.delivery.head ++ ":" := rfl
  unfold commandKey
  rw [hhead]
  simp only [String.append_assoc]

theorem commandKey_not_redrive (claimed : ClaimedOutboxMessage) (suffix : String) :
    ¬KeyUnder redriveHead (commandKey claimed suffix) :=
  not_redriveKey (Writer.colon_not_mem_head Writer.delivery) (by decide)
    (commandKey_under claimed suffix)

theorem mem_withDeliveryFailed {reasons : List HandoffReason} {r : HandoffReason} :
    r ∈ withDeliveryFailed reasons ↔
      r ∈ reasons ∨ r = HandoffReason.providerDeliveryFailed := by
  unfold withDeliveryFailed
  rw [mem_fromKeys, List.mem_append, List.mem_singleton]

theorem activeReviewCase_eq_some {db : Database} {tenantId threadId : CleanText}
    {c : SupportCase} (h : activeReviewCase db tenantId threadId = some c) :
    c ∈ db.cases.rows.rows ∧ c.tenantId = tenantId ∧ c.threadId = threadId ∧
      c.caseType = CaseType.orderOperationReview := by
  have hp := List.find?_some h
  simp only [Bool.and_eq_true, decide_eq_true_eq] at hp
  exact ⟨List.mem_of_find?_eq_some h, hp.left.left.left, hp.left.left.right,
    hp.left.right⟩

/-- A case step that no handoff decides, with its event under the given key. -/
structure CaseKeyed (key : String) (l : CaseLabel) (db : Database) : Prop where
  ground : l.Grounded fun _ => False
  keys : forall e, e ∈ l.events -> e.idempotencyKey = key
  silent : forall c c', l = CaseLabel.update c c' [] ->
    exists x, x ∈ db.cases.events.rows ∧ x.idempotencyKey = key

structure CaseEnsured (o : OrderOperation) (caseId : UUID) (key : String)
    (l : CaseLabel) (db db' : Database) : Prop where
  steps : Steps { case := l } db db'
  writes : l.writes
  result : exists c, l.result = some c ∧ c.caseId = caseId ∧ ReviewCase o c
  keyed : CaseKeyed key l db

theorem CaseEnsured.of_update {o : OrderOperation} {c c' : SupportCase}
    {es : List SupportCaseEvent} {e : SupportCaseEvent} {db db₁ db₂ db' : Database}
    (hget : db.cases.rows.get c.caseId = some c) (hchange : CaseUpdated c c')
    (hreview : ReviewCase o c') (hrows : db₁.cases.rows = db.cases.rows.put c')
    (hevents : db₁.cases.events = db.cases.events)
    (htouch : Touches Group.cases db db₁) (hentry : CaseAdmitted db c')
    (hdrawn : Drawn e.eventId db₁ db₂) (honce : EventOnce e es db₂)
    (hwritten : CaseEventsWritten es db₂ db') (howner : OfCase c e)
    (hkey : ¬KeyUnder redriveHead e.idempotencyKey) (htold : Recounts c.facts c' e)
    (hground : UpdateGround (fun _ => False) c c') :
    CaseEnsured o c.caseId e.idempotencyKey (CaseLabel.update c c' es) db db' := by
  refine ⟨?_, trivial, ⟨c', rfl, caseId_of_frozen hchange.frozen, hreview⟩, hground, ?_, ?_⟩
  · refine (Steps.refl db).thenCase rfl
      ((htouch.trans (hdrawn.touches _)).trans hwritten.touches)
      (CaseStep.update hget hchange hentry.checks hentry.free ?_ ?_ ⟨?_, ?_⟩ ?_ ?_
        honce.single) ?_
    · intro d hd
      rw [honce.events d hd]
      exact howner
    · rw [hwritten.rows, hdrawn.cases, hrows]
    · rw [hwritten.appended, hdrawn.cases, hevents]
    · have hunused := hwritten.unused
      rw [hdrawn.cases, hevents] at hunused
      exact hunused
    · intro d hd
      rw [honce.events d hd]
      exact hkey
    · intro d hd
      rw [honce.events d hd]
      exact htold
    · intro d hd
      rw [honce.events d hd]
      exact hdrawn.issued.mono hwritten.touches.ids
  · intro d hd
    rw [honce.events d hd]
  · intro c₁ c₂ hl
    cases hl
    have hpresent := honce.silent rfl
    rw [hdrawn.cases, hevents] at hpresent
    exact hpresent

theorem CaseEnsured.of_create {o : OrderOperation} {c : SupportCase}
    {e : SupportCaseEvent} {caseId eventId : UUID} {db db₁ db₂ db₃ db' : Database}
    (hcase : Drawn caseId db db₁) (hdrawn : Drawn eventId db₁ db₂)
    (hreview : ReviewCase o c) (hcaseId : c.caseId = caseId)
    (hvalid : c.checks = true -> c.valid = true) (howner : OfCase c e)
    (hins : insertCase c db₂ = Except.ok ((), db₃))
    (hev : insertCaseEvent e db₃ = Except.ok ((), db'))
    (hkey : ¬KeyUnder redriveHead e.idempotencyKey) (hid : e.eventId = eventId)
    (htold : Recounts CaseFacts.unknown c e) (hground : OpenGround (fun _ => False) c) :
    CaseEnsured o c.caseId e.idempotencyKey (CaseLabel.create c e) db db' := by
  rcases insertCase_spec hins with ⟨hrows, hevents, htouch, hentry⟩
  have hwritten := insertCaseEvent_spec hev
  have hfree : ¬CaseTaken db.cases c := by
    rw [← hcase.cases, ← hdrawn.cases]
    exact hentry.free
  refine ⟨?_, trivial, ⟨c, rfl, rfl, hreview⟩, hground,
    fun d hd => congrArg _ (List.mem_singleton.mp hd), fun c₁ c₂ hl => (by cases hl)⟩
  refine (Steps.refl db).thenCase rfl
    (((hcase.touches _).trans (hdrawn.touches _)).trans
      (htouch.trans hwritten.touches)) (CaseStep.create ?_ (hvalid hentry.checks)
        hentry.checks hfree howner ⟨?_, ?_⟩ hkey htold) ?_ ?_
  · rw [hwritten.rows, ← hrows, hdrawn.cases, hcase.cases]
  · rw [hwritten.appended, hevents, hdrawn.cases, hcase.cases]
  · have hunused := hwritten.unused
    rw [hevents, hdrawn.cases, hcase.cases] at hunused
    exact hunused
  · intro d hd
    rw [List.mem_singleton.mp hd, hid]
    exact hdrawn.issued.mono (htouch.trans hwritten.touches).ids
  · intro x hx
    cases hx
    rw [hcaseId]
    exact hcase.issued.mono (hdrawn.ids.trans (htouch.trans hwritten.touches).ids)

theorem technicalReviewCase_valid {o : OrderOperation} (ho : o.valid = true)
    {caseId : UUID} {now : Time} (h : (technicalReviewCase o caseId now).checks = true) :
    (technicalReviewCase o caseId now).valid = true := by
  refine SupportCase.valid_of_checks h ?_ (Nat.le_refl 1)
  simp only [OrderOperation.valid, Bool.and_eq_true, decide_eq_true_eq] at ho
  exact ho.left.left.left.right

theorem technicalReviewEvent_recounts {o : OrderOperation} {case c c' : SupportCase}
    {eventId : UUID} {key : String} {actor : Option String} {now : Time}
    (hstatus : case.status = c.status)
    (hfacts : c'.facts = { c.facts with priority := some CasePriority.p1 })
    (hreason : HandoffReason.providerDeliveryFailed ∈ c'.reasonCodes) :
    Recounts c.facts c' (technicalReviewEvent o case eventId key
      CaseEventType.triggerAppended (some c.priority) actor now) where
  facts := by
    rw [hfacts]
    show CaseFacts.mk (some case.status) c.onHoldReason (some CasePriority.p1)
      c.assignedAgentId = _
    rw [hstatus]
    rfl
  recalled := ⟨fun s hs => (by cases hs), fun p hp => hp, fun a ha => (by cases ha)⟩
  reasons := by
    intro r hr
    rw [List.mem_singleton.mp hr]
    exact hreason

theorem technicalReviewEvent_opens {o : OrderOperation} {caseId eventId : UUID}
    {key : String} {actor : Option String} {now now' : Time} :
    Recounts CaseFacts.unknown (technicalReviewCase o caseId now)
      (technicalReviewEvent o (technicalReviewCase o caseId now) eventId key
        CaseEventType.caseCreated none actor now') where
  facts := rfl
  recalled := ⟨fun s hs => (by cases hs), fun p hp => (by cases hp),
    fun a ha => (by cases ha)⟩
  reasons := fun _ hr => hr

theorem ensureTechnicalReviewCase_spec {claimed : ClaimedOutboxMessage}
    {o : OrderOperation} {now : Time} {db db' : Database} {caseId : UUID}
    (ho : o.valid = true)
    (h : ensureTechnicalReviewCase claimed o now db = Except.ok (caseId, db')) :
    exists l, CaseEnsured o caseId (commandKey claimed "technical-review") l db db' := by
  unfold ensureTechnicalReviewCase at h
  rw [Transaction.bind_eq_ok] at h
  rcases h with ⟨found, db₀, hfound, h⟩
  simp only [Transaction.read_eq_ok, Prod.mk.injEq] at hfound
  rcases hfound with ⟨hfound, rfl⟩
  cases found with
  | some row =>
      simp only [Transaction.bind_eq_ok, caseFromRow_eq_ok, Transaction.require_eq_ok,
        Transaction.pure_eq_ok, Prod.mk.injEq] at h
      rcases h with ⟨_, _, ⟨_, rfl, rfl⟩, _, db₁, hup, _, _, ⟨rfl, _, rfl⟩, eventId,
        db₂, hid, _, db₃, hins, rfl, rfl⟩
      rcases activeReviewCase_eq_some hfound with ⟨hmem, htenant, hthread, hkind⟩
      rcases updateCase_spec hup with ⟨r, hget, _, hrows, hevents, htouch, hentry⟩
      have hrow : r = row := by
        rw [Table.get_of_mem hmem] at hget
        exact (Option.some.inj hget).symm
      subst hrow
      have hdrawn := newId_spec hid
      rcases insertCaseEventOnce_spec hins with ⟨es, honce, hwritten⟩
      have hchange : CaseUpdated r (SupportCase.setTechnicalReview r now r) :=
        ⟨rfl, rfl, fun x hx => mem_withDeliveryFailed.mpr (Or.inl hx),
          Or.inr ⟨hkind, rfl⟩, fun x hx => ⟨x, hx, Nat.le_refl _⟩⟩
      have hreview : ReviewCase o (SupportCase.setTechnicalReview r now r) :=
        ⟨mem_withDeliveryFailed.mpr (Or.inr rfl), hkind, htenant, hthread⟩
      exact ⟨_, CaseEnsured.of_update hget hchange hreview hrows hevents htouch hentry
        hdrawn honce hwritten ⟨rfl, rfl, rfl⟩ (commandKey_not_redrive claimed _)
        (technicalReviewEvent_recounts rfl rfl (mem_withDeliveryFailed.mpr (Or.inr rfl)))
        (UpdateGround.technical hkind rfl rfl)⟩
  | none =>
      simp only [Transaction.bind_eq_ok, Transaction.pure_eq_ok, Prod.mk.injEq] at h
      rcases h with ⟨caseId', db₁, hcase, eventId, db₂, hid, _, db₃, hins, _, db₄, hev,
        rfl, rfl⟩
      have hreview : ReviewCase o (technicalReviewCase o caseId' now) :=
        ⟨List.mem_singleton.mpr rfl, rfl, rfl, rfl⟩
      have hensured := CaseEnsured.of_create (newId_spec hcase) (newId_spec hid) hreview rfl
        (technicalReviewCase_valid ho) ⟨rfl, rfl, rfl⟩ hins hev
        (commandKey_not_redrive claimed _) rfl technicalReviewEvent_opens
        (OpenGround.technical rfl rfl rfl)
      exact ⟨_, hensured⟩

theorem reviewCaseOf_spec {claimed : ClaimedOutboxMessage} {o : OrderOperation}
    {newStatus : OperationRecordStatus} {now : Time} {db db' : Database}
    {supportCaseId : Option UUID} (ho : o.valid = true)
    (h : reviewCaseOf claimed o newStatus now db = Except.ok (supportCaseId, db')) :
    exists l, Steps { case := l } db db' ∧ (l.writes ∨ l = CaseLabel.keep) ∧
      CaseKeyed (commandKey claimed "technical-review") l db ∧
      (newStatus = OperationRecordStatus.manualReview -> o.supportCaseId = none ->
        exists c, l.result = some c ∧ supportCaseId = some c.caseId ∧
          ReviewCase o c) := by
  unfold reviewCaseOf at h
  simp only [Transaction.ite_eq_ok, Transaction.bind_eq_ok, Transaction.pure_eq_ok,
    Prod.mk.injEq] at h
  rcases h with ⟨_, caseId, db₁, hensure, hid, rfl⟩ | ⟨hno, _, rfl⟩
  · rcases ensureTechnicalReviewCase_spec ho hensure with ⟨l, hl⟩
    refine ⟨l, hl.steps, Or.inl hl.writes, hl.keyed, fun _ _ => ?_⟩
    rcases hl.result with ⟨c, hc, hcid, hreview⟩
    exact ⟨c, hc, by rw [← hid, hcid], hreview⟩
  · exact ⟨CaseLabel.keep, Steps.refl db, Or.inr rfl,
      ⟨trivial, fun e he => (by cases he), fun c c' hl => (by cases hl)⟩,
      fun hs hn => absurd ⟨hs, hn⟩ hno⟩

/-- Events that belong to an operation and record no status change. -/
structure SideEvents (w : Writer) (operationId : UUID)
    (es : List OrderOperationEvent) (db' : Database) : Prop where
  owner : forall e, e ∈ es -> e.operationId = operationId
  quiet : es.filter OrderOperationEvent.isStatusChange = []
  keys : forall e, e ∈ es -> KeyUnder w.head e.idempotencyKey
  issued : forall e, e ∈ es -> db'.ids.Issued e.eventId

theorem recordAttachedCase_spec {claimed : ClaimedOutboxMessage}
    {o : OrderOperation} {newStatus : OperationRecordStatus}
    {supportCaseId : Option UUID} {now : Time} {db db' : Database}
    (h : recordAttachedCase claimed o newStatus supportCaseId now db =
      Except.ok ((), db')) :
    exists es, EventsAppended es db db' ∧
      SideEvents Writer.delivery o.operationId es db' := by
  have hnone : db = db' -> exists es, EventsAppended es db db' ∧
      SideEvents Writer.delivery o.operationId es db' := by
    intro hsame
    subst hsame
    exact ⟨[], EventsAppended.refl db, by simp, rfl, by simp, by simp⟩
  unfold recordAttachedCase at h
  cases supportCaseId with
  | none =>
      simp only [Transaction.pure_eq_ok, Prod.mk.injEq] at h
      exact hnone h.right
  | some caseId =>
      simp only [Transaction.ite_eq_ok, Transaction.bind_eq_ok, Transaction.pure_eq_ok,
        Prod.mk.injEq] at h
      rcases h with ⟨_, eventId, db₁, hid, hins⟩ | ⟨_, _, hsame⟩
      · have hdrawn := newId_spec hid
        have happended := insertOperationEvent_spec hins
        refine ⟨_, hdrawn.eventsAppended.trans happended, ?_⟩
        refine ⟨?_, rfl, ?_, ?_⟩
        · intro e he
          rw [List.mem_singleton.mp he]
          rfl
        · intro e he
          rw [List.mem_singleton.mp he]
          exact commandKey_under claimed _
        · intro e he
          rw [List.mem_singleton.mp he]
          exact hdrawn.issued.mono happended.touches.ids
      · exact hnone hsame

structure OperationFinalized (claimed : ClaimedOutboxMessage) (target : FinalTarget)
    (failureKind : Option ProviderFailureKind) (o o' : OrderOperation)
    (es : List OrderOperationEvent) (l : CaseLabel) (db db' : Database) : Prop where
  steps : Steps
    { operation := OperationLabel.update Writer.delivery o o' es, case := l } db db'
  writes : l.writes ∨ l = CaseLabel.keep
  aggregate : o.operationId = claimed.aggregateId
  tenant : o.tenantId = claimed.tenantId
  before : o.status = OperationRecordStatus.queued
  after : o'.status = finalStatus target failureKind
  review : o'.status = OperationRecordStatus.manualReview ->
    o'.requiresManualReview = true ∧
      (o.supportCaseId = none -> exists c, l.result = some c ∧
        o'.supportCaseId = some c.caseId ∧ ReviewCase o c)
  keyed : CaseKeyed (commandKey claimed "technical-review") l db
  recorded : exists e, e ∈ es ∧ e.idempotencyKey = commandKey claimed "status"

theorem finalStatus_allowed (target : FinalTarget)
    (failureKind : Option ProviderFailureKind) :
    finalStatus target failureKind ∈
      allowedStatusTransitions OperationRecordStatus.queued := by
  unfold finalStatus
  split
  · decide
  · split <;> decide

theorem textAccepted_of_parse {model : String} {reference : Option String}
    {db : Database} {r : Option CleanText × Database}
    (h : parseReference model reference db = Except.ok r) (s : String)
    (hs : reference = some s) : textAccepted s = true := by
  subst hs
  have htext := (parseReference_eq_ok h).left
  cases hr : r.1 with
  | none =>
      rw [hr] at htext
      cases htext
  | some t =>
      rw [hr] at htext
      simp only [Option.map_some, Option.some.injEq] at htext
      unfold textAccepted
      rw [← htext]
      exact decide_eq_true t.clean.right

theorem ReviewCase.of_row {row o : OrderOperation} {c : SupportCase}
    (hrow : row.ofRow? = some o) (h : ReviewCase o c) : ReviewCase row c := by
  rcases OrderOperation.ofRow?_eq_some hrow with ⟨rfl, _⟩
  exact ⟨h.reason, h.kind, h.tenant, h.thread⟩

theorem finalStatus_unanswered {target : FinalTarget}
    {failureKind : Option ProviderFailureKind}
    (h : (finalStatus target failureKind).unanswered) :
    finalStatus target failureKind = OperationRecordStatus.manualReview := by
  unfold OperationRecordStatus.unanswered finalStatus at h
  unfold finalStatus
  split at h
  · rcases h with h | h | h <;> cases h
  · rename_i hdead
    rw [if_neg hdead]
    split at h
    · rcases h with h | h | h <;> cases h
    · rename_i hother
      rw [if_neg hother]

theorem finalizeOperation_spec {claimed : ClaimedOutboxMessage} {target : FinalTarget}
    {providerResult : Option ProviderCommandResult}
    {failureKind : Option ProviderFailureKind} {now : Time} {db db' : Database}
    (h : finalizeOperation claimed target providerResult failureKind now db =
      Except.ok ((), db'))
    (hresult : finalStatus target failureKind = OperationRecordStatus.manualReview ->
      providerResult = none) :
    (exists o o' es l, OperationFinalized claimed target failureKind o o' es l db db') ∧
      forall s, (providerResult.bind fun r => r.providerReference) = some s ->
        textAccepted s = true := by
  simp only [finalizeOperation, Transaction.bind_eq_ok, Transaction.fetch_eq_ok,
    operationFromRow_eq_ok, Transaction.require_eq_ok, Prod.mk.injEq] at h
  rcases h with ⟨row, _, ⟨hget, rfl⟩, o, _, ⟨hrow, rfl⟩, _, _, ⟨⟨htenant, hqueued⟩, _, rfl⟩,
    supportCaseId, db₁, hcase, _, db₂, hup, _, _, ⟨rfl, _, rfl⟩, eventId, db₃, hid,
    reference, db₄, hparse, _, db₅, hstatus, hattach⟩
  rcases OrderOperation.ofRow?_eq_some hrow with ⟨ho, hvalid⟩
  rcases reviewCaseOf_spec hvalid hcase with ⟨l, hl, hwrites, hkeyed, hreview⟩
  rcases updateOperation_spec hup with ⟨r, hr, _, hchecks, hfree, hrows, hevents, htouch⟩
  have hdrawn := newId_spec hid
  rcases parseReference_eq_ok hparse with ⟨hparsed, hdb₄⟩
  simp only at hparsed hdb₄
  subst hdb₄
  have happended := insertOperationEvent_spec hstatus
  rcases recordAttachedCase_spec hattach with ⟨es, hside, hquiet⟩
  have hall := (hdrawn.eventsAppended.trans happended).trans hside
  have hops : db₁.operations = db.operations := hl.operation.eq_of_keep
  have hid' : o.operationId = row.operationId := by rw [ho]
  have hstatus' : o.status = row.status := by rw [ho]
  have hversion : o.version = row.version := by rw [ho]
  have hsupport : o.supportCaseId = row.supportCaseId := by rw [ho]
  have hkey := Table.get_key hget
  have hrr : r = row := by
    rw [hops, hid', hkey, hget] at hr
    exact (Option.some.inj hr).symm
  subst hrr
  refine ⟨⟨r, o.setFinalized (finalStatus target failureKind) supportCaseId
      (finalReference providerResult o) now r,
    [statusChangedEvent o eventId (commandKey claimed "status")
      (finalStatus target failureKind) reference "system" now] ++ es, l, ?_, hwrites,
    hkey, ?_, ?_, rfl, ?_, hkeyed, _, List.mem_cons_self, rfl⟩, ?_⟩
  · refine hl.thenOperation rfl (htouch.trans hall.touches)
      (OperationStep.of_update ?_ hfree ?_ ?_ ?_ ?_) ?_
    · rw [hops, hkey]
      exact hget
    · rw [hall.rows, hrows]
    · rw [hall.appended, hevents]
      rfl
    · have hunused := hall.unused
      rw [hevents] at hunused
      exact hunused
    · constructor
      · rfl
      · rfl
      · exact congrArg (· + 1) hversion
      · exact hchecks
      · refine Or.inr ⟨Or.inl ?_, statusChangedEvent o eventId
          (commandKey claimed "status") (finalStatus target failureKind) reference
          "system" now, ?_, congrArg some hstatus', rfl⟩
        · rw [← hstatus', hqueued]
          exact finalStatus_allowed target failureKind
        · rw [List.filter_append, hquiet.quiet]
          rfl
      · intro e he
        rcases List.mem_append.mp he with he | he
        · rw [List.mem_singleton.mp he]
          exact hid'
        · exact (hquiet.owner e he).trans hid'
      · intro e he
        rcases List.mem_append.mp he with he | he
        · rw [List.mem_singleton.mp he]
          exact commandKey_under claimed _
        · exact hquiet.keys e he
      · have hwaiting : r.status.unanswered :=
          Or.inr (Or.inl (hstatus'.symm.trans hqueued))
        refine ⟨fun _ => OrderOperation.legible_of_parsed hparsed, Or.inl hwaiting,
          fun hafter => ⟨hwaiting, fun hempty => ?_⟩⟩
        -- a result that leaves the operation to a review has no reference
        show finalReference providerResult o = none
        rw [hresult (finalStatus_unanswered hafter), ho]
        show r.providerReference.map Text.trim = none
        rw [hempty]
        rfl
    · intro e he
      rcases List.mem_append.mp he with he | he
      · rw [List.mem_singleton.mp he]
        exact hdrawn.issued.mono (happended.touches.trans hside.touches).ids
      · exact hquiet.issued e he
  · rw [← htenant, ho]
  · rw [← hstatus', hqueued]
  · intro hmanual
    have hmanual : finalStatus target failureKind =
        OperationRecordStatus.manualReview := hmanual
    refine ⟨?_, ?_⟩
    · simp [OrderOperation.setFinalized, hmanual]
    · intro hnone
      rcases hreview hmanual (hsupport.trans hnone) with ⟨c, hc, hcid, hrc⟩
      exact ⟨c, hc, hcid, hrc.of_row hrow⟩
  · intro s hs
    refine textAccepted_of_parse hparse s ?_
    cases providerResult with
    | none => cases hs
    | some result => exact hs

structure CaseFinalized (claimed : ClaimedOutboxMessage) (target : FinalTarget)
    (c : SupportCase) (ev : SupportCaseEvent) (l : CaseLabel) (db db' : Database) :
    Prop where
  steps : Steps { case := l } db db'
  label : l = CaseLabel.record c ev ∨ exists c₀, l = CaseLabel.update c₀ c [ev]
  case : c.caseId = claimed.aggregateId
  event : ev.caseId = c.caseId ∧ ev.eventType = CaseEventType.providerUpdate ∧
    ev.providerCommandId = some claimed.commandId
  key : ev.idempotencyKey = commandKey claimed target.word
  reason : target = FinalTarget.dead ->
    HandoffReason.providerDeliveryFailed ∈ c.reasonCodes
  published : target ≠ FinalTarget.dead -> l = CaseLabel.record c ev
  undelivered : forall c₀, l = CaseLabel.update c₀ c [ev] -> Undelivered c₀ c

theorem providerUpdateEvent_recounts {case c c' : SupportCase} {eventId : UUID}
    {key : String} {commandId : UUID} {status : ProviderCommandExecutionStatus}
    {reference : Option CleanText} {now : Time} (h : c'.facts = c.facts) :
    Recounts c.facts c' (providerUpdateEvent case eventId key commandId status reference
      now) where
  facts := by
    rw [h]
    rfl
  recalled := ⟨fun s hs => (by cases hs), fun p hp => (by cases hp),
    fun a ha => (by cases ha)⟩
  reasons := fun r hr => (by cases hr)

theorem finalizeCase_spec {claimed : ClaimedOutboxMessage} {target : FinalTarget}
    {providerResult : Option ProviderCommandResult} {now : Time} {db db' : Database}
    (h : finalizeCase claimed target providerResult now db = Except.ok ((), db')) :
    (exists c ev l, CaseFinalized claimed target c ev l db db') ∧
      forall s, (providerResult.bind fun r => r.providerReference) = some s ->
        textAccepted s = true := by
  simp only [finalizeCase, Transaction.bind_eq_ok, Transaction.fetch_eq_ok,
    caseFromRow_eq_ok, Transaction.require_eq_ok, Prod.mk.injEq] at h
  rcases h with ⟨row, _, ⟨hget, rfl⟩, _, _, ⟨_, rfl, rfl⟩, _, _, ⟨⟨_, hkind⟩, _, rfl⟩, _,
    db₁, hrecord, eventId, db₂, hid, reference, db₃, hparse, hins⟩
  have hdrawn := newId_spec hid
  have hdb₃ : db₃ = db₂ := (parseReference_eq_ok hparse).right
  subst hdb₃
  have hwritten := insertCaseEvent_spec hins
  have hkey := Table.get_key hget
  refine ⟨?_, textAccepted_of_parse hparse⟩
  unfold recordDeliveryFailed at hrecord
  simp only [Transaction.ite_eq_ok, Transaction.bind_eq_ok, Transaction.require_eq_ok,
    Transaction.pure_eq_ok, Prod.mk.injEq] at hrecord
  rcases hrecord with ⟨hdead, _, _, hup, rfl, _, rfl⟩ | ⟨hno, _, rfl⟩
  · rcases updateCase_spec hup with ⟨r, hr, _, hrows, hevents, htouch, hentry⟩
    have hrr : r = row := by
      rw [hkey, hget] at hr
      exact (Option.some.inj hr).symm
    subst hrr
    refine ⟨SupportCase.setDeliveryFailed r now r, providerUpdateEvent r eventId
        (commandKey claimed target.word) claimed.commandId target.commandStatus
        reference now, _, ?_, Or.inr ⟨r, rfl⟩, hkey, ⟨rfl, rfl, rfl⟩, rfl, ?_,
      fun hlive => absurd hdead.left hlive, ?_⟩
    · refine (Steps.refl db).thenCase rfl
        ((htouch.trans (hdrawn.touches _)).trans hwritten.touches)
        (CaseStep.update (by rw [hkey]; exact hget)
          ⟨rfl, rfl, fun x hx => List.mem_append_left _ hx, Or.inl (Nat.le_refl _),
            fun x hx => ⟨x, hx, Nat.le_refl _⟩⟩
          hentry.checks hentry.free
          (fun e he => by rw [List.mem_singleton.mp he]; exact ⟨rfl, rfl, rfl⟩)
          ?_ ⟨?_, ?_⟩ ?_ ?_ (Nat.le_refl 1)) ?_
      · rw [hwritten.rows, hdrawn.cases, hrows]
      · rw [hwritten.appended, hdrawn.cases, hevents]
      · have hunused := hwritten.unused
        rw [hdrawn.cases, hevents] at hunused
        exact hunused
      · intro e he
        rw [List.mem_singleton.mp he]
        exact commandKey_not_redrive claimed _
      · intro e he
        rw [List.mem_singleton.mp he]
        exact providerUpdateEvent_recounts rfl
      · intro e he
        rw [List.mem_singleton.mp he]
        exact hdrawn.issued.mono hwritten.touches.ids
    · intro _
      exact List.mem_append_right _ (List.mem_singleton.mpr rfl)
    · intro c₀ hl
      cases hl
      exact ⟨hkind, hdead.right, rfl, rfl⟩
  · refine ⟨row, providerUpdateEvent row eventId
        (commandKey claimed target.word) claimed.commandId target.commandStatus
        reference now, _, ?_, Or.inl rfl, hkey, ⟨rfl, rfl, rfl⟩, rfl, ?_, fun _ => rfl,
      fun c₀ hl => (by cases hl)⟩
    · refine (Steps.refl db).thenCase rfl ((hdrawn.touches _).trans hwritten.touches)
        (CaseStep.record (by rw [hkey]; exact hget) ⟨rfl, rfl, rfl⟩ ?_ ⟨?_, ?_⟩
          (commandKey_not_redrive claimed _) (providerUpdateEvent_recounts rfl)) ?_
      · rw [hwritten.rows, hdrawn.cases]
      · rw [hwritten.appended, hdrawn.cases]
      · have hunused := hwritten.unused
        rw [hdrawn.cases] at hunused
        exact hunused
      · intro e he
        rw [List.mem_singleton.mp he]
        exact hdrawn.issued.mono hwritten.touches.ids
    · intro htarget
      by_contra hmem
      exact hno ⟨htarget, hmem⟩

/-!
## Statements on the outbox
-/

theorem updateOutbox_spec {commandId : UUID} {p : OutboxMessage -> Bool}
    {f : OutboxMessage -> OutboxMessage} {db db' : Database}
    (h : updateOutbox commandId p f db = Except.ok (1, db')) :
    exists r, db.outbox.messages.get commandId = some r ∧ p r = true ∧
      db'.outbox = { db.outbox with messages := db.outbox.messages.put (f r) } ∧
      Touches Group.outbox db db' := by
  rcases updateOutbox_one.mp h with ⟨r, hget, hp, rfl⟩
  exact ⟨r, hget, hp, rfl, fun _ => rfl, fun _ => rfl, fun hg => absurd rfl hg,
    fun _ => rfl, rfl, db.ids.extends_refl⟩

theorem updateDeliveryAttempts_spec {p : OutboxDeliveryAttempt -> Bool}
    {f : OutboxDeliveryAttempt -> OutboxDeliveryAttempt}
    {hf : forall a, (f a).attemptId = a.attemptId} {db db' : Database}
    (h : updateDeliveryAttempts p f hf db = Except.ok (1, db')) :
    exists a, db.outbox.attempts.get a.attemptId = some a ∧ p a = true ∧
      (f a).checks = true ∧
      db'.outbox = { db.outbox with attempts := db.outbox.attempts.put (f a) } ∧
      Touches Group.outbox db db' := by
  rcases updateDeliveryAttempts_one h with ⟨a, ha, hchecks, rfl⟩
  have hmem : a ∈ db.outbox.attempts.select p := by
    rw [ha]
    exact List.mem_singleton.mpr rfl
  have hsel := Table.mem_select.mp hmem
  exact ⟨a, Table.get_of_mem hsel.left, hsel.right, hchecks, rfl, fun _ => rfl,
    fun _ => rfl, fun hg => absurd rfl hg, fun _ => rfl, rfl, db.ids.extends_refl⟩

theorem OutboxStep.of_finish {e : Ending} {m : OutboxMessage}
    {a : OutboxDeliveryAttempt} {db db₁ db₂ : Database}
    (hget : db.outbox.messages.get m.commandId = some m)
    (hheld : m.status = OutboxDeliveryStatus.processing)
    (hattempt : db.outbox.attempts.get a.attemptId = some a)
    (hcommand : a.commandId = m.commandId) (hopen : a.isOpen = true)
    (hallowed : e.Allowed m) (hchecks : (e.attempt a).checks = true)
    (hfinished : db₁.outbox =
      { db.outbox with attempts := db.outbox.attempts.put (e.attempt a) })
    (hmoved : db₂.outbox =
      { db₁.outbox with messages := db₁.outbox.messages.put (e.message m) }) :
    OutboxStep (OutboxLabel.finish e m a) db.outbox db₂.outbox := by
  rw [hmoved, hfinished]
  exact OutboxStep.finish hget hheld hattempt hcommand hopen hallowed hchecks

theorem finishDeliveryAttempt_spec {attemptId commandId leaseId : UUID}
    {workerId : String} {r : DeliveryAttemptResult} {db db' : Database}
    (h : finishDeliveryAttempt attemptId commandId leaseId workerId r db =
      Except.ok (1, db')) :
    errorFieldValid r.safeErrorCode ∧ errorFieldValid r.safeErrorMessage ∧
      (forall s, r.retryAfterSeconds = some s -> 0 ≤ s) ∧
      exists a, db.outbox.attempts.get a.attemptId = some a ∧
        a.commandId = commandId ∧ a.leaseId = leaseId ∧ a.isOpen = true ∧
        (r.apply a).checks = true ∧
        db'.outbox = { db.outbox with attempts := db.outbox.attempts.put (r.apply a) } ∧
        Touches Group.outbox db db' := by
  simp only [finishDeliveryAttempt, Transaction.bind_eq_ok, validateErrorFields_eq_ok,
    Transaction.require_eq_ok, Prod.mk.injEq] at h
  rcases h with ⟨_, _, ⟨hcode, hmessage, rfl⟩, _, _, ⟨hretry, _, rfl⟩, hup⟩
  rcases updateDeliveryAttempts_spec hup with ⟨a, hget, hp, hchecks, hout, htouch⟩
  simp only [Bool.and_eq_true, decide_eq_true_eq] at hp
  exact ⟨hcode, hmessage, hretry, a, hget, hp.left.left.left.right, hp.left.left.right,
    hp.right, hchecks, hout, htouch⟩

theorem updateOutboxTransition_spec {commandId leaseId : UUID} {leaseOwner : String}
    {t : OutboxTransition} {db db' : Database}
    (h : updateOutboxTransition commandId leaseId leaseOwner t db =
      Except.ok (1, db')) :
    exists m, db.outbox.messages.get commandId = some m ∧
      m.status = OutboxDeliveryStatus.processing ∧ m.leaseId = some leaseId ∧
      m.leaseOwner = some leaseOwner ∧
      db'.outbox = { db.outbox with messages := db.outbox.messages.put (t.apply m) } ∧
      Touches Group.outbox db db' := by
  simp only [updateOutboxTransition, Transaction.bind_eq_ok,
    validateErrorFields_eq_ok] at h
  rcases h with ⟨_, _, ⟨_, _, rfl⟩, hup⟩
  rcases updateOutbox_spec hup with ⟨m, hget, hp, hout, htouch⟩
  simp only [Bool.and_eq_true, decide_eq_true_eq] at hp
  exact ⟨m, hget, hp.left.left, hp.left.right, hp.right, hout, htouch⟩

/-!
## The finalizer
-/

theorem lockClaimedCommand_spec {claimed : ClaimedOutboxMessage}
    {databaseNow now : Time} {db db' : Database}
    (h : lockClaimedCommand claimed databaseNow db = Except.ok (now, db')) :
    db' = db ∧ exists m, db.outbox.messages.get claimed.commandId = some m ∧
      m.deliveryCycle = claimed.deliveryCycle ∧ m.leaseId = claimed.leaseId := by
  simp only [lockClaimedCommand, Transaction.bind_eq_ok, Transaction.fetch_eq_ok,
    Transaction.require_eq_ok, Transaction.pure_eq_ok, Prod.mk.injEq] at h
  rcases h with ⟨m, _, ⟨hm, rfl⟩, _, _, ⟨hcurrent, _, rfl⟩, a, _, ⟨_, rfl⟩, _, _,
    ⟨_, _, rfl⟩, _, rfl⟩
  unfold claimedMessageCurrent at hcurrent
  simp only [Bool.and_eq_true, decide_eq_true_eq] at hcurrent
  exact ⟨rfl, m, hm, hcurrent.left.left.left.left.right, hcurrent.left.left.right⟩

theorem lockClaimedCommand_held {claimed : ClaimedOutboxMessage}
    {databaseNow now : Time} {db db' : Database}
    (h : lockClaimedCommand claimed databaseNow db = Except.ok (now, db')) :
    db' = db ∧ exists m, db.outbox.messages.get claimed.commandId = some m ∧
      m.status = OutboxDeliveryStatus.processing := by
  simp only [lockClaimedCommand, Transaction.bind_eq_ok, Transaction.fetch_eq_ok,
    Transaction.require_eq_ok, Transaction.pure_eq_ok, Prod.mk.injEq] at h
  rcases h with ⟨m, _, ⟨hm, rfl⟩, _, _, ⟨hcurrent, _, rfl⟩, a, _, ⟨_, rfl⟩, _, _,
    ⟨_, _, rfl⟩, _, rfl⟩
  unfold claimedMessageCurrent at hcurrent
  simp only [Bool.and_eq_true, decide_eq_true_eq] at hcurrent
  exact ⟨rfl, m, hm, hcurrent.left.left.left.left.left⟩

theorem finalizeAggregate_spec {claimed : ClaimedOutboxMessage} {f : Finalization}
    {now : Time} {db db' : Database}
    (h : finalizeAggregate claimed f now db = Except.ok ((), db'))
    (hresult : finalStatus f.target f.failureKind = OperationRecordStatus.manualReview ->
      f.providerResult = none) :
    ((claimed.aggregateType = ProviderAggregateType.orderOperation ∧
        exists o o' es l,
          OperationFinalized claimed f.target f.failureKind o o' es l db db') ∨
      (claimed.aggregateType = ProviderAggregateType.supportCase ∧
        exists c ev l, CaseFinalized claimed f.target c ev l db db')) ∧
      forall s, (f.providerResult.bind fun r => r.providerReference) = some s ->
        textAccepted s = true := by
  unfold finalizeAggregate at h
  cases hkind : claimed.aggregateType with
  | orderOperation =>
      rw [hkind] at h
      have hspec := finalizeOperation_spec h hresult
      exact ⟨Or.inl ⟨rfl, hspec.left⟩, hspec.right⟩
  | supportCase =>
      rw [hkind] at h
      have hspec := finalizeCase_spec h
      exact ⟨Or.inr ⟨rfl, hspec.left⟩, hspec.right⟩

/-- Only a failure without an answer of the provider leads to a review. -/
theorem Verdict.result_of_review (v : Verdict)
    (h : finalStatus v.finalization.target v.finalization.failureKind =
      OperationRecordStatus.manualReview) : v.finalization.providerResult = none := by
  cases v with
  | accepted result => cases h
  | rejected result => cases h
  | terminalFailure failureKind errorCode errorMessage => rfl

/-- The handle carries the command as it is stored. -/
def ClaimedOutboxMessage.Genuine (claimed : ClaimedOutboxMessage) (db : Database) :
    Prop :=
  exists m, db.outbox.messages.get claimed.commandId = some m ∧
    m.toProviderCommandEnvelope = claimed.toProviderCommandEnvelope

theorem finalize_move {claimed : ClaimedOutboxMessage} {v : Verdict}
    {databaseNow : Time} {db db' : Database}
    (h : finalize claimed v.finalization databaseNow db = Except.ok ((), db'))
    (hgenuine : claimed.Genuine db) :
    exists lo lc now m a, Move
      { operation := lo, case := lc
        outbox := OutboxLabel.finish (Ending.finalized v now) m a } db db' ∧
      m.commandId = claimed.commandId ∧ m.leaseId = claimed.leaseId := by
  simp only [finalize, Transaction.translate_eq_ok, Transaction.bind_eq_ok,
    Transaction.fetch_eq_ok, Transaction.require_eq_ok, Prod.mk.injEq] at h
  rcases h with ⟨leaseId, _, ⟨_, rfl⟩, leaseOwner, _, ⟨_, rfl⟩, now, db₀, hlock, _, db₁,
    haggregate, _, db₂, hfinish, _, _, ⟨rfl, _, rfl⟩, _, db₃, htransition, rfl, _, rfl⟩
  rcases lockClaimedCommand_spec hlock with ⟨hsame, m, hm, hcycle, hlease⟩
  subst hsame
  rcases hgenuine with ⟨m₁, hm₁, henv⟩
  rw [hm] at hm₁
  cases hm₁
  rcases finishDeliveryAttempt_spec hfinish with ⟨hcode, hmessage, _, a, ha, hacommand,
    _, hopen, hchecks, hout₂, htouch₂⟩
  rcases updateOutboxTransition_spec htransition with ⟨m₂, hm₂, hheld, _, _, hout₃,
    htouch₃⟩
  rcases finalizeAggregate_spec haggregate v.result_of_review with ⟨haggregate, htext⟩
  have hid := Table.get_key hm
  -- the aggregate part has left the outbox alone
  have hstep : db₁.outbox = db₀.outbox -> Touches Group.outbox db₁ db₃ ∧
      OutboxStep (OutboxLabel.finish (Ending.finalized v now) m a) db₁.outbox
        db₃.outbox := by
    intro hout₁
    have hsame : m₂ = m := by
      rw [hout₂, hout₁] at hm₂
      exact (Option.some.inj (hm.symm.trans hm₂)).symm
    subst hsame
    refine ⟨htouch₂.trans htouch₃, OutboxStep.of_finish ?_ hheld ha
      (hacommand.trans hid.symm) hopen ⟨hcode, hmessage, htext⟩ hchecks hout₂ hout₃⟩
    rw [hout₁, hid]
    exact hm
  have hdelivery : forall suffix, deliveryKey m.commandId m.deliveryCycle suffix =
      commandKey claimed suffix := by
    intro suffix
    rw [hid, hcycle]
    rfl
  rcases haggregate with ⟨hkind, o, o', es, l, hfinal⟩ | ⟨hkind, c, ev, l, hfinal⟩
  · have hwork := hstep hfinal.steps.outbox.eq_of_keep
    have hsettled : OperationSettled (Ending.finalized v now) m o o' l :=
      { kind := (congrArg ProviderCommandEnvelope.aggregateType henv).trans hkind
        settles := rfl
        aggregate := hfinal.aggregate.trans
          (congrArg ProviderCommandEnvelope.aggregateId henv).symm
        tenant := hfinal.tenant.trans
          (congrArg ProviderCommandEnvelope.tenantId henv).symm
        before := hfinal.before
        after := hfinal.after
        review := hfinal.review
        ground := hfinal.keyed.ground
        caseKeys := by
          rw [hdelivery]
          exact hfinal.keyed.keys }
    refine ⟨_, l, now, m, a, (hfinal.steps.thenOutbox rfl hwork.left hwork.right
      (fun x hx => (by cases hx))).move
        (Combination.settleOperation a hsettled hfinal.writes ?_) ?_, hid, hlease⟩
    · rw [hdelivery]
      exact hfinal.recorded
    · intro c c' hl
      rcases hfinal.keyed.silent c c' hl with ⟨x, hx, hxkey⟩
      exact ⟨_, m, a, x, rfl, hx, by rw [hdelivery]; exact hxkey⟩
  · have hwork := hstep hfinal.steps.outbox.eq_of_keep
    have hsettled : CaseSettled (Ending.finalized v now) m c ev l :=
      { kind := (congrArg ProviderCommandEnvelope.aggregateType henv).trans hkind
        label := hfinal.label
        case := hfinal.case.trans
          (congrArg ProviderCommandEnvelope.aggregateId henv).symm
        event := ⟨hfinal.event.left, hfinal.event.right.left, by
          rw [hfinal.event.right.right, hid]⟩
        finalized := ⟨v, now, rfl, hfinal.key.trans (hdelivery _).symm, hfinal.reason,
          hfinal.published⟩
        undelivered := hfinal.undelivered }
    refine ⟨OperationLabel.keep, l, now, m, a, (hfinal.steps.thenOutbox rfl hwork.left
      hwork.right (fun x hx => (by cases hx))).move
        (Combination.settleCase a hsettled) ?_, hid, hlease⟩
    intro c₁ c₂ hl
    rcases hfinal.label with hrecord | ⟨c₀, hupdate⟩
    · cases hrecord.symm.trans hl
    · cases hupdate.symm.trans hl

/-!
## Retry and renewal
-/

theorem scheduleOutboxRetry_move {r : OutboxRetry} {now : Time} {db db' : Database}
    (h : scheduleOutboxRetry r now db = Except.ok ((), db'))
    (hkind : r.failureKind ∈ retryableFailureKinds) :
    exists m a, Move { outbox := OutboxLabel.finish (Ending.retried r now) m a } db db' ∧
      m.commandId = r.commandId ∧ m.leaseId = some r.leaseId := by
  simp only [scheduleOutboxRetry, Transaction.translate_eq_ok, Transaction.bind_eq_ok,
    Transaction.fetch_eq_ok, Transaction.require_eq_ok, Prod.mk.injEq] at h
  rcases h with ⟨m, _, ⟨hm, rfl⟩, _, _, ⟨hheld, _, rfl⟩, _, _, ⟨hlease, _, rfl⟩, _, _,
    ⟨_, _, rfl⟩, _, _, ⟨hbound, _, rfl⟩, _, db₁, hfinish, _, _, ⟨rfl, _, rfl⟩, _, db₂,
    htransition, rfl, _, rfl⟩
  rcases finishDeliveryAttempt_spec hfinish with ⟨hcode, hmessage, hretry, a, ha,
    hacommand, _, hopen, hchecks, hout₁, htouch₁⟩
  rcases updateOutboxTransition_spec htransition with ⟨m₂, hm₂, _, _, _, hout₂, htouch₂⟩
  have hid := Table.get_key hm
  have hsame : m₂ = m := by
    rw [hout₁] at hm₂
    exact (Option.some.inj (hm.symm.trans hm₂)).symm
  subst hsame
  have hstep := OutboxStep.of_finish (e := Ending.retried r now) (by rw [hid]; exact hm)
    hheld ha (hacommand.trans hid.symm) hopen
    ⟨hbound, hkind, hcode, hmessage, hretry⟩ hchecks hout₁ hout₂
  exact ⟨m₂, a, ((Steps.refl db).thenOutbox rfl (htouch₁.trans htouch₂) hstep
    (fun x hx => (by cases hx))).move (Combination.reschedule m₂ a rfl), hid, hlease⟩

theorem renewOutboxLease_move {commandId leaseId : UUID} {leaseOwner : String}
    {leaseSeconds : Rat} {clock : Nat -> Time} {db db' : Database} {renewed : Bool}
    (h : renewOutboxLease commandId leaseId leaseOwner leaseSeconds clock db =
      Except.ok (renewed, db')) :
    db' = db ∨ exists m m', Move { outbox := OutboxLabel.renew m m' } db db' ∧
      m.commandId = commandId ∧ m.leaseId = some leaseId := by
  simp only [renewOutboxLease, Transaction.bind_eq_ok, validateClaimParameters_eq_ok,
    Transaction.pure_eq_ok, Prod.mk.injEq] at h
  rcases h with ⟨_, _, ⟨_, _, _, rfl⟩, n, db₁, hup, _, rfl⟩
  rcases updateOutbox_cases hup with ⟨hzero, _⟩ | ⟨_, hone⟩
  · exact Or.inl (congrArg Prod.snd hzero)
  · rcases updateOutbox_spec hone with ⟨m, hm, hp, hout, htouch⟩
    simp only [Bool.and_eq_true, decide_eq_true_eq] at hp
    have hid := Table.get_key hm
    have hstep : OutboxStep (OutboxLabel.renew m
        (m.setRenewed (clock 1 + seconds leaseSeconds) (clock 2))) db.outbox
        db₁.outbox := by
      rw [hout]
      exact OutboxStep.renew (by rw [hid]; exact hm) hp.left.right
    exact Or.inr ⟨m, _, ((Steps.refl db).thenOutbox rfl htouch hstep
      (fun x hx => (by cases hx))).move (Combination.renew m _), hid,
      hp.left.left.left⟩

/-!
## Claims
-/

theorem insertDeliveryAttempt_spec {a : OutboxDeliveryAttempt} {db db' : Database}
    (h : insertDeliveryAttempt a db = Except.ok ((), db')) :
    exists t, db.outbox.attempts.insert? a = some t ∧
      db'.outbox = { db.outbox with attempts := t } ∧
      Touches Group.outbox db db' := by
  rcases insertDeliveryAttempt_eq_ok h with ⟨t, ht, _, rfl⟩
  exact ⟨t, ht, rfl, fun _ => rfl, fun _ => rfl, fun hg => absurd rfl hg,
    fun _ => rfl, rfl, db.ids.extends_refl⟩

/-- A claim of one command. -/
def Label.claimsOutbox (l : Label) : Prop :=
  exists m m' a, l = { outbox := OutboxLabel.claim m m' a }

theorem ClaimedOutboxMessage.Genuine.later {claimed : ClaimedOutboxMessage}
    {db db' : Database} (h : claimed.Genuine db) (hlater : Later db db') :
    claimed.Genuine db' := by
  rcases h with ⟨m, hm, henv⟩
  rcases hlater.outbox _ m hm with ⟨m', hm', henv'⟩
  exact ⟨m', hm', henv'.trans henv⟩

theorem claimOutboxRow_move {workerId : String} {leaseSeconds : Rat}
    {clock : UUID -> Nat -> Time} {row : OutboxMessage} {db db' : Database}
    {claimed : ClaimedOutboxMessage}
    (h : claimOutboxRow workerId leaseSeconds clock row db = Except.ok (claimed, db'))
    (hworker : Text.strip workerId ≠ "")
    (hrow : db.outbox.messages.get row.commandId = some row) (hdue : row.claimable) :
    (exists m' a, Move { outbox := OutboxLabel.claim row m' a } db db' ∧
      db'.outbox.messages = db.outbox.messages.put m' ∧
      m'.commandId = row.commandId) ∧ claimed.Genuine db' := by
  simp only [claimOutboxRow, Transaction.bind_eq_ok, Transaction.fetch_eq_ok,
    Transaction.require_eq_ok, Transaction.pure_eq_ok, Prod.mk.injEq] at h
  rcases h with ⟨leaseId, db₁, hlease, attemptId, db₂, hattempt, _, db₃, hup, _, _,
    ⟨rfl, _, rfl⟩, updated, _, ⟨hupdated, rfl⟩, _, db₄, hins, _, _, ⟨_, _, rfl⟩, rfl, rfl⟩
  have hdrawn := newId_spec hlease
  have hdrawn' := newId_spec hattempt
  rcases updateOutbox_spec hup with ⟨r, hr, _, hout, htouch⟩
  have hbefore : db₂.outbox = db.outbox := hdrawn'.outbox.trans hdrawn.outbox
  have hrr : r = row := by
    rw [hbefore, hrow] at hr
    exact (Option.some.inj hr).symm
  subst hrr
  have hself := Table.get_put_self (r := r.setClaimed leaseId workerId
    (clock r.commandId 1 + seconds leaseSeconds) (clock r.commandId 2)) hrow
  have hupdated' : updated = r.setClaimed leaseId workerId
      (clock r.commandId 1 + seconds leaseSeconds) (clock r.commandId 2) := by
    rw [hout, hbefore] at hupdated
    exact (Option.some.inj (hself.symm.trans hupdated)).symm
  subst hupdated'
  rcases insertDeliveryAttempt_spec hins with ⟨t, ht, hout', htouch'⟩
  rw [hout, hbefore] at ht
  have hstep := OutboxStep.claim hrow hdue hworker ht
  have hafter : db₄.outbox = { db.outbox with
      messages := db.outbox.messages.put (r.setClaimed leaseId workerId
        (clock r.commandId 1 + seconds leaseSeconds) (clock r.commandId 2))
      attempts := t } := by
    rw [hout', hout, hbefore]
  rw [← hafter] at hstep
  refine ⟨⟨_, _, ((Steps.refl db).thenOutbox rfl
      (((hdrawn.touches _).trans (hdrawn'.touches _)).trans (htouch.trans htouch'))
      hstep (fun x hx => (by cases hx))).move (Combination.claim r _ _), ?_, rfl⟩, ?_⟩
  · rw [hafter]
  · refine ⟨r.setClaimed leaseId workerId (clock r.commandId 1 + seconds leaseSeconds)
      (clock r.commandId 2), ?_, rfl⟩
    rw [hafter]
    exact hself

theorem dueOutbox_claimable {db : Database} {scan : List UUID}
    {clock : UUID -> Nat -> Time} {batchSize : Int} {m : OutboxMessage}
    (h : m ∈ dueOutbox db scan clock batchSize) :
    db.outbox.messages.get m.commandId = some m ∧ m.claimable := by
  have hmem := List.mem_of_mem_take h
  rw [List.mem_insertionSort, List.mem_filter] at hmem
  refine ⟨Table.get_of_mem (Table.mem_of_mem_visit hmem.left), ?_⟩
  have hdue := hmem.right
  unfold OutboxMessage.due at hdue
  simp only [Bool.and_eq_true, decide_eq_true_eq] at hdue
  exact ⟨hdue.left.left, hdue.right⟩

theorem dueOutbox_pairwise (db : Database) (scan : List UUID)
    (clock : UUID -> Nat -> Time) (batchSize : Int) :
    (dueOutbox db scan clock batchSize).Pairwise
      (fun a b => a.commandId ≠ b.commandId) := by
  refine List.Pairwise.sublist (List.take_sublist _ _) ?_
  have hperm := List.perm_insertionSort OutboxMessage.dueBefore
    ((db.outbox.messages.visit scan).filter fun m => m.due (clock m.commandId 0))
  refine hperm.symm.pairwise (List.Pairwise.sublist List.filter_sublist
    (Table.pairwise_visit _ _)) ?_
  exact fun h => Ne.symm h

theorem claimDueOutbox_moves {workerId : String} {batchSize : Int}
    {leaseSeconds : Rat} {scan : List UUID} {clock : UUID -> Nat -> Time}
    {db db' : Database} {claimed : List ClaimedOutboxMessage}
    (h : claimDueOutbox workerId batchSize leaseSeconds scan clock db =
      Except.ok (claimed, db')) :
    Moves Label.claimsOutbox db db' ∧ forall c, c ∈ claimed -> c.Genuine db' := by
  simp only [claimDueOutbox, Transaction.bind_eq_ok, validateClaimParameters_eq_ok,
    Transaction.translate_eq_ok, Transaction.read_eq_ok, Prod.mk.injEq] at h
  rcases h with ⟨_, _, ⟨hworker, _, _, rfl⟩, rows, _, ⟨rfl, rfl⟩, hloop⟩
  refine Transaction.forEach_relates (R := Moves Label.claimsOutbox)
    (P := fun m db => db.outbox.messages.get m.commandId = some m ∧ m.claimable)
    (Q := fun c db => ClaimedOutboxMessage.Genuine c db)
    (D := fun a b => a.commandId ≠ b.commandId)
    (Moves.refl _) (fun h h' => h.trans h') (fun h hc => hc.later h.later) ?_
    (dueOutbox_pairwise _ _ _ _) (fun m hm => dueOutbox_claimable hm) hloop
  intro m db c db' hm hbody
  rcases claimOutboxRow_move hbody hworker hm.left hm.right with
    ⟨⟨m', a, hmove, hput, hid⟩, hgenuine⟩
  refine ⟨Moves.single ⟨m, m', a, rfl⟩ hmove, hgenuine, ?_⟩
  intro d hne hd
  refine ⟨?_, hd.right⟩
  rw [hput, Table.get_put_ne]
  · exact hd.left
  · rw [hid]
    exact Ne.symm hne

/-!
## Recovery of expired leases
-/

/-- How an expired lease ends its attempt. -/
def expiryOf (row : OutboxMessage) (now first second : Time) : Ending :=
  if row.attemptsInCycle < 8 then Ending.expired now first second
  else Ending.exhausted now first second

theorem expiryOf_message (row : OutboxMessage) (now first second : Time) :
    (expiryOf row now first second).message =
      if row.attemptsInCycle < 8 then OutboxMessage.setRecovered first second
      else OutboxMessage.setExhausted first second := by
  unfold expiryOf
  split <;> rfl

theorem expiryOf_attempt (row : OutboxMessage) (now first second : Time) :
    (expiryOf row now first second).attempt =
      OutboxDeliveryAttempt.setLeaseExpired now (expiredCode row) := by
  unfold expiryOf expiredCode
  split <;> rfl

theorem expiryOf_allowed (row : OutboxMessage) (now first second : Time) :
    (expiryOf row now first second).Allowed row := by
  unfold expiryOf
  split
  · assumption
  · exact Nat.le_of_not_lt ‹_›

/-- The recovery of one of the given commands. -/
def Label.recovers (rows : List OutboxMessage) (l : Label) : Prop :=
  exists m a now first second, m ∈ rows ∧
    l.outbox = OutboxLabel.finish (expiryOf m now first second) m a ∧
    l.inbox = InboxLabel.keep

theorem recoverAggregate_spec {row : OutboxMessage} {attempt : OutboxDeliveryAttempt}
    {now : Time} {db db' : Database}
    (h : recoverAggregate row attempt now db = Except.ok ((), db')) :
    exists lo lc, Steps { operation := lo, case := lc } db db' ∧
      (forall (a : OutboxDeliveryAttempt) (first second : Time),
        Combination lo lc (OutboxLabel.finish (expiryOf row now first second) row a)
          InboxLabel.keep) ∧
      forall c c', lc = CaseLabel.update c c' [] -> exists x, x ∈ db.cases.events.rows ∧
        x.idempotencyKey =
          deliveryKey row.commandId row.deliveryCycle "technical-review" := by
  simp only [recoverAggregate, Transaction.ite_eq_ok, Transaction.bind_eq_ok,
    Transaction.require_eq_ok, Transaction.pure_eq_ok, Prod.mk.injEq] at h
  rcases h with ⟨hlast, _, _, ⟨_, _, rfl⟩, hfinal⟩ | ⟨hno, _, rfl⟩
  · rcases (finalizeOperation_spec hfinal fun _ => rfl).left with ⟨o, o', es, l, hfinal⟩
    refine ⟨_, l, hfinal.steps, fun a first second =>
      Combination.settleOperation a ?_ hfinal.writes hfinal.recorded, hfinal.keyed.silent⟩
    have hexhausted : expiryOf row now first second =
        Ending.exhausted now first second := if_neg (Nat.not_lt.mpr hlast.left)
    rw [hexhausted]
    exact
      { kind := hlast.right
        settles := rfl
        aggregate := hfinal.aggregate
        tenant := hfinal.tenant
        before := hfinal.before
        after := hfinal.after
        review := hfinal.review
        ground := hfinal.keyed.ground
        caseKeys := hfinal.keyed.keys }
  · refine ⟨OperationLabel.keep, CaseLabel.keep, Steps.refl db, fun a first second => ?_,
      fun c c' hl => (by cases hl)⟩
    by_cases hlast : row.attemptsInCycle < 8
    · have hexpired : expiryOf row now first second = Ending.expired now first second :=
        if_pos hlast
      rw [hexpired]
      exact Combination.reschedule row a rfl
    · have hexhausted : expiryOf row now first second =
          Ending.exhausted now first second := if_neg hlast
      rw [hexhausted]
      refine Combination.abandonCase a ?_
      cases hkind : row.aggregateType with
      | supportCase => rfl
      | orderOperation => exact absurd ⟨Nat.le_of_not_lt hlast, hkind⟩ hno

theorem recoverOutboxRow_move {clock : UUID -> Nat -> Time} {row : OutboxMessage}
    {db db' : Database} (h : recoverOutboxRow clock row db = Except.ok ((), db'))
    (hrow : db.outbox.messages.get row.commandId = some row)
    (hheld : row.status = OutboxDeliveryStatus.processing) :
    exists l a now first second, Move l db db' ∧
      l.outbox = OutboxLabel.finish (expiryOf row now first second) row a ∧
      l.inbox = InboxLabel.keep ∧
      db'.outbox.messages =
        db.outbox.messages.put ((expiryOf row now first second).message row) := by
  simp only [recoverOutboxRow, Transaction.bind_eq_ok, Transaction.fetch_eq_ok,
    Transaction.require_eq_ok, Transaction.pure_eq_ok, Prod.mk.injEq] at h
  rcases h with ⟨attempt, _, ⟨_, rfl⟩, _, db₁, haggregate, _, db₂, hfinish, _, _,
    ⟨rfl, _, rfl⟩, n, db₃, hup, _, rfl⟩
  rcases recoverAggregate_spec haggregate with ⟨lo, lc, hsteps, hcombined, hsilent⟩
  have hout₁ : db₁.outbox = db.outbox := hsteps.outbox.eq_of_keep
  rcases updateDeliveryAttempts_spec hfinish with ⟨a, ha, hp, hchecks, hout₂, htouch₂⟩
  unfold attemptOfLease at hp
  simp only [Bool.and_eq_true, decide_eq_true_eq] at hp
  have hone : updateOutbox row.commandId (fun _ => true) (if row.attemptsInCycle < 8 then
      OutboxMessage.setRecovered (clock row.commandId 2) (clock row.commandId 3)
    else
      OutboxMessage.setExhausted (clock row.commandId 2) (clock row.commandId 3)) db₂ =
      Except.ok (1, db₃) := by
    rcases updateOutbox_cases hup with ⟨_, hnone⟩ | ⟨_, hone⟩
    · have hrow₂ : db₂.outbox.messages.get row.commandId = some row := by
        rw [hout₂, hout₁]
        exact hrow
      exact absurd (hnone row hrow₂) (by simp)
    · exact hone
  rcases updateOutbox_spec hone with ⟨r, hr, _, hout₃, htouch₃⟩
  have hrr : r = row := by
    rw [hout₂, hout₁] at hr
    exact (Option.some.inj (hrow.symm.trans hr)).symm
  subst hrr
  rw [← expiryOf_message] at hout₃
  rw [← expiryOf_attempt r _ (clock r.commandId 2) (clock r.commandId 3)] at hchecks hout₂
  have hstep := OutboxStep.of_finish (by rw [hout₁]; exact hrow) hheld ha
    hp.left.left hp.right (expiryOf_allowed r _ _ _) hchecks hout₂ hout₃
  refine ⟨_, a, _, _, _, (hsteps.thenOutbox rfl (htouch₂.trans htouch₃) hstep
    (fun x hx => ?_)).move (hcombined a _ _) ?_, rfl, rfl, ?_⟩
  · cases hx
  · intro c c' hl
    rcases hsilent c c' hl with ⟨x, hx, hkey⟩
    exact ⟨_, r, a, x, rfl, hx, hkey⟩
  · rw [hout₃, hout₂, hout₁]

theorem expiredOutbox_held {db : Database} {scan : List UUID}
    {clock : UUID -> Nat -> Time} {batchSize : Nat} {m : OutboxMessage}
    (h : m ∈ expiredOutbox db scan clock batchSize) :
    db.outbox.messages.get m.commandId = some m ∧
      m.status = OutboxDeliveryStatus.processing := by
  have hmem := List.mem_of_mem_take h
  rw [List.mem_filter] at hmem
  refine ⟨Table.get_of_mem (Table.mem_of_mem_visit hmem.left), ?_⟩
  have hexpired := hmem.right
  unfold OutboxMessage.leaseExpired at hexpired
  simp only [Bool.and_eq_true, decide_eq_true_eq] at hexpired
  exact hexpired.left

theorem expiredOutbox_pairwise (db : Database) (scan : List UUID)
    (clock : UUID -> Nat -> Time) (batchSize : Nat) :
    (expiredOutbox db scan clock batchSize).Pairwise
      fun a b => a.commandId ≠ b.commandId :=
  List.Pairwise.sublist (List.take_sublist _ _)
    (List.Pairwise.sublist List.filter_sublist (Table.pairwise_visit _ _))

theorem recoverExpiredOutboxLeases_moves {batchSize : Nat} {scan : List UUID}
    {clock : UUID -> Nat -> Time} {db db' : Database} {n : Nat}
    (h : recoverExpiredOutboxLeases batchSize scan clock db = Except.ok (n, db')) :
    Moves (Label.recovers (expiredOutbox db scan clock batchSize)) db db' := by
  simp only [recoverExpiredOutboxLeases, Transaction.translate_eq_ok,
    Transaction.bind_eq_ok, Transaction.read_eq_ok, Transaction.pure_eq_ok,
    Prod.mk.injEq] at h
  rcases h with ⟨rows, _, ⟨hrows, rfl⟩, units, _, hloop, _, rfl⟩
  rw [hrows]
  refine (Transaction.forEach_relates (R := Moves (Label.recovers rows))
    (P := fun m db => m ∈ rows ∧ db.outbox.messages.get m.commandId = some m ∧
      m.status = OutboxDeliveryStatus.processing)
    (Q := fun _ _ => True) (D := fun a b => a.commandId ≠ b.commandId)
    (Moves.refl _) (fun h h' => h.trans h') (fun _ _ => trivial) ?_ ?_ ?_ hloop).left
  · intro m db _ db' hm hbody
    rcases recoverOutboxRow_move hbody hm.right.left hm.right.right with
      ⟨l, a, now, first, second, hmove, hlabel, hinbox, hput⟩
    refine ⟨Moves.single ⟨m, a, now, first, second, hm.left, hlabel, hinbox⟩ hmove,
      trivial, ?_⟩
    intro d hne hd
    refine ⟨hd.left, ?_, hd.right.right⟩
    rw [hput, Table.get_put_ne]
    · exact hd.right.left
    · rw [Ending.message_commandId]
      exact Ne.symm hne
  · rw [← hrows]
    exact expiredOutbox_pairwise _ _ _ _
  · intro m hm
    refine ⟨hm, ?_⟩
    rw [← hrows] at hm
    exact expiredOutbox_held hm

end RefundAgent
