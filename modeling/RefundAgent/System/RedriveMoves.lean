import RefundAgent.System.DeliveryMoves

/-!
# Redrives as moves
-/

namespace RefundAgent

open Foundation

theorem answer_eq_ok {α : Type} {outcome : Except Failure α} {db : Database}
    {r : α × Database} (h : answer outcome db = Except.ok r) : r.2 = db := by
  cases outcome with
  | ok a =>
      simp only [answer, Transaction.pure_eq_ok] at h
      rw [← h]
  | error e => simp only [answer, Transaction.raise_eq_ok] at h

theorem insertCaseRedriveEvent_spec {scope : AccessScope} {caseId : UUID}
    {customerId : CleanText} {commandId : UUID} {request : ProviderRedriveRequest}
    {redriveId : UUID} {now : Time} {db db' : Database}
    (h : insertCaseRedriveEvent scope caseId customerId commandId request redriveId
      now db = Except.ok ((), db')) :
    exists ev, CaseEventsWritten [ev] db db' ∧ db'.ids.Issued ev.eventId ∧
      ev.idempotencyKey =
        "provider-redrive:" ++ scope.tenantId.text ++ ":" ++ toString redriveId ∧
      ev.caseId = caseId ∧ ev.tenantId = scope.tenantId ∧
      ev.customerId = customerId ∧ forall c : SupportCase, Recounts c.facts c ev := by
  simp only [insertCaseRedriveEvent, Transaction.bind_eq_ok] at h
  rcases h with ⟨eventId, db₁, hid, hins⟩
  have hdrawn := newId_spec hid
  have hwritten := insertCaseEvent_spec hins
  refine ⟨_, hwritten.afterId hdrawn, hdrawn.issued.mono hwritten.touches.ids, rfl,
    rfl, rfl, rfl, fun c => ⟨rfl, ⟨?_, ?_, ?_⟩, ?_⟩⟩
  · exact fun s hs => (by cases hs)
  · exact fun p hp => (by cases hp)
  · exact fun a ha => (by cases ha)
  · exact fun r hr => (by cases hr)

structure OperationRecovered (scope : AccessScope) (message : OutboxMessage)
    (request : ProviderRedriveRequest) (redriveId : UUID) (o o' : OrderOperation)
    (e : OrderOperationEvent) (c : SupportCase) (ev : SupportCaseEvent)
    (db db' : Database) : Prop where
  steps : Steps
    { operation := OperationLabel.update Writer.redrive o o' [e]
      case := CaseLabel.redrive c ev } db db'
  aggregate : o.operationId = message.aggregateId
  before : o.status = OperationRecordStatus.manualReview
  after : o'.status = OperationRecordStatus.queued
  review : o'.requiresManualReview = false ∧ o'.reviewCaseType = none ∧
    o'.reviewPriority = none ∧ o'.supportCaseId = none
  key : e.idempotencyKey = "provider-redrive:" ++ scope.tenantId.text ++ ":" ++
    toString message.commandId ++ ":" ++ request.requestId
  audit : ev.idempotencyKey =
    "provider-redrive:" ++ scope.tenantId.text ++ ":" ++ toString redriveId

theorem recoverOperation_spec {scope : AccessScope} {message : OutboxMessage}
    {request : ProviderRedriveRequest} {redriveId : UUID} {now : Time}
    {db db' : Database}
    (h : recoverOperation scope message request redriveId now db =
      Except.ok ((), db')) :
    exists o o' e c ev,
      OperationRecovered scope message request redriveId o o' e c ev db db' := by
  simp only [recoverOperation, Transaction.bind_eq_ok, Transaction.fetch_eq_ok,
    Transaction.require_eq_ok, Option.filter_eq_some_iff, Option.bind_eq_some_iff,
    Prod.mk.injEq] at h
  rcases h with ⟨o, _, ⟨⟨ho, _⟩, rfl⟩, _, _, ⟨hredrivable, _, rfl⟩, c, _,
    ⟨⟨⟨caseId, _, hc⟩, htenant⟩, rfl⟩, _, _, ⟨hcustomer, _, rfl⟩, _, db₁, hup, _, _, ⟨rfl, _, rfl⟩,
    eventId, db₂, hid, _, db₃, hins, hcase⟩
  rcases updateOperation_spec hup with ⟨r, hr, _, hchecks, hfree, hrows, hevents, htouch⟩
  have hkey := Table.get_key ho
  have hrr : r = o := by
    rw [hkey, ho] at hr
    exact (Option.some.inj hr).symm
  subst hrr
  have hdrawn := newId_spec hid
  have happended := insertOperationEvent_spec hins
  have hall := hdrawn.eventsAppended.trans happended
  rcases insertCaseRedriveEvent_spec hcase with
    ⟨ev, hwritten, hissued, haudit, hid, hevtenant, hevcustomer, htold⟩
  unfold OrderOperation.redrivable at hredrivable
  simp only [Bool.and_eq_true, decide_eq_true_eq] at hredrivable
  have hstatus : r.status = OperationRecordStatus.manualReview :=
    hredrivable.left.left.left.right
  have htables : db₃.cases = db.cases :=
    (htouch.trans hall.touches).cases (by decide)
  have hstep : OperationStep (OperationLabel.update Writer.redrive r
      (r.setRedriven now) [redriveEvent scope message r.operationId eventId request
        now]) db.operations db₃.operations := by
    refine OperationStep.of_update (by rw [hkey]; exact ho) hfree ?_ ?_ ?_ ?_
    · rw [hall.rows, hrows]
    · rw [hall.appended, hevents]
      rfl
    · have hunused := hall.unused
      rw [hevents] at hunused
      exact hunused
    · refine ⟨rfl, rfl, rfl, hchecks, Or.inr ⟨Or.inr ⟨hstatus, rfl⟩, _, rfl, ?_, rfl⟩, ?_, ?_,
        id, Or.inl (Or.inr (Or.inr hstatus)), fun _ => ⟨Or.inr (Or.inr hstatus), id⟩⟩
      · exact congrArg some hstatus.symm
      · intro e he
        rw [List.mem_singleton.mp he]
        rfl
      · intro e he
        rw [List.mem_singleton.mp he]
        refine ⟨scope.tenantId.text ++ ":" ++ toString message.commandId ++ ":" ++
          request.requestId, ?_⟩
        have hhead : "provider-redrive:" = Writer.redrive.head ++ ":" := rfl
        show "provider-redrive:" ++ scope.tenantId.text ++ ":" ++
          toString message.commandId ++ ":" ++ request.requestId = _
        rw [hhead]
        simp only [String.append_assoc]
  have hcstep : CaseStep (CaseLabel.redrive c ev) db₃.cases db'.cases := by
    refine CaseStep.redrive ?_ ⟨hid, ?_, ?_⟩ hwritten.rows
      ⟨hwritten.appended, hwritten.unused⟩ (htold c)
    · rw [htables, Table.get_key hc]
      exact hc
    · rw [hevtenant, of_decide_eq_true htenant]
    · rw [hevcustomer, hcustomer.left]
  refine ⟨r, _, _, c, ev, ((Steps.refl db).thenOperation rfl (htouch.trans hall.touches)
    hstep ?_).thenCase rfl hwritten.touches hcstep ?_, hkey, hstatus, rfl,
    ⟨rfl, rfl, rfl, rfl⟩, rfl, haudit⟩
  · intro e he
    rw [List.mem_singleton.mp he]
    exact hdrawn.issued.mono happended.touches.ids
  · intro e he
    rw [List.mem_singleton.mp he]
    exact hissued

theorem auditSupportCase_spec {scope : AccessScope} {message : OutboxMessage}
    {request : ProviderRedriveRequest} {redriveId : UUID} {now : Time}
    {db db' : Database}
    (h : auditSupportCase scope message request redriveId now db =
      Except.ok ((), db')) :
    exists c ev, Steps { case := CaseLabel.redrive c ev } db db' ∧
      ev.idempotencyKey =
        "provider-redrive:" ++ scope.tenantId.text ++ ":" ++ toString redriveId := by
  simp only [auditSupportCase, Transaction.bind_eq_ok, Transaction.fetch_eq_ok,
    Transaction.require_eq_ok, Option.filter_eq_some_iff, Prod.mk.injEq] at h
  rcases h with ⟨_, _, ⟨_, _, rfl⟩, c, _, ⟨⟨hc, htenant⟩, rfl⟩, _, _, ⟨hcustomer, _, rfl⟩, hcase⟩
  rcases insertCaseRedriveEvent_spec hcase with
    ⟨ev, hwritten, hissued, haudit, hid, hevtenant, hevcustomer, htold⟩
  refine ⟨c, ev, (Steps.refl db).thenCase rfl hwritten.touches
    (CaseStep.redrive ?_ ⟨hid, ?_, ?_⟩ hwritten.rows
      ⟨hwritten.appended, hwritten.unused⟩ (htold c)) ?_, haudit⟩
  · rw [Table.get_key hc]
    exact hc
  · rw [hevtenant, of_decide_eq_true htenant]
  · rw [hevcustomer, hcustomer.left]
  · intro e he
    rw [List.mem_singleton.mp he]
    exact hissued

theorem insertOutboxRedrive_spec {r : OutboxRedrive} {db db' : Database}
    (h : insertOutboxRedrive r db = Except.ok ((), db')) :
    exists t, db.outbox.redrives.insert? r = some t ∧
      db'.outbox = { db.outbox with redrives := t } ∧ Touches Group.outbox db db' := by
  rcases insertOutboxRedrive_eq_ok.mp h with ⟨_, t, ht, rfl⟩
  exact ⟨t, ht, rfl, fun _ => rfl, fun _ => rfl, fun hg => absurd rfl hg, fun _ => rfl,
    rfl, db.ids.extends_refl⟩

theorem redriveAggregate_spec {scope : AccessScope} {message n : OutboxMessage}
    {request : ProviderRedriveRequest} {redriveId : UUID} {now : Time}
    {db db' : Database} {r : OutboxRedrive}
    (h : redriveAggregate scope message request redriveId now db =
      Except.ok ((), db'))
    (htenant : r.tenantId = scope.tenantId) (hrequest : r.requestId = request.requestId)
    (hid : r.redriveId = redriveId) :
    exists lo lc, Steps { operation := lo, case := lc } db db' ∧
      Combination lo lc (OutboxLabel.redrive message n r) InboxLabel.keep := by
  have haudited : forall {ev : SupportCaseEvent}, ev.idempotencyKey =
      "provider-redrive:" ++ scope.tenantId.text ++ ":" ++ toString redriveId ->
      RedriveAudited r ev := by
    intro ev hev
    refine ⟨?_, ?_⟩
    · rw [htenant]
      exact scope.colon_not_mem_tenantId
    · rw [hev, htenant, hid]
  unfold redriveAggregate at h
  cases hkind : message.aggregateType with
  | orderOperation =>
      rw [hkind] at h
      rcases recoverOperation_spec h with ⟨o, o', e, c, ev, hrec⟩
      refine ⟨_, _, hrec.steps, Combination.redriveOperation ⟨hkind, hrec.aggregate,
        hrec.before, hrec.after, hrec.review.left, ?_⟩ (haudited hrec.audit)⟩
      rw [hrec.key, htenant, hrequest]
  | supportCase =>
      rw [hkind] at h
      rcases auditSupportCase_spec h with ⟨c, ev, hsteps, haudit⟩
      exact ⟨_, _, hsteps, Combination.redriveCase hkind (haudited haudit)⟩

theorem redriveOutboxTransaction_move {scope : AccessScope} {commandId : UUID}
    {request : ProviderRedriveRequest} {missed : Bool} {clock : Nat -> Time}
    {db db' : Database} {view : ProviderRedriveView}
    (h : redriveOutboxTransaction scope commandId request missed clock db =
      Except.ok (view, db')) :
    db' = db ∨ exists lo lc m m' r, Move
      { operation := lo, case := lc, outbox := OutboxLabel.redrive m m' r } db db' ∧
      m.commandId = commandId := by
  unfold redriveOutboxTransaction at h
  rw [Transaction.bind_eq_ok] at h
  rcases h with ⟨m, _, hfetch, h⟩
  simp only [Transaction.fetch_eq_ok, Option.filter_eq_some_iff] at hfetch
  rcases hfetch with ⟨⟨hm, htenant⟩, rfl⟩
  rw [Transaction.bind_eq_ok] at h
  rcases h with ⟨replay, _, hreplay, h⟩
  simp only [Transaction.read_eq_ok, Prod.mk.injEq] at hreplay
  rcases hreplay with ⟨_, rfl⟩
  cases replay with
  | some row => exact Or.inl (answer_eq_ok h)
  | none =>
      simp only [beginOutboxCycle, Transaction.bind_eq_ok, Transaction.read_eq_ok,
        Transaction.require_eq_ok, Transaction.pure_eq_ok, Prod.mk.injEq] at h
      rcases h with ⟨attempt, _, ⟨_, rfl⟩, _, _,
        ⟨_, _, rfl⟩, redriveId, db₁, hid, _, db₂, haggregate, _, db₃, hup, _, _,
        ⟨rfl, _, rfl⟩, _, db₄, hins, _, rfl⟩
      have hdrawn := newId_spec hid
      have hkey := Table.get_key hm
      rcases updateOutbox_spec hup with ⟨r, hr, hp, hout, htouch⟩
      rcases insertOutboxRedrive_spec hins with ⟨t, ht, hout', htouch'⟩
      rcases redriveAggregate_spec (n := m.setRedriven (m.deliveryCycle + 1) (clock 0)
        (max (clock 1) m.updatedAt))
        (r := outboxRedriveRow scope m request redriveId (max (clock 1) m.updatedAt))
        haggregate rfl rfl rfl with ⟨lo, lc, hsteps, hcombined⟩
      have hbefore : db₂.outbox = db.outbox :=
        hsteps.outbox.eq_of_keep.trans hdrawn.outbox
      have hrr : r = m := by
        rw [hbefore, hkey, hm] at hr
        exact (Option.some.inj hr).symm
      subst hrr
      simp only [Bool.and_eq_true, decide_eq_true_eq] at hp
      have ht : db.outbox.redrives.insert?
          (outboxRedriveRow scope r request redriveId (max (clock 1) r.updatedAt)) =
            some t := by
        rw [hout, hbefore] at ht
        exact ht
      have hstep : OutboxStep (OutboxLabel.redrive r (r.setRedriven
          (r.deliveryCycle + 1) (clock 0) (max (clock 1) r.updatedAt))
          (outboxRedriveRow scope r request redriveId (max (clock 1) r.updatedAt)))
          db₂.outbox db₄.outbox := by
        rw [hout', hout, hbefore]
        exact OutboxStep.redrive (by rw [hkey]; exact hm) hp.left.right ht
          ⟨(of_decide_eq_true htenant).symm, rfl, rfl, rfl⟩
      refine Or.inr ⟨lo, lc, r, _, _, ((hsteps.afterId hdrawn).thenOutbox rfl
        (htouch.trans htouch') hstep ?_).move hcombined ?_, hkey⟩
      swap
      · intro c c' hl
        cases hl
        cases hcombined
      intro x hx
      cases hx
      exact hdrawn.issued.mono (hsteps.ids.trans (htouch.trans htouch').ids)

end RefundAgent
