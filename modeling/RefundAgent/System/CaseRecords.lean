import RefundAgent.System.CaseRequests

/-!
# What handoffs leave behind

A message of a customer is recorded by one call at most, whatever other calls do at the
same time.  What a call has answered stays true: the case keeps its columns and its
reasons, the event of the message stays in the log, and a delivery investigation keeps its
one command.
-/

namespace RefundAgent

open Foundation

/-!
## Cases and commands of later states
-/

/-- Every case of one state is a case of the other, with the reasons it had. -/
def CasesContinue (db db' : Database) : Prop :=
  forall id c, db.cases.rows.get id = some c ->
    exists c', db'.cases.rows.get id = some c' ∧ c'.frozen = c.frozen ∧
      forall r, r ∈ c.reasonCodes -> r ∈ c'.reasonCodes

theorem CasesContinue.refl (db : Database) : CasesContinue db db :=
  fun _ c hc => ⟨c, hc, rfl, fun _ hr => hr⟩

theorem CasesContinue.trans {a b c : Database} (h : CasesContinue a b) (h' : CasesContinue b c) :
    CasesContinue a c := by
  intro id k hk
  rcases h id k hk with ⟨k₁, hk₁, hfrozen, hreasons⟩
  rcases h' id k₁ hk₁ with ⟨k₂, hk₂, hfrozen', hreasons'⟩
  exact ⟨k₂, hk₂, hfrozen'.trans hfrozen, fun r hr => hreasons' r (hreasons r hr)⟩

theorem World.Runs.casesContinue {stages : List (Stage World Event)} {w : World}
    (h : World.Runs stages w) {x : Stage World Event} (hx : x ∈ stages) :
    CasesContinue x.after.db w.db :=
  (h.related CasesContinue.refl (fun h h' => h.trans h')
    (fun _ _ _ hm _ _ hc => hm.case.reasons_kept hc) hx).right

/-- A message in the table after a step has been there with the same content, or it is new
and its key was not taken. -/
theorem OutboxStep.content {l : OutboxLabel} {t u : OutboxTables} (h : OutboxStep l t u)
    {x : OutboxMessage} (hx : x ∈ u.messages.rows) :
    (exists m, m ∈ t.messages.rows ∧
      m.toProviderCommandEnvelope = x.toProviderCommandEnvelope) ∨
    (l.result = some x ∧ forall m, m ∈ t.messages.rows ->
      ¬(m.tenantId = x.tenantId ∧ m.idempotencyKey = x.idempotencyKey)) := by
  have hlater := h.later
  have hold : forall {m : OutboxMessage}, m ∈ t.messages.rows -> m.commandId = x.commandId ->
      m.toProviderCommandEnvelope = x.toProviderCommandEnvelope := by
    intro m hm hid
    rcases hlater _ m (Table.get_of_mem hm) with ⟨m', hm', hsame⟩
    rw [hid, Table.get_of_mem hx] at hm'
    cases hm'
    exact hsame.symm
  rcases h.origin hx with hresult | ⟨hmem, _⟩
  · cases h with
    | keep => cases hresult
    | queue valid free insert =>
        cases hresult
        exact Or.inr ⟨rfl, free⟩
    | claim get due worker insert =>
        cases hresult
        exact Or.inl ⟨_, Table.mem_of_get get, hold (Table.mem_of_get get) rfl⟩
    | renew get held =>
        cases hresult
        exact Or.inl ⟨_, Table.mem_of_get get, hold (Table.mem_of_get get) rfl⟩
    | finish get held getAttempt ofCommand isOpen allowed checks =>
        cases hresult
        exact Or.inl ⟨_, Table.mem_of_get get,
          hold (Table.mem_of_get get) (Ending.message_commandId _ _).symm⟩
    | redrive get dead insert audit =>
        cases hresult
        exact Or.inl ⟨_, Table.mem_of_get get, hold (Table.mem_of_get get) rfl⟩
  · exact Or.inl ⟨x, hmem, rfl⟩

/-- No two commands of a tenant have the same key. -/
def KeysDiffer (db : Database) : Prop :=
  forall m m', m ∈ db.outbox.messages.rows -> m' ∈ db.outbox.messages.rows ->
    m.tenantId = m'.tenantId -> m.idempotencyKey = m'.idempotencyKey ->
    m.commandId = m'.commandId

theorem Move.keysDiffer {l : Label} {db db' : Database} (h : Move l db db')
    (hdb : KeysDiffer db) : KeysDiffer db' := by
  intro m m' hm hm' htenant hkey
  rcases h.outbox.content hm with ⟨k, hk, hsame⟩ | ⟨hresult, hfree⟩
  · rcases h.outbox.content hm' with ⟨k', hk', hsame'⟩ | ⟨hresult', hfree'⟩
    · have hids := hdb k k' hk hk'
      rw [hsame, hsame'] at hids
      exact hids htenant hkey
    · refine absurd ⟨?_, ?_⟩ (hfree' k hk)
      · rw [hsame]
        exact htenant
      · rw [hsame]
        exact hkey
  · rcases h.outbox.content hm' with ⟨k', hk', hsame'⟩ | ⟨hresult', hfree'⟩
    · refine absurd ⟨?_, ?_⟩ (hfree k' hk')
      · rw [hsame']
        exact htenant.symm
      · rw [hsame']
        exact hkey.symm
    · rw [hresult] at hresult'
      cases hresult'
      rfl

/-- The case has one command. -/
def OneCommand (db : Database) (caseId : UUID) : Prop :=
  exists m, m ∈ db.outbox.messages.rows ∧
    m.aggregateType = ProviderAggregateType.supportCase ∧ m.aggregateId = caseId ∧
    forall m', m' ∈ db.outbox.messages.rows ->
      m'.aggregateType = ProviderAggregateType.supportCase -> m'.aggregateId = caseId ->
      m' = m

theorem hasCaseCommand_eq_true {db : Database} {caseId : UUID} :
    hasCaseCommand db caseId = true ↔ exists m, m ∈ db.outbox.messages.rows ∧
      m.aggregateType = ProviderAggregateType.supportCase ∧ m.aggregateId = caseId := by
  simp only [hasCaseCommand, List.any_eq_true, Bool.and_eq_true, decide_eq_true_eq]

theorem Sound.investigation_key {db : Database} (h : Sound db) {m : OutboxMessage}
    (hm : m ∈ db.outbox.messages.rows)
    (hkind : m.aggregateType = ProviderAggregateType.supportCase) :
    m.idempotencyKey = "delivery-investigation:" ++ toString m.aggregateId := by
  have hvalid := (h.outbox.commands m hm).marked.envelope
  unfold ProviderCommandEnvelope.valid at hvalid
  rw [Bool.and_eq_true] at hvalid
  have htype := hvalid.right
  split at htype
  · simp only [Bool.and_eq_true, decide_eq_true_eq] at htype
    exact htype.right
  · simp only [Bool.and_eq_true, decide_eq_true_eq] at htype
    rw [hkind] at htype
    cases htype.left.left.left

theorem Sound.oneCommand {db : Database} (h : Sound db) (hkeys : KeysDiffer db)
    {caseId : UUID} (hhas : hasCaseCommand db caseId = true) : OneCommand db caseId := by
  rcases hasCaseCommand_eq_true.mp hhas with ⟨m, hm, hkind, hid⟩
  refine ⟨m, hm, hkind, hid, ?_⟩
  intro m' hm' hkind' hid'
  rcases h.investigated m hm hkind with ⟨c, hc, howner⟩
  rcases h.investigated m' hm' hkind' with ⟨c', hc', howner'⟩
  rw [hid] at hc
  rw [hid', hc] at hc'
  cases hc'
  have htenant : m'.tenantId = m.tenantId := howner'.tenant.symm.trans howner.tenant
  have hkey : m'.idempotencyKey = m.idempotencyKey := by
    rw [h.investigation_key hm hkind, h.investigation_key hm' hkind', hid, hid']
  have hsame := hkeys m' m hm' hm htenant hkey
  have hget := Table.get_of_mem hm'
  rw [hsame, Table.get_of_mem hm] at hget
  exact (Option.some.inj hget).symm

/-!
## One call
-/

namespace CaseRequest

/-- The message that the request is about. -/
def trigger? : CaseRequest -> Option CaseTrigger
  | handoff trigger _ => some trigger
  | delivery trigger _ _ _ => some trigger
  | _ => none

/-- The reasons that the request adds to the case. -/
def reasons : CaseRequest -> List HandoffReason
  | handoff _ decision => decision.reasonCodes
  | delivery _ decision _ _ => decision.reasonCodes
  | _ => []

/-- The provider is to look into the matter. -/
def investigates : CaseRequest -> Bool
  | delivery _ _ _ _ => true
  | _ => false

end CaseRequest

structure Records (scope : AccessScope) (trigger : CaseTrigger)
    (reasons : List HandoffReason) (result : CaseServiceResult) (c : SupportCase)
    (e : SupportCaseEvent) (db db' : Database) : Prop where
  result : result.case = some c ∧ result.event = some e
  stored : db'.cases.rows.get c.caseId = some c
  thread : c.threadId = trigger.threadId
  tenant : c.tenantId = scope.tenantId
  reasons : forall r, r ∈ reasons -> r ∈ c.reasonCodes
  events : db'.cases.events.rows = db.cases.events.rows ++ [e]
  unused : forall d, d ∈ db.cases.events.rows -> d.idempotencyKey ≠ e.idempotencyKey
  key : e.idempotencyKey = messageKey trigger
  message : e.sourceMessageId = some trigger.sourceMessageId
  case : e.caseId = c.caseId

section Steps

variable {scope : AccessScope} {clock : Nat -> Time} {trigger : CaseTrigger}
  {decision : HandoffDecision} {caseType : CaseType} {metadata : Option CommandMetadata}
  {result : CaseServiceResult} {db db' : Database}

theorem Sees.tenant {c : SupportCase} (h : Sees scope db c) : c.tenantId = scope.tenantId := by
  rcases h.visible with ⟨p, hp, hc⟩
  exact caseVisibility_tenant hp hc

theorem Opens.stored {case : SupportCase} {event : SupportCaseEvent}
    {command : Option OutboxMessage} (h : Opens case event command db db') :
    db'.cases.rows.get case.caseId = some case := by
  apply Table.get_of_mem
  rw [h.rows]
  exact List.mem_append_right _ (List.mem_singleton.mpr rfl)

theorem Updates.stored {current case : SupportCase} {event : SupportCaseEvent}
    {command : Option OutboxMessage} (h : Updates scope current case event command db db')
    (hid : case.caseId = current.caseId) :
    db'.cases.rows.get case.caseId = some case := by
  rw [h.rows]
  apply Table.get_put_self
  rw [hid]
  exact h.sees.stored

theorem TriggerDone.records (h : TriggerDone scope clock trigger decision caseType metadata
    result db db') :
    exists c e, Records scope trigger decision.reasonCodes result c e db db' := by
  rcases h with ⟨customerId, priority, n, _, _, _, _, hnew | hknown⟩
  · rcases hnew with ⟨caseId, eventId, c, e, command, rfl, rfl, rfl, _, hopens⟩
    refine ⟨_, _, ⟨rfl, rfl⟩, hopens.stored, rfl, rfl, fun _ hr => hr, hopens.events,
      hopens.unused, rfl, rfl, rfl⟩
  · rcases hknown with ⟨existing, eventId, c, e, command, hthread, _, _, _, rfl, rfl, rfl, _,
      hupdates⟩
    refine ⟨_, _, ⟨rfl, rfl⟩, hupdates.stored rfl, hthread, hupdates.sees.tenant, ?_,
      hupdates.events, hupdates.unused, rfl, rfl, rfl⟩
    intro r hr
    show r ∈ mergeUnique existing.reasonCodes decision.reasonCodes
    unfold mergeUnique
    rw [mem_fromKeys]
    exact List.mem_append_right _ hr

theorem Queues.hasCommand {m : CommandMetadata} {case : SupportCase}
    {event : SupportCaseEvent} {had : Bool} {command : Option OutboxMessage}
    (h : Queues (some m) case had command) (hlogs : Logs event command db db')
    (hhad : had = true -> hasCaseCommand db case.caseId = true) :
    hasCaseCommand db' case.caseId = true := by
  rw [hasCaseCommand_eq_true, hlogs.messages]
  unfold Queues at h
  cases had with
  | true =>
      rcases hasCaseCommand_eq_true.mp (hhad rfl) with ⟨m', hm', hkind, hid⟩
      exact ⟨m', List.mem_append_left _ hm', hkind, hid⟩
  | false =>
      rcases h with ⟨commandId, envelope, henvelope, rfl⟩
      refine ⟨_, List.mem_append_right _ List.mem_cons_self, ?_⟩
      unfold deliveryCommand at henvelope
      split at henvelope
      · cases henvelope
      · split at henvelope
        · cases henvelope
        · split at henvelope
          · cases henvelope
          · cases henvelope
            exact ⟨rfl, rfl⟩

theorem TriggerDone.hasCommand {m : CommandMetadata} (h : TriggerDone scope clock trigger
    decision caseType (some m) result db db') :
    exists c, result.case = some c ∧ hasCaseCommand db' c.caseId = true := by
  rcases h with ⟨customerId, priority, n, _, _, _, _, hnew | hknown⟩
  · rcases hnew with ⟨caseId, eventId, c, e, command, _, _, rfl, hqueues, hopens⟩
    exact ⟨c, rfl, hqueues.hasCommand hopens.toLogs fun hfalse => (by cases hfalse)⟩
  · rcases hknown with ⟨existing, eventId, c, e, command, _, _, _, _, _, _, rfl, hqueues,
      hupdates⟩
    exact ⟨c, rfl, hqueues.hasCommand hupdates.toLogs fun hhad => hhad⟩

theorem CaseRequest.DoneAt.records {q : CaseRequest} (hq : q.trigger? = some trigger)
    (h : q.DoneAt scope clock result db db') :
    exists c e, Records scope trigger q.reasons result c e db db' := by
  cases q with
  | handoff trigger' decision =>
      cases hq
      rcases h with ⟨caseType, hdone⟩
      exact hdone.records
  | delivery trigger' decision issueType connectionId =>
      cases hq
      rcases h with ⟨connection, _, hdone⟩
      exact hdone.records
  | status caseId targetStatus requestId onHoldReason => cases hq
  | assign directory caseId agentId requestId => cases hq

theorem CaseRequest.DoneAt.hasCommand {q : CaseRequest} (hq : q.investigates = true)
    (h : q.DoneAt scope clock result db db') :
    exists c, result.case = some c ∧ hasCaseCommand db' c.caseId = true := by
  cases q with
  | delivery trigger' decision issueType connectionId =>
      rcases h with ⟨connection, _, hdone⟩
      exact hdone.hasCommand
  | _ => cases hq

theorem CaseRequest.AnsweredAt.known {q : CaseRequest} (hq : q.trigger? = some trigger)
    (h : q.AnsweredAt scope result db) :
    result.event = none ∧ ((result.action = CaseServiceAction.notCreated ∧
      result.case = none) ∨ TriggerKnown scope trigger result db) := by
  have hknown : forall {trigger : CaseTrigger}, TriggerKnown scope trigger result db ->
      result.event = none := by
    rintro trigger ⟨c, e, rfl, _⟩
    rfl
  cases q with
  | handoff trigger' decision =>
      cases hq
      rcases h with ⟨_, rfl⟩ | h
      · exact ⟨rfl, Or.inl ⟨rfl, rfl⟩⟩
      · exact ⟨hknown h, Or.inr h⟩
  | delivery trigger' decision issueType connectionId =>
      cases hq
      exact ⟨hknown h, Or.inr h⟩
  | status caseId targetStatus requestId onHoldReason => cases hq
  | assign directory caseId agentId requestId => cases hq

end Steps

/-!
## Runs
-/

theorem Records.not_again {scope scope' : AccessScope} {trigger trigger' : CaseTrigger}
    {reasons reasons' : List HandoffReason} {result result' : CaseServiceResult}
    {c c' : SupportCase} {e e' : SupportCaseEvent} {db₁ db₂ db₃ db₄ : Database}
    (h : Records scope trigger reasons result c e db₁ db₂)
    (h' : Records scope' trigger' reasons' result' c' e' db₃ db₄)
    (hkey : messageKey trigger = messageKey trigger') (hst : Since db₂ db₃) : False := by
  rcases hst.caseEvents with ⟨more, hmore⟩
  apply h'.unused e
  · rw [hmore, h.events]
    apply List.mem_append_left
    exact List.mem_append_right _ (List.mem_singleton.mpr rfl)
  · rw [h.key, h'.key, hkey]

/-- Of two calls about one message, one at least has changed no table, wherever they have
been made. -/
theorem World.Runs.one_record {stages : List (Stage World Event)} {w : World}
    (h : World.Runs stages w) {x x' : Stage World Event} {i j : Nat}
    {own own' : List (Stage World Event)} {q q' : CaseRequest}
    {scope scope' : AccessScope} {clock clock' : Nat -> Time}
    {trigger trigger' : CaseTrigger} {result result' : CaseServiceResult}
    (hq : q.trigger? = some trigger) (hq' : q'.trigger? = some trigger')
    (hthread : trigger.threadId = trigger'.threadId)
    (hmessage : trigger.sourceMessageId = trigger'.sourceMessageId)
    (hmade : Makes stages i (q.call scope clock) x own (Except.ok result))
    (hmade' : Makes stages j (q'.call scope' clock') x' own' (Except.ok result'))
    (hapart : forall y, y ∈ own -> y ∉ own') :
    (result.event = none ∧ forall y, y ∈ own -> SameTables y.before.db y.after.db) ∨
    (result'.event = none ∧ forall y, y ∈ own' -> SameTables y.before.db y.after.db) := by
  rcases h.made_at_one_point hmade fun db => q.call_atomic db with hanswer | hact
  · left
    rcases hanswer.right result rfl with ⟨_, _, hright⟩
    exact ⟨(hright.known hq).left, hanswer.idle⟩
  · rcases h.made_at_one_point hmade' fun db => q'.call_atomic db with hanswer | hact'
    · right
      rcases hanswer.right result' rfl with ⟨_, _, hright⟩
      exact ⟨(hright.known hq').left, hanswer.idle⟩
    · -- both have recorded the message, one after the other
      exfalso
      rcases hact with ⟨first, y, a, rfl, _, _, hdone⟩
      rcases hact' with ⟨first', z, a', rfl, _, _, hdone'⟩
      rcases hdone.records hq with ⟨c, e, hrecords⟩
      rcases hdone'.records hq' with ⟨c', e', hrecords'⟩
      have hkey : messageKey trigger = messageKey trigger' := by
        unfold messageKey
        rw [hthread, hmessage]
      rcases hmade.last_apart h hmade' hapart with ⟨_, _, hsince | hsince⟩
      · exact hrecords.not_again hrecords' hkey hsince
      · exact hrecords'.not_again hrecords hkey.symm hsince

/--
Each message is recorded once.  Of any two calls about the same message of a thread that
have returned, by whatever methods and whoever has made them, at least one has changed no
table: its decision opened no case, or it has found the message on record.
-/
theorem message_recorded_once {stages : List (Stage World Event)} {w : World}
    (h : World.Runs stages w) {x x' : Stage World Event} (hx : x ∈ stages)
    (hx' : x' ∈ stages) {i j : Nat} (hne : i ≠ j) {q q' : CaseRequest}
    {scope scope' : AccessScope} {clock clock' : Nat -> Time}
    {trigger trigger' : CaseTrigger} {result result' : CaseServiceResult}
    (hq : q.trigger? = some trigger) (hq' : q'.trigger? = some trigger')
    (hthread : trigger.threadId = trigger'.threadId)
    (hmessage : trigger.sourceMessageId = trigger'.sourceMessageId)
    (hbegins : Begins i (q.call scope clock) x)
    (hbegins' : Begins j (q'.call scope' clock') x')
    (hended : w.Ended i (Except.ok result)) (hended' : w.Ended j (Except.ok result')) :
    (result.event = none ∧
      forall y, y ∈ ownStages i stages -> SameTables y.before.db y.after.db) ∨
    (result'.event = none ∧
      forall y, y ∈ ownStages j stages -> SameTables y.before.db y.after.db) := by
  have hmade := h.makes hx hbegins hended
  have hmade' := h.makes hx' hbegins' hended'
  exact h.one_record hq hq' hthread hmessage hmade hmade' (hmade.apart h hmade' hne)

/-- A customer reports a damaged package. -/
def sampleComplaint : Call CaseServiceResult :=
  recordDeliveryInvestigation sampleCustomer sampleTrigger sampleInvestigation
    DeliveryIssueType.packageDamaged "connection" (fun _ => 0)

theorem sampleComplaint_method : Method AnyDecision sampleComplaint :=
  Method.recordDeliveryInvestigation sampleCustomer sampleTrigger sampleInvestigation
    DeliveryIssueType.packageDamaged "connection" (fun _ => 0) trivial

theorem sampleComplaint_events :
    (sampleComplaint.run (World.initial sampleIds).db).1.toOption.map
        (fun r => (r.case.isSome, r.event.isSome)) = some (true, true) ∧
      (sampleComplaint.run ((World.initial sampleIds).serve sampleComplaint).db).1.toOption.map
        (fun r => r.event.isSome) = some false := by
  decide +kernel

/-- The customer sends the same message twice. -/
theorem message_recorded_once_sample :
    exists stages w, World.Runs stages w ∧
    exists (i j : Nat) (result result' : CaseServiceResult), i ≠ j ∧
      w.Ended i (Except.ok result) ∧ w.Ended j (Except.ok result') ∧
      result.event.isSome = true ∧ result'.event = none ∧
      forall y, y ∈ ownStages j stages -> SameTables y.before.db y.after.db := by
  have hstart : World.Runs [] (World.initial sampleIds) := ⟨sampleIds, Run.nil _⟩
  rcases sampleComplaint_events with ⟨hfirst, hsecond⟩
  generalize World.initial sampleIds = w at hstart hfirst hsecond
  rcases hstart.serve_entered sampleComplaint_method with ⟨more, x, hrun, hx, hbegins, hended⟩
  rcases hrun.serve_entered sampleComplaint_method with
    ⟨more', x', hrun', hx', hbegins', hended'⟩
  have hended := hended.serve sampleComplaint
  cases hresult : (sampleComplaint.run w.db).1 with
  | error e =>
      rw [hresult] at hfirst
      cases hfirst
  | ok result =>
      cases hresult' : (sampleComplaint.run (w.serve sampleComplaint).db).1 with
      | error e =>
          rw [hresult'] at hsecond
          cases hsecond
      | ok result' =>
          rw [hresult] at hfirst hended
          rw [hresult'] at hsecond hended'
          have hevent : result.event.isSome = true :=
            congrArg Prod.snd (Option.some.inj hfirst)
          have hne : w.calls.length ≠ (w.serve sampleComplaint).calls.length := by
            rw [World.serve_length]
            exact Nat.ne_of_lt (Nat.lt_succ_self _)
          have hcall : Begins w.calls.length ((CaseRequest.delivery sampleTrigger
            sampleInvestigation DeliveryIssueType.packageDamaged "connection").call
              sampleCustomer (fun _ => 0)) x := hbegins
          have hcall' : Begins (w.serve sampleComplaint).calls.length
            ((CaseRequest.delivery sampleTrigger sampleInvestigation
              DeliveryIssueType.packageDamaged "connection").call sampleCustomer
                (fun _ => 0)) x' := hbegins'
          rcases message_recorded_once hrun'
            (List.mem_append_left _ (List.mem_append_right _ hx))
            (List.mem_append_right _ hx') hne rfl rfl rfl rfl hcall hcall' hended hended' with
            hsame | hsame
          · rw [hsame.left] at hevent
            cases hevent
          · exact ⟨_, _, hrun', _, _, result, result', hne, hended, hended', hevent, hsame⟩

/-- The message is on record in a case of its thread and its tenant. -/
structure MessageOnRecord (scope : AccessScope) (trigger : CaseTrigger) (caseId : UUID)
    (c : SupportCase) (e : SupportCaseEvent) (db : Database) : Prop where
  stored : db.cases.rows.get caseId = some c
  thread : c.threadId = trigger.threadId
  tenant : c.tenantId = scope.tenantId
  logged : e ∈ db.cases.events.rows
  message : e.sourceMessageId = some trigger.sourceMessageId
  case : e.caseId = caseId

theorem MessageOnRecord.later {scope : AccessScope} {trigger : CaseTrigger} {caseId : UUID}
    {c : SupportCase} {e : SupportCaseEvent} {db db' : Database}
    (h : MessageOnRecord scope trigger caseId c e db) (hkept : CasesContinue db db')
    (hst : Since db db') : exists c', MessageOnRecord scope trigger caseId c' e db' ∧
      forall r, r ∈ c.reasonCodes -> r ∈ c'.reasonCodes := by
  rcases hkept _ c h.stored with ⟨c', hc', hfrozen, hreasons⟩
  rcases hst.caseEvents with ⟨more, hmore⟩
  refine ⟨c', ⟨hc', ?_, ?_, ?_, h.message, h.case⟩, hreasons⟩
  · show c'.frozen.threadId = _
    rw [hfrozen]
    exact h.thread
  · show c'.frozen.tenantId = _
    rw [hfrozen]
    exact h.tenant
  · rw [hmore]
    exact List.mem_append_left _ h.logged

theorem hasCaseCommand_later {db db' : Database} {caseId : UUID}
    (h : hasCaseCommand db caseId = true) (hst : Since db db') :
    hasCaseCommand db' caseId = true := by
  rcases hasCaseCommand_eq_true.mp h with ⟨m, hm, hkind, hid⟩
  rcases hst.later.outbox _ m (Table.get_of_mem hm) with ⟨m', hm', hsame⟩
  rw [hasCaseCommand_eq_true]
  refine ⟨m', Table.mem_of_get hm', ?_, ?_⟩
  · show m'.toProviderCommandEnvelope.aggregateType = _
    rw [hsame]
    exact hkind
  · show m'.toProviderCommandEnvelope.aggregateId = _
    rw [hsame]
    exact hid

/-- A call that has returned a case leaves its message on record, wherever it has been
made. -/
theorem World.Runs.keeps_message {stages : List (Stage World Event)} {w : World}
    (h : World.Runs stages w) {x : Stage World Event} {i : Nat}
    {own : List (Stage World Event)}
    {q : CaseRequest} {scope : AccessScope} {clock : Nat -> Time} {trigger : CaseTrigger}
    {result : CaseServiceResult} {c : SupportCase} (hq : q.trigger? = some trigger)
    (hmade : Makes stages i (q.call scope clock) x own (Except.ok result))
    (hcase : result.case = some c) :
    exists c' e, MessageOnRecord scope trigger c.caseId c' e w.db ∧
      (result.event.isSome = true -> e.idempotencyKey = messageKey trigger ∧
        (forall r, r ∈ q.reasons -> r ∈ c'.reasonCodes) ∧
        (q.investigates = true -> OneCommand w.db c.caseId)) := by
  rcases h.made_at_one_point hmade fun db => q.call_atomic db with hanswer | hact
  · rcases hanswer.right result rfl with ⟨y, hy, hright⟩
    have hmem : y ∈ stages := by
      rcases hy with rfl | hy
      · exact hmade.entered
      · exact (hmade.mem hy).left
    rcases hright.known hq with ⟨hnone, ⟨_, hempty⟩ | ⟨c₁, e, rfl, hsees, hthread, he, hm, hid⟩⟩
    · rw [hempty] at hcase
      cases hcase
    · cases hcase
      have hrecord : MessageOnRecord scope trigger c.caseId c e y.after.db :=
        ⟨hsees.stored, hthread, hsees.tenant, he, hm, hid⟩
      rcases hrecord.later (h.casesContinue hmem) (h.since_final hmem) with ⟨c', hrecord', _⟩
      exact ⟨c', e, hrecord', fun hsome => (by cases hsome)⟩
  · rcases hact with ⟨first, y, a, rfl, ha, _, hdone⟩
    cases ha
    have hmem := (hmade.mem (List.mem_append_right first List.mem_cons_self)).left
    rcases hdone.records hq with ⟨c₁, e, hrecords⟩
    have hsame := hrecords.result.left
    rw [hcase] at hsame
    cases hsame
    have hlogged : e ∈ y.after.db.cases.events.rows := by
      rw [hrecords.events]
      exact List.mem_append_right _ (List.mem_singleton.mpr rfl)
    have hrecord : MessageOnRecord scope trigger c.caseId c e y.after.db :=
      ⟨hrecords.stored, hrecords.thread, hrecords.tenant, hlogged, hrecords.message,
        hrecords.case⟩
    rcases hrecord.later (h.casesContinue hmem) (h.since_final hmem) with ⟨c', hrecord', hreasons⟩
    refine ⟨c', e, hrecord', fun _ => ⟨hrecords.key, ?_, ?_⟩⟩
    · exact fun r hr => hreasons r (hrecords.reasons r hr)
    · intro hinvestigates
      rcases hdone.hasCommand hinvestigates with ⟨c₂, hcase₂, hhas⟩
      rw [hcase] at hcase₂
      cases hcase₂
      have hkeys := (h.kept (I := KeysDiffer) (fun ids m m' hm => (by cases hm))
        (fun l db db' hmove _ hdb => hmove.keysDiffer hdb)).left
      exact h.good.left.sound.oneCommand hkeys (hasCaseCommand_later hhas (h.since_final hmem))

/--
No message is lost.  When a call about a message has returned a case, then in every state
from there on the message is on record in that case, which is one of the thread and of the
tenant; if the call has recorded it itself, the case has all the reasons of the decision,
and after a delivery investigation it has a command and only one.
-/
theorem message_stays_recorded {stages : List (Stage World Event)} {w : World}
    (h : World.Runs stages w) {x : Stage World Event} (hx : x ∈ stages) {i : Nat}
    {q : CaseRequest} {scope : AccessScope} {clock : Nat -> Time} {trigger : CaseTrigger}
    {result : CaseServiceResult} {c : SupportCase} (hq : q.trigger? = some trigger)
    (hbegins : Begins i (q.call scope clock) x) (hended : w.Ended i (Except.ok result))
    (hcase : result.case = some c) :
    exists c' e, MessageOnRecord scope trigger c.caseId c' e w.db ∧
      (result.event.isSome = true -> e.idempotencyKey = messageKey trigger ∧
        (forall r, r ∈ q.reasons -> r ∈ c'.reasonCodes) ∧
        (q.investigates = true -> OneCommand w.db c.caseId)) :=
  h.keeps_message hq (h.makes hx hbegins hended) hcase

theorem message_stays_recorded_sample :
    exists stages w, World.Runs stages w ∧ exists c c' e,
      MessageOnRecord sampleCustomer sampleTrigger c c' e w.db ∧
      (forall r, r ∈ sampleInvestigation.reasonCodes -> r ∈ c'.reasonCodes) ∧
      OneCommand w.db c := by
  have hstart : World.Runs [] (World.initial sampleIds) := ⟨sampleIds, Run.nil _⟩
  rcases sampleComplaint_events with ⟨hfirst, _⟩
  generalize World.initial sampleIds = w at hstart hfirst
  rcases hstart.serve_entered sampleComplaint_method with ⟨more, x, hrun, hx, hbegins, hended⟩
  cases hresult : (sampleComplaint.run w.db).1 with
  | error e =>
      rw [hresult] at hfirst
      cases hfirst
  | ok result =>
      rw [hresult] at hfirst hended
      have hboth := Option.some.inj hfirst
      have hevent : result.event.isSome = true := congrArg Prod.snd hboth
      rcases Option.isSome_iff_exists.mp (congrArg Prod.fst hboth) with ⟨c, hcase⟩
      have hcall : Begins w.calls.length ((CaseRequest.delivery sampleTrigger
        sampleInvestigation DeliveryIssueType.packageDamaged "connection").call
          sampleCustomer (fun _ => 0)) x := hbegins
      rcases message_stays_recorded hrun (List.mem_append_right _ hx) rfl hcall hended hcase
        with ⟨c', e, hrecord, hdone⟩
      rcases hdone hevent with ⟨_, hreasons, hcommand⟩
      exact ⟨_, _, hrun, _, c', e, hrecord, hreasons, hcommand rfl⟩

end RefundAgent
